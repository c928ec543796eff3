import Mathlib.Data.Nat.Defs

/-!
# UTF-8

A Rust `str` is the UTF-8 encoding of a sequence of Unicode scalar values. `encodeChar` writes
one scalar value as RFC 3629 §3 does; `decodeLossy` reads bytes back as `String::from_utf8_lossy`
does: a well-formed sequence gives its scalar value, and each maximal ill-formed subpart gives
one `U+FFFD` (RFC 3629 §4 for the byte ranges).

`decodeLossy_encode`: decoding the encoding of a string gives the string back.
-/

namespace AgentKanban.Utf8

/-- The UTF-8 bytes of one scalar value. -/
def encodeChar (c : Char) : List UInt8 :=
  let v := c.toNat
  if v < 0x80 then [v.toUInt8]
  else if v < 0x800 then [(0xC0 + v / 0x40).toUInt8, (0x80 + v % 0x40).toUInt8]
  else if v < 0x10000 then
    [(0xE0 + v / 0x1000).toUInt8, (0x80 + v / 0x40 % 0x40).toUInt8, (0x80 + v % 0x40).toUInt8]
  else
    [(0xF0 + v / 0x40000).toUInt8, (0x80 + v / 0x1000 % 0x40).toUInt8,
      (0x80 + v / 0x40 % 0x40).toUInt8, (0x80 + v % 0x40).toUInt8]

/-- The UTF-8 bytes of a string (`str::as_bytes`). -/
def encode (s : String) : List UInt8 := s.data.flatMap encodeChar

/-- A lead byte: how many continuation bytes it announces, and the value bits it carries. -/
def leadByte (b : Nat) : Option (Nat × Nat) :=
  if b < 0x80 then some (0, b)
  else if 0xC2 ≤ b ∧ b ≤ 0xDF then some (1, b - 0xC0)
  else if 0xE0 ≤ b ∧ b ≤ 0xEF then some (2, b - 0xE0)
  else if 0xF0 ≤ b ∧ b ≤ 0xF4 then some (3, b - 0xF0)
  else none

/-- The range of the first continuation byte after lead byte `b`: narrower after `E0`, `ED`,
`F0` and `F4`, which rules out overlong forms, surrogates and values past `U+10FFFF`. -/
def firstTailRange (b : Nat) : Nat × Nat :=
  if b = 0xE0 then (0xA0, 0xBF) else if b = 0xED then (0x80, 0x9F)
  else if b = 0xF0 then (0x90, 0xBF) else if b = 0xF4 then (0x80, 0x8F) else (0x80, 0xBF)

/-- Read `n` continuation bytes onto `acc`, the first in `lo..hi` and the rest in `80..BF`;
at a byte out of range, or at the end, stop before it with no value. -/
def readTail : Nat → Nat → Nat → Nat → List UInt8 → Option Nat × List UInt8
  | 0, _, _, acc, bs => (some acc, bs)
  | _ + 1, _, _, _, [] => (none, [])
  | n + 1, lo, hi, acc, b :: bs =>
    if lo ≤ b.toNat ∧ b.toNat ≤ hi then readTail n 0x80 0xBF (acc * 0x40 + (b.toNat - 0x80)) bs
    else (none, b :: bs)

theorem readTail_length_le : ∀ (n lo hi acc : Nat) (bs : List UInt8),
    (readTail n lo hi acc bs).2.length ≤ bs.length
  | 0, _, _, _, _ => Nat.le_refl _
  | _ + 1, _, _, _, [] => Nat.le_refl _
  | n + 1, lo, hi, acc, b :: bs => by
    unfold readTail
    split
    · exact Nat.le_succ_of_le (readTail_length_le n _ _ _ bs)
    · exact Nat.le_refl _

/-- The replacement character `U+FFFD`. -/
def replacement : Char := ⟨0xFFFD, by decide⟩

/-- `String::from_utf8_lossy`, as scalar values. -/
def decodeLossy : List UInt8 → List Char
  | [] => []
  | b :: bs =>
    match leadByte b.toNat with
    | none => replacement :: decodeLossy bs
    | some (n, v) =>
      let r := readTail n (firstTailRange b.toNat).1 (firstTailRange b.toNat).2 v bs
      (match r.1 with
        | some c => Char.ofNat c
        | none => replacement) :: decodeLossy r.2
termination_by bs => bs.length
decreasing_by
  all_goals simp_wf
  have := readTail_length_le n (firstTailRange b.toNat).1 (firstTailRange b.toNat).2 v bs
  omega

/-! ## Decoding an encoded scalar value -/

theorem toNat_toUInt8 {n : Nat} (h : n < 256) : n.toUInt8.toNat = n := UInt8.toNat_ofNat_of_lt h

theorem leadByte_eq {b : Nat} :
    (b < 0x80 → leadByte b = some (0, b)) ∧
    (0xC2 ≤ b → b ≤ 0xDF → leadByte b = some (1, b - 0xC0)) ∧
    (0xE0 ≤ b → b ≤ 0xEF → leadByte b = some (2, b - 0xE0)) ∧
    (0xF0 ≤ b → b ≤ 0xF4 → leadByte b = some (3, b - 0xF0)) := by
  unfold leadByte
  refine ⟨fun h => ?_, fun h1 h2 => ?_, fun h1 h2 => ?_, fun h1 h2 => ?_⟩
  · rw [if_pos h]
  · rw [if_neg (by omega), if_pos ⟨h1, h2⟩]
  · rw [if_neg (by omega), if_neg (by omega), if_pos ⟨h1, h2⟩]
  · rw [if_neg (by omega), if_neg (by omega), if_neg (by omega), if_pos ⟨h1, h2⟩]

theorem readTail_cons_of_mem {n lo hi acc : Nat} {b : UInt8} (bs : List UInt8)
    (h : lo ≤ b.toNat ∧ b.toNat ≤ hi) :
    readTail (n + 1) lo hi acc (b :: bs) =
      readTail n 0x80 0xBF (acc * 0x40 + (b.toNat - 0x80)) bs := by
  simp only [readTail, if_pos h]

/-- The first continuation byte fits lead byte `b` when it is in `80..BF` and clears the
narrower bounds of `E0`, `ED`, `F0` and `F4`. -/
theorem mem_firstTailRange {b x : Nat} (hx : 0x80 ≤ x ∧ x ≤ 0xBF) (hE0 : b = 0xE0 → 0xA0 ≤ x)
    (hED : b = 0xED → x ≤ 0x9F) (hF0 : b = 0xF0 → 0x90 ≤ x) (hF4 : b = 0xF4 → x ≤ 0x8F) :
    (firstTailRange b).1 ≤ x ∧ x ≤ (firstTailRange b).2 := by
  unfold firstTailRange; split_ifs <;> omega

/-- A continuation byte `10xxxxxx` carrying the low six bits of `x`. -/
theorem toNat_cont (x : Nat) : (0x80 + x % 0x40).toUInt8.toNat = 0x80 + x % 0x40 :=
  toNat_toUInt8 (by omega)

/-- A continuation byte in range adds its six bits to the value read so far. -/
theorem readTail_cont {n lo hi acc : Nat} (x : Nat) (bs : List UInt8)
    (h : lo ≤ 0x80 + x % 0x40 ∧ 0x80 + x % 0x40 ≤ hi) :
    readTail (n + 1) lo hi acc ((0x80 + x % 0x40).toUInt8 :: bs) =
      readTail n 0x80 0xBF (acc * 0x40 + x % 0x40) bs := by
  rw [readTail_cons_of_mem _ (by rwa [toNat_cont]), toNat_cont, Nat.add_sub_cancel_left]

theorem decodeLossy_lead {b n v : Nat} (hb : b < 256) (h : leadByte b = some (n, v))
    (bs : List UInt8) :
    decodeLossy (b.toUInt8 :: bs) =
      (match (readTail n (firstTailRange b).1 (firstTailRange b).2 v bs).1 with
        | some c => Char.ofNat c
        | none => replacement) ::
        decodeLossy (readTail n (firstTailRange b).1 (firstTailRange b).2 v bs).2 := by
  rw [decodeLossy, toNat_toUInt8 hb, h]

/-- Decoding stops after the bytes of one encoded scalar value and gives it back. -/
theorem decodeLossy_encodeChar (c : Char) (rest : List UInt8) :
    decodeLossy (encodeChar c ++ rest) = c :: decodeLossy rest := by
  have hc : c.toNat < 0xd800 ∨ (0xdfff < c.toNat ∧ c.toNat < 0x110000) := c.valid
  conv_rhs => rw [← Char.ofNat_toNat c]
  unfold encodeChar
  dsimp only
  generalize c.toNat = v at hc ⊢
  split_ifs with h1 h2 h3
  · -- one byte
    rw [List.singleton_append, decodeLossy_lead (by omega) (leadByte_eq.1 h1)]
    rfl
  · -- two bytes
    rw [List.cons_append, decodeLossy_lead (by omega) (leadByte_eq.2.1 (by omega) (by omega)),
      List.singleton_append,
      readTail_cont _ _ (mem_firstTailRange (by omega) (by omega) (by omega) (by omega) (by omega)),
      readTail]
    dsimp only
    congr 2; omega
  · -- three bytes
    rw [List.cons_append, decodeLossy_lead (by omega) (leadByte_eq.2.2.1 (by omega) (by omega)),
      List.cons_append, List.singleton_append,
      readTail_cont _ _ (mem_firstTailRange (by omega) (by omega) (by omega) (by omega) (by omega)),
      readTail_cont _ _ (by omega), readTail]
    dsimp only
    congr 2; omega
  · -- four bytes
    rw [List.cons_append, decodeLossy_lead (by omega) (leadByte_eq.2.2.2 (by omega) (by omega)),
      List.cons_append, List.cons_append, List.singleton_append,
      readTail_cont _ _ (mem_firstTailRange (by omega) (by omega) (by omega) (by omega) (by omega)),
      readTail_cont _ _ (by omega), readTail_cont _ _ (by omega), readTail]
    dsimp only
    congr 2; omega

/-- **The round trip.** Decoding the UTF-8 bytes of a string gives the string back. -/
theorem decodeLossy_encode (s : String) : decodeLossy (encode s) = s.data := by
  obtain ⟨l⟩ := s
  induction l with
  | nil => simp [encode, decodeLossy]
  | cons c l ih =>
    simp only [encode, List.flatMap_cons] at ih ⊢
    rw [decodeLossy_encodeChar, ih]

end AgentKanban.Utf8
