import Mathlib.Data.List.Perm.Basic
import Mathlib.Data.List.Nodup

/-!
# Identifiers, strings and maps as the Rust code sees them

A `Uuid` is a 128-bit value written in the hyphenated lower-case form of `Uuid::to_string`.
The string helpers are the `str` methods the handlers call: `to_ascii_lowercase`,
`eq_ignore_ascii_case` and `contains`. A `HashMap` is its entries in iteration order, with no
key twice; its iteration order is arbitrary, so results that depend on it are stated up to
permutation.
-/

namespace AgentKanban

/-- A UUID: 128 bits. -/
structure Uuid where
  bits : BitVec 128
  deriving DecidableEq, Repr

/-- The lower-case hex digit of `n < 16`. -/
def hexChar (n : Nat) : Char := if n < 10 then Char.ofNat (0x30 + n) else Char.ofNat (0x57 + n)

/-- The low `w` hex digits of `n`, most significant first. -/
def hexDigits : Nat → Nat → List Char
  | 0, _ => []
  | w + 1, n => hexDigits w (n / 16) ++ [hexChar (n % 16)]

/-- `Uuid::to_string`: the hyphenated form `8-4-4-4-12`. -/
def Uuid.toString (u : Uuid) : String :=
  let v := u.bits.toNat
  ⟨hexDigits 8 (v >>> 96) ++ '-' :: hexDigits 4 (v >>> 80) ++ '-' :: hexDigits 4 (v >>> 64) ++
    '-' :: hexDigits 4 (v >>> 48) ++ '-' :: hexDigits 12 v⟩

instance : ToString Uuid := ⟨Uuid.toString⟩

/-! ## ASCII case -/

/-- `str::to_ascii_lowercase`. -/
def toAsciiLowercase (s : String) : String := ⟨s.data.map Char.toLower⟩

/-- `str::eq_ignore_ascii_case`. -/
def eqIgnoreAsciiCase (a b : String) : Bool := a.data.map Char.toLower == b.data.map Char.toLower

/-- `str::contains` with a string pattern: `needle` occurs in `hay` as a contiguous run. -/
def strContains (hay needle : String) : Bool :=
  (List.range (hay.length + 1)).any fun i => needle.data.isPrefixOf (hay.data.drop i)

theorem strContains_iff (hay needle : String) :
    strContains hay needle = true ↔ needle.data <:+: hay.data := by
  simp only [strContains, List.any_eq_true, List.mem_range, List.isPrefixOf_iff_prefix]
  constructor
  · rintro ⟨i, -, h⟩
    exact h.isInfix.trans (List.drop_suffix i hay.data).isInfix
  · rintro ⟨s, t, h⟩
    refine ⟨s.length, ?_, ?_⟩
    · have := congrArg List.length h
      simp only [List.length_append] at this
      simp only [String.length]
      omega
    · rw [← h, List.append_assoc, List.drop_left]
      exact List.prefix_append _ _

/-- Matching after ASCII lower-casing both sides finds exactly the runs of `hay` equal to
`needle` up to ASCII case. -/
theorem strContains_lowercase_iff (hay needle : String) :
    strContains (toAsciiLowercase hay) (toAsciiLowercase needle) = true ↔
      ∃ pre mid suf, hay.data = pre ++ mid ++ suf ∧ eqIgnoreAsciiCase ⟨mid⟩ needle = true := by
  simp only [strContains_iff, toAsciiLowercase, eqIgnoreAsciiCase, beq_iff_eq]
  constructor
  · rintro ⟨s, t, h⟩
    obtain ⟨pm, suf, hpm, hpm', -⟩ := List.map_eq_append_iff.mp h.symm
    obtain ⟨pre, mid, rfl, -, hm⟩ := List.map_eq_append_iff.mp hpm'
    exact ⟨pre, mid, suf, hpm, hm⟩
  · rintro ⟨pre, mid, suf, h, hm⟩
    exact ⟨pre.map Char.toLower, suf.map Char.toLower, by
      rw [h, List.map_append, List.map_append, hm]⟩

/-! ## Hash maps -/

/-- A `HashMap`: its entries in iteration order, no key twice. -/
structure HashMap (κ ν : Type) where
  entries : List (κ × ν)
  keys_nodup : (entries.map Prod.fst).Nodup

namespace HashMap

variable {κ ν : Type}

theorem entries_nodup (m : HashMap κ ν) : m.entries.Nodup :=
  List.Nodup.of_map Prod.fst m.keys_nodup

variable [DecidableEq κ]

/-- `HashMap::get`. -/
def get? (m : HashMap κ ν) (k : κ) : Option ν := m.entries.lookup k

/-- `HashMap::contains_key`. -/
def containsKey (m : HashMap κ ν) (k : κ) : Bool := (m.get? k).isSome

/-- An entry of the map is the value the map gives its key. -/
theorem mem_entries_iff (m : HashMap κ ν) (k : κ) (v : ν) :
    (k, v) ∈ m.entries ↔ m.get? k = some v := by
  obtain ⟨l, hl⟩ := m
  simp only [get?]
  induction l with
  | nil => simp
  | cons e l ih =>
    obtain ⟨k', v'⟩ := e
    simp only [List.map_cons, List.nodup_cons, List.mem_map, Prod.exists, exists_and_right,
      exists_eq_right, not_exists] at hl
    by_cases hk : k = k'
    · subst hk
      have : ∀ w, (k, w) ∉ l := hl.1
      simp [List.lookup_cons, this, eq_comm]
    · have hne : (k == k') = false := by simpa using hk
      simp [List.lookup_cons, hne, hk, ih hl.2]

end HashMap

end AgentKanban
