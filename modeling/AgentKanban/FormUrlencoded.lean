import AgentKanban.Utf8

/-!
# `application/x-www-form-urlencoded`

The two halves of the `form_urlencoded` crate that `proxy_table` and its upstream meet:
`Serializer::append_pair` on a URL's query (through `Url::query_pairs_mut`), which writes
`byte_serialize` of the UTF-8 bytes of the name and the value, and `parse`, which splits the
query's bytes at every `&` and each non-empty sequence at its first `=`, then decodes
`+` to a space, percent escapes to bytes, and the bytes as UTF-8 (lossily).

1. A serialized component is ASCII and holds neither `&` nor `=` (`serializeByte_mem`).
2. Decoding a serialized component gives the string back (`decodeComponent_appendEncoded`).
3. So one `append_pair` adds exactly its pair to what the query parses to
   (`parse_appendPair`), and a run of them adds exactly their list (`parse_appendPairs`).
-/

namespace AgentKanban.FormUrlencoded

open Utf8

/-! ## Serializing -/

/-- The bytes `byte_serialize` keeps as they are: `*`, `-`, `.`, `_`, digits and ASCII letters. -/
def unreserved (b : Nat) : Bool :=
  b = 0x2A || b = 0x2D || b = 0x2E || b = 0x5F || (0x30 ≤ b && b ≤ 0x39) ||
    (0x41 ≤ b && b ≤ 0x5A) || (0x61 ≤ b && b ≤ 0x7A)

/-- An upper-case hex digit, as `percent_encode_byte` writes it. -/
def hexDigit (n : Nat) : UInt8 := if n < 10 then (0x30 + n).toUInt8 else (0x37 + n).toUInt8

/-- `byte_serialize` of one byte: kept, a space as `+`, or `%XX`. -/
def serializeByte (b : UInt8) : List UInt8 :=
  if unreserved b.toNat then [b]
  else if b.toNat = 0x20 then [0x2B]
  else [0x25, hexDigit (b.toNat / 16), hexDigit (b.toNat % 16)]

/-- `append_encoded`: `byte_serialize` of the UTF-8 bytes of `s`. -/
def appendEncoded (s : String) : List UInt8 := (encode s).flatMap serializeByte

/-- The characters of an ASCII byte string. -/
def asciiChars (bs : List UInt8) : List Char := bs.map fun b => Char.ofNat b.toNat

/-- `query_pairs_mut().append_pair(name, value)` on a URL whose query is `query` (the empty
query when the URL has none): `&` unless the query is empty, then `name=value` serialized. -/
def appendPair (query : String) (name value : String) : String :=
  ⟨query.data ++ (if query.data = [] then [] else ['&']) ++
    asciiChars (appendEncoded name ++ 0x3D :: appendEncoded value)⟩

/-- A run of `append_pair` calls, in order. -/
def appendPairs (query : String) (pairs : List (String × String)) : String :=
  pairs.foldl (fun q p => appendPair q p.1 p.2) query

@[simp] theorem appendPairs_nil (q : String) : appendPairs q [] = q := rfl

@[simp] theorem appendPairs_cons (q : String) (p : String × String) (l : List (String × String)) :
    appendPairs q (p :: l) = appendPairs (appendPair q p.1 p.2) l := rfl

theorem appendPairs_append (q : String) (l₁ l₂ : List (String × String)) :
    appendPairs q (l₁ ++ l₂) = appendPairs (appendPairs q l₁) l₂ := List.foldl_append _ _ _ _

/-! ## Parsing -/

/-- `char::from(b).to_digit(16)`. -/
def hexValue (b : UInt8) : Option Nat :=
  if 0x30 ≤ b.toNat ∧ b.toNat ≤ 0x39 then some (b.toNat - 0x30)
  else if 0x41 ≤ b.toNat ∧ b.toNat ≤ 0x46 then some (b.toNat - 0x37)
  else if 0x61 ≤ b.toNat ∧ b.toNat ≤ 0x66 then some (b.toNat - 0x57)
  else none

/-- `percent_decode`: `%` and two hex digits give one byte; any other `%` stays. -/
def percentDecode : List UInt8 → List UInt8
  | [] => []
  | b :: h :: l :: rest =>
    if b.toNat = 0x25 then
      match hexValue h, hexValue l with
      | some x, some y => (x * 16 + y).toUInt8 :: percentDecode rest
      | _, _ => b :: percentDecode (h :: l :: rest)
    else b :: percentDecode (h :: l :: rest)
  | b :: bs => b :: percentDecode bs
termination_by structural bs => bs

/-- `replace_plus`: every `+` becomes a space. -/
def replacePlus (bs : List UInt8) : List UInt8 := bs.map fun b => if b.toNat = 0x2B then 0x20 else b

/-- `decode`: plus signs, then percent escapes, then UTF-8. -/
def decodeComponent (bs : List UInt8) : String := ⟨decodeLossy (percentDecode (replacePlus bs))⟩

/-- Put `b` at the front of the first sequence. -/
def consFirst (b : UInt8) : List (List UInt8) → List (List UInt8)
  | [] => [[b]]
  | p :: ps => (b :: p) :: ps

/-- The sequences between the `&` bytes of `input`, the empty ones included. -/
def splitAmp : List UInt8 → List (List UInt8)
  | [] => [[]]
  | b :: bs => if b.toNat = 0x26 then [] :: splitAmp bs else consFirst b (splitAmp bs)

/-- `splitn(2, '=')`: the bytes before the first `=`, and those after it. -/
def splitEq : List UInt8 → List UInt8 × List UInt8
  | [] => ([], [])
  | b :: bs => if b.toNat = 0x3D then ([], bs) else (b :: (splitEq bs).1, (splitEq bs).2)

/-- The decoded pair of one non-empty sequence. -/
def parsePair (seq : List UInt8) : Option (String × String) :=
  if seq = [] then none else some (decodeComponent (splitEq seq).1, decodeComponent (splitEq seq).2)

/-- `form_urlencoded::parse`: the loop skips empty sequences and decodes the others. -/
def parse (input : List UInt8) : List (String × String) := (splitAmp input).filterMap parsePair

/-! ## A serialized component -/

theorem hexDigit_toNat {n : Nat} (h : n < 16) :
    (hexDigit n).toNat = if n < 10 then 0x30 + n else 0x37 + n := by
  unfold hexDigit; split_ifs <;> exact toNat_toUInt8 (by omega)

theorem hexValue_hexDigit {n : Nat} (h : n < 16) : hexValue (hexDigit n) = some n := by
  unfold hexValue
  rw [hexDigit_toNat h]
  split_ifs <;> (congr 1; omega)

/-- Every byte `serializeByte` writes is ASCII, and none is `&`, `=` or `+` unless it encodes
a space. -/
theorem serializeByte_mem {b x : UInt8} (h : x ∈ serializeByte b) :
    x.toNat < 0x80 ∧ x.toNat ≠ 0x26 ∧ x.toNat ≠ 0x3D ∧ (x.toNat = 0x2B → b.toNat = 0x20) := by
  have hb : b.toNat < 256 := UInt8.toNat_lt_size b
  unfold serializeByte at h
  split_ifs at h with hu hs
  · rw [List.mem_singleton.mp h]
    simp only [unreserved, Bool.or_eq_true, decide_eq_true_eq, Bool.and_eq_true] at hu
    omega
  · rw [List.mem_singleton.mp h]; exact ⟨by decide, by decide, by decide, fun _ => hs⟩
  · simp only [List.mem_cons, List.mem_singleton, List.not_mem_nil, or_false] at h
    rcases h with rfl | rfl | rfl
    · exact ⟨by decide, by decide, by decide, fun h => absurd h (by decide)⟩
    all_goals rw [hexDigit_toNat (by omega)]; split_ifs <;> omega

theorem serializeBytes_mem {bs : List UInt8} {x : UInt8} (h : x ∈ bs.flatMap serializeByte) :
    x.toNat < 0x80 ∧ x.toNat ≠ 0x26 ∧ x.toNat ≠ 0x3D := by
  obtain ⟨b, -, hx⟩ := List.mem_flatMap.mp h
  obtain ⟨h1, h2, h3, -⟩ := serializeByte_mem hx
  exact ⟨h1, h2, h3⟩

theorem percentDecode_cons_of_ne {b : UInt8} (h : b.toNat ≠ 0x25) (bs : List UInt8) :
    percentDecode (b :: bs) = b :: percentDecode bs := by
  match bs with
  | [] | [_] => simp [percentDecode]
  | _ :: _ :: _ => rw [percentDecode, if_neg h]

/-- Decoding reads the bytes of one serialized byte back. -/
theorem percentDecode_serializeByte (b : UInt8) (rest : List UInt8) :
    percentDecode (replacePlus (serializeByte b ++ rest)) = b :: percentDecode (replacePlus rest) := by
  have hb : b.toNat < 256 := UInt8.toNat_lt_size b
  unfold serializeByte replacePlus
  split_ifs with hu hs
  · simp only [unreserved, Bool.or_eq_true, decide_eq_true_eq, Bool.and_eq_true] at hu
    rw [List.singleton_append, List.map_cons, if_neg (by omega), percentDecode_cons_of_ne (by omega)]
  · rw [List.singleton_append, List.map_cons, if_pos (by decide),
      percentDecode_cons_of_ne (by decide)]
    congr 1
    exact UInt8.toNat.inj (by rw [hs]; rfl)
  · have hhi : (hexDigit (b.toNat / 16)).toNat ≠ 0x2B := by
      rw [hexDigit_toNat (by omega)]; split_ifs <;> omega
    have hlo : (hexDigit (b.toNat % 16)).toNat ≠ 0x2B := by
      rw [hexDigit_toNat (by omega)]; split_ifs <;> omega
    simp only [List.cons_append, List.nil_append, List.map_cons, if_neg hhi, if_neg hlo,
      show ¬ (UInt8.toNat 0x25 = 0x2B) by decide, if_false]
    rw [percentDecode, if_pos (by decide)]
    simp only [hexValue_hexDigit (show b.toNat / 16 < 16 by omega),
      hexValue_hexDigit (show b.toNat % 16 < 16 by omega)]
    congr 1
    exact UInt8.toNat.inj (by rw [toNat_toUInt8 (by omega)]; omega)

theorem percentDecode_serializeBytes (bs rest : List UInt8) :
    percentDecode (replacePlus (bs.flatMap serializeByte ++ rest)) =
      bs ++ percentDecode (replacePlus rest) := by
  induction bs with
  | nil => rfl
  | cons b bs ih => rw [List.flatMap_cons, List.append_assoc, percentDecode_serializeByte, ih]; rfl

/-- **The component round trip.** -/
theorem decodeComponent_appendEncoded (s : String) : decodeComponent (appendEncoded s) = s := by
  have h := percentDecode_serializeBytes (encode s) []
  rw [List.append_nil, show percentDecode (replacePlus []) = [] by simp [replacePlus, percentDecode], List.append_nil] at h
  rw [decodeComponent, appendEncoded, h, decodeLossy_encode]

/-! ## Splitting -/

theorem splitAmp_ne_nil (bs : List UInt8) : splitAmp bs ≠ [] := by
  cases bs with
  | nil => simp [splitAmp]
  | cons b bs =>
    unfold splitAmp
    split
    · simp
    · cases splitAmp bs <;> simp [consFirst]

theorem consFirst_append (b : UInt8) {ps : List (List UInt8)} (h : ps ≠ []) (qs) :
    consFirst b (ps ++ qs) = consFirst b ps ++ qs := by
  cases ps with
  | nil => exact absurd rfl h
  | cons p ps => rfl

/-- An `&` ends the last sequence of what stands before it. -/
theorem splitAmp_append_amp {a : UInt8} (ha : a.toNat = 0x26) (x y : List UInt8) :
    splitAmp (x ++ a :: y) = splitAmp x ++ splitAmp y := by
  induction x with
  | nil => simp [splitAmp, ha]
  | cons b x ih =>
    rw [List.cons_append, splitAmp, splitAmp, ih]
    split
    · rfl
    · exact consFirst_append b (splitAmp_ne_nil x) _

theorem splitAmp_of_forall_ne {p : List UInt8} (h : ∀ b ∈ p, b.toNat ≠ 0x26) : splitAmp p = [p] := by
  induction p with
  | nil => rfl
  | cons b p ih =>
    rw [splitAmp, if_neg (h b (List.mem_cons_self b p)),
      ih (fun x hx => h x (List.mem_cons_of_mem b hx))]
    rfl

theorem splitEq_append {a : UInt8} (ha : a.toNat = 0x3D) {n : List UInt8}
    (h : ∀ b ∈ n, b.toNat ≠ 0x3D) (v : List UInt8) : splitEq (n ++ a :: v) = (n, v) := by
  induction n with
  | nil => rw [List.nil_append, splitEq, if_pos ha]
  | cons b n ih =>
    rw [List.cons_append, splitEq, if_neg (h b (List.mem_cons_self b n)),
      ih (fun x hx => h x (List.mem_cons_of_mem b hx))]

/-! ## The bytes of a query -/

theorem toNat_charOfNat {n : Nat} (h : n < 0x80) : (Char.ofNat n).toNat = n := by
  rw [Char.ofNat, dif_pos (Or.inl (by omega))]; rfl

theorem encode_append (a b : List Char) : encode ⟨a ++ b⟩ = encode ⟨a⟩ ++ encode ⟨b⟩ :=
  List.flatMap_append _ _ _

theorem encode_asciiChars {bs : List UInt8} (h : ∀ b ∈ bs, b.toNat < 0x80) :
    encode ⟨asciiChars bs⟩ = bs := by
  induction bs with
  | nil => rfl
  | cons b bs ih =>
    have hb := h b (List.mem_cons_self b bs)
    rw [asciiChars, List.map_cons, ← List.singleton_append, encode_append, ← asciiChars,
      ih (fun x hx => h x (List.mem_cons_of_mem b hx))]
    simp only [encode, List.flatMap_cons, List.flatMap_nil, List.append_nil, encodeChar,
      toNat_charOfNat hb, if_pos hb, List.singleton_append]
    congr 1
    exact UInt8.toNat.inj (toNat_toUInt8 (by omega))

/-- The serialized bytes of one pair. -/
def pairBytes (name value : String) : List UInt8 := appendEncoded name ++ 0x3D :: appendEncoded value

theorem pairBytes_mem {name value : String} {x : UInt8} (h : x ∈ pairBytes name value) :
    x.toNat < 0x80 ∧ x.toNat ≠ 0x26 := by
  rcases List.mem_append.mp h with h | h
  · exact ⟨(serializeBytes_mem h).1, (serializeBytes_mem h).2.1⟩
  · rcases List.mem_cons.mp h with rfl | h
    · decide
    · exact ⟨(serializeBytes_mem h).1, (serializeBytes_mem h).2.1⟩

theorem parsePair_pairBytes (name value : String) :
    parsePair (pairBytes name value) = some (name, value) := by
  rw [parsePair, if_neg (by simp [pairBytes]), pairBytes,
    @splitEq_append _ (by decide) (appendEncoded name) (fun b hb => (serializeBytes_mem hb).2.2),
    decodeComponent_appendEncoded, decodeComponent_appendEncoded]

/-- **One `append_pair` step.** The query now parses to what it parsed to, then the pair. -/
theorem parse_appendPair (query name value : String) :
    parse (encode (appendPair query name value)) = parse (encode query) ++ [(name, value)] := by
  have hascii := encode_asciiChars fun x hx => (@pairBytes_mem name value x hx).1
  have hsplit := splitAmp_of_forall_ne fun x hx => (@pairBytes_mem name value x hx).2
  rw [appendPair, encode_append, ← pairBytes, hascii]
  split
  · next h =>
    obtain ⟨q⟩ := query
    simp only at h
    subst h
    simp [parse, encode, hsplit, parsePair_pairBytes, splitAmp, show parsePair [] = none from rfl]
  · rw [encode_append, parse, show encode ⟨['&']⟩ = [0x26] by decide, List.append_assoc,
      List.singleton_append, splitAmp_append_amp (by decide), hsplit, List.filterMap_append]
    simp [parse, parsePair_pairBytes]

/-- **A run of `append_pair` calls.** The query parses to what it parsed to, then the pairs. -/
theorem parse_appendPairs (query : String) (pairs : List (String × String)) :
    parse (encode (appendPairs query pairs)) = parse (encode query) ++ pairs := by
  induction pairs generalizing query with
  | nil => simp [appendPairs]
  | cons p pairs ih =>
    rw [appendPairs_cons, ih, parse_appendPair, List.append_assoc]
    rfl

end AgentKanban.FormUrlencoded
