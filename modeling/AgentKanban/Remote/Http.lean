import AgentKanban.FormUrlencoded
import AgentKanban.Basic

/-!
# URLs, header maps and responses

The pieces of `url`, `http` and `axum` that `proxy_table` and the route handlers touch.

* A `Url` is kept as its parts; `query_pairs_mut().append_pair` is `FormUrlencoded.appendPair`
  on its query (`Url.query_appendPair`).
* A `HeaderMap` is each (lower-case) name with its values, names in insertion order and never
  twice. `insert` replaces all the values of a name present and keeps its place
  (`getAll_insert`).
* Status codes are numbers: 200, 403, 500 and 502 are the ones used.
-/

namespace AgentKanban.Remote

/-- A parsed URL: everything before the path, the path, the query and the fragment. -/
structure Url where
  origin : String
  path : String
  query : Option String
  fragment : Option String
  deriving DecidableEq, Repr

/-- `Url::set_path`. -/
def Url.setPath (u : Url) (path : String) : Url := { u with path := path }

/-- `url.query_pairs_mut().append_pair(name, value)`: a URL without a query gets an empty one
first; the fragment is taken off and put back. -/
def Url.appendPair (u : Url) (name value : String) : Url :=
  { u with query := some (FormUrlencoded.appendPair (u.query.getD "") name value) }

@[simp] theorem Url.query_setPath (u : Url) (p : String) : (u.setPath p).query = u.query := rfl

@[simp] theorem Url.query_appendPair (u : Url) (name value : String) :
    (u.appendPair name value).query = some (FormUrlencoded.appendPair (u.query.getD "") name value) :=
  rfl

/-! ## Header maps -/

/-- `http::HeaderMap`. -/
structure HeaderMap where
  entries : List (String × List String)
  names_nodup : (entries.map Prod.fst).Nodup

namespace HeaderMap

/-- `HeaderMap::new`. -/
def new : HeaderMap := ⟨[], List.nodup_nil⟩

/-- The names of the map. -/
def names (m : HeaderMap) : List String := m.entries.map Prod.fst

theorem names_map_replace (m : HeaderMap) (k v : String) :
    (m.entries.map fun e => if e.1 = k then (k, [v]) else e).map Prod.fst = m.names := by
  simp only [names, List.map_map]
  congr 1
  funext e
  by_cases h : e.1 = k <;> simp [h]

/-- `HeaderMap::insert`: afterwards the name has exactly this one value. A name already present
keeps its place; a new one goes last. -/
def insert (m : HeaderMap) (k v : String) : HeaderMap :=
  if h : k ∈ m.names then
    ⟨m.entries.map fun e => if e.1 = k then (k, [v]) else e, by
      rw [names_map_replace]; exact m.names_nodup⟩
  else
    ⟨m.entries ++ [(k, [v])], by
      rw [List.map_append, List.nodup_append]
      refine ⟨m.names_nodup, List.nodup_singleton _, fun a ha hb => h ?_⟩
      simp only [List.map_cons, List.map_nil, List.mem_singleton] at hb
      exact hb ▸ ha⟩

/-- The values stored under `k`. -/
def valuesOf (k : String) : List (String × List String) → List String
  | [] => []
  | e :: l => if e.1 = k then e.2 else valuesOf k l

/-- `HeaderMap::get_all`. -/
def getAll (m : HeaderMap) (k : String) : List String := valuesOf k m.entries

/-- Iterating a `HeaderMap`: every value with its name, the values of a name together. -/
def iter (m : HeaderMap) : List (String × String) := m.entries.flatMap fun e => e.2.map (e.1, ·)

@[simp] theorem getAll_new (k : String) : new.getAll k = [] := rfl

theorem valuesOf_map_replace (l : List (String × List String)) (k n v : String) :
    valuesOf n (l.map fun e => if e.1 = k then (k, [v]) else e) =
      if n = k ∧ k ∈ l.map Prod.fst then [v] else valuesOf n l := by
  induction l with
  | nil => simp [valuesOf]
  | cons e l ih =>
    obtain ⟨a, vs⟩ := e
    by_cases hak : a = k
    · subst hak
      by_cases hn : n = a
      · subst hn; simp [valuesOf]
      · simp [valuesOf, hn, Ne.symm hn, ih]
    · by_cases hn : n = k
      · subst hn
        simp only [List.map_cons, if_neg hak, valuesOf, ih, List.mem_cons, Ne.symm hak, false_or]
      · simp [valuesOf, hak, hn, ih]

theorem valuesOf_append_new (l : List (String × List String)) (k n v : String) :
    valuesOf n (l ++ [(k, [v])]) =
      if n ∈ l.map Prod.fst then valuesOf n l else if n = k then [v] else [] := by
  induction l with
  | nil =>
    by_cases hn : n = k
    · subst hn; simp [valuesOf]
    · simp [valuesOf, hn, Ne.symm hn]
  | cons e l ih =>
    obtain ⟨a, vs⟩ := e
    by_cases ha : a = n
    · subst ha; simp [valuesOf]
    · simp only [List.cons_append, valuesOf, if_neg ha, List.map_cons, List.mem_cons,
        Ne.symm ha, false_or]
      exact ih

theorem valuesOf_eq_nil {l : List (String × List String)} {n : String} (h : n ∉ l.map Prod.fst) :
    valuesOf n l = [] := by
  induction l with
  | nil => rfl
  | cons e l ih =>
    simp only [List.map_cons, List.mem_cons, not_or] at h
    simp [valuesOf, Ne.symm h.1, ih h.2]

/-- **`insert`.** The name gets exactly the new value; every other name keeps its values. -/
theorem getAll_insert (m : HeaderMap) (k v n : String) :
    (m.insert k v).getAll n = if n = k then [v] else m.getAll n := by
  unfold insert getAll
  split
  · next h =>
    have h' : k ∈ m.entries.map Prod.fst := h
    simp only [valuesOf_map_replace, h', and_true]
  · next h =>
    have h' : k ∉ m.entries.map Prod.fst := h
    simp only [valuesOf_append_new]
    by_cases hn : n = k
    · subst hn; simp [h', valuesOf_eq_nil h']
    · by_cases hm : n ∈ m.entries.map Prod.fst
      · simp [hn, hm]
      · simp [hn, hm, valuesOf_eq_nil hm]

end HeaderMap

/-! ## Responses -/

/-- A response body: the bytes relayed from upstream, or a text. -/
inductive Body
  | stream (bytes : List UInt8)
  | text (s : String)
  deriving DecidableEq, Repr

/-- An HTTP response. -/
structure Response where
  status : Nat
  headers : HeaderMap
  body : Body

/-- `(status, message).into_response()`. -/
def textResponse (status : Nat) (message : String) : Response :=
  ⟨status, HeaderMap.new.insert "content-type" "text/plain; charset=utf-8", .text message⟩

/-- `ErrorResponse::new(status, message)`. -/
structure ErrorResponse where
  status : Nat
  message : String
  deriving DecidableEq, Repr

end AgentKanban.Remote
