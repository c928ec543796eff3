import AgentKanban.Remote.ShapeRoute

/-!
# The rows a shape serves

A shape's stream is the rows of its table that satisfy its `where` clause, with `$i` standing
for the `i`-th value its scope binds. The registered clauses use three forms of SQL:
`"col" = $n`, `p AND q`, and `"col" IN (SELECT sel FROM table WHERE p)`; Electric gives them
PostgreSQL's meaning, modelled here over the id columns they compare.

1. `parseWhere` reads a clause; every registered clause is read whole, prints back as written,
   and its placeholders are `$1 … $n` in order (`registered_where_clauses_parse`).
2. `ShapeDefinition.rows`: the rows a shape serves for the values bound to it.
3. `shape_rows_in_scope`: every row a route serves lies in the request's scope, as the scope's
   kind describes it (`ShapeScope.Holds`).
4. `Pred.boundValue_eq_of_holds`: when every subquery of a clause selects a key, a row satisfies
   the clause for one binding of its placeholders only. So two requests with different bound
   ids get disjoint rows from every route but `USERS_SHAPE`, whose subquery selects the
   `user_id` of memberships, not a key (`shape_rows_isolated`).
-/

namespace AgentKanban.Remote

/-! ## Where clauses -/

/-- Modelled from the spec: the SQL the registered `where` clauses are written in. -/
inductive Pred
  | eq (column : String) (param : Nat)
  | and (p q : Pred)
  | inSelect (column selected table : String) (filter : Pred)
  deriving DecidableEq, Repr

/-- The ordinals of a clause's placeholders, in order. -/
def Pred.params : Pred → List Nat
  | .eq _ n => [n]
  | .and p q => p.params ++ q.params
  | .inSelect _ _ _ w => w.params

/-- A clause in the registry's spelling. -/
def Pred.render : Pred → String
  | .eq col n => "\"" ++ col ++ "\" = $" ++ toString n
  | .and p q => p.render ++ " AND " ++ q.render
  | .inSelect col sel t w =>
    "\"" ++ col ++ "\" IN (SELECT " ++ sel ++ " FROM " ++ t ++ " WHERE " ++ w.render ++ ")"

/-! ## Reading a clause -/

/-- A character of an unquoted SQL identifier. -/
def isIdentChar (c : Char) : Bool := c.isAlphanum || c = '_'

/-- The input after the literal `lit`, if it starts with it. -/
def stripLiteral (lit : String) (cs : List Char) : Option (List Char) :=
  if lit.data.isPrefixOf cs then some (cs.drop lit.length) else none

/-- An identifier: a non-empty run of identifier characters. -/
def identifier (cs : List Char) : Option (String × List Char) :=
  match cs.takeWhile isIdentChar with
  | [] => none
  | name => some (⟨name⟩, cs.dropWhile isIdentChar)

/-- A quoted identifier `"name"`. -/
def quotedIdentifier (cs : List Char) : Option (String × List Char) := do
  let (name, cs) ← identifier (← stripLiteral "\"" cs)
  pure (name, ← stripLiteral "\"" cs)

/-- A placeholder `$n`. -/
def placeholder (cs : List Char) : Option (Nat × List Char) := do
  let cs ← stripLiteral "$" cs
  match leadingDigits cs with
  | [] => none
  | ds => some (digitsValue ds, cs.drop ds.length)

/-- Modelled from the spec: read a clause from the front of `cs`, nesting at most `fuel`
clauses; the clause and the rest of the input. -/
def parsePred : Nat → List Char → Option (Pred × List Char)
  | 0, _ => none
  | fuel + 1, cs => do
    let (col, cs) ← quotedIdentifier cs
    let (atom, cs) ← match stripLiteral " = " cs with
      | some cs => do
        let (n, cs) ← placeholder cs
        pure (Pred.eq col n, cs)
      | none => do
        let (sel, cs) ← identifier (← stripLiteral " IN (SELECT " cs)
        let (t, cs) ← identifier (← stripLiteral " FROM " cs)
        let (w, cs) ← parsePred fuel (← stripLiteral " WHERE " cs)
        pure (Pred.inSelect col sel t w, ← stripLiteral ")" cs)
    match stripLiteral " AND " cs with
    | some cs => do
      let (q, cs) ← parsePred fuel cs
      pure (Pred.and atom q, cs)
    | none => pure (atom, cs)

/-- A whole clause, or `none` when it is not read to its end. -/
def parseWhere (clause : String) : Option Pred :=
  match parsePred clause.length clause.data with
  | some (p, []) => some p
  | _ => none

/-- A clause Electric reads whole, that prints back as written, with the placeholders
`$1 … $n` in order for `n` parameters. -/
def ShapeDefinition.readsBack (s : ShapeDefinition) : Bool :=
  match parseWhere s.whereClause with
  | some p => p.render == s.whereClause && p.params == List.range' 1 s.params.length
  | none => false

theorem ShapeDefinition.readsBack_iff (s : ShapeDefinition) :
    s.readsBack = true ↔ ∃ p, parseWhere s.whereClause = some p ∧ p.render = s.whereClause ∧
      p.params = List.range' 1 s.params.length := by
  unfold readsBack
  cases parseWhere s.whereClause <;> simp

/-- A fact about each route's shape and scope, decided once over the registry. -/
theorem forall_allShapeRoutes {α : Type} {P : ShapeDefinition → ShapeScope → Prop}
    (h : ∀ e ∈ (allShapeRoutes : List (ShapeRoute Unit)).map (fun r => (r.shape, r.scope)),
      P e.1 e.2) :
    ∀ r ∈ (allShapeRoutes : List (ShapeRoute α)), P r.shape r.scope := by
  have entries : (allShapeRoutes : List (ShapeRoute α)).map (fun r => (r.shape, r.scope)) =
      (allShapeRoutes : List (ShapeRoute Unit)).map (fun r => (r.shape, r.scope)) := rfl
  exact fun r hr => h _ (entries ▸ List.mem_map_of_mem _ hr)

/-- Every registered clause is read whole, prints back as written, and has the placeholders
`$1 … $n` in order. -/
theorem registered_where_clauses_parse {α : Type} :
    ∀ r ∈ (allShapeRoutes : List (ShapeRoute α)), ∃ p, parseWhere r.shape.whereClause = some p ∧
      p.render = r.shape.whereClause ∧ p.params = List.range' 1 r.shape.params.length :=
  fun r hr => (ShapeDefinition.readsBack_iff _).1
    (forall_allShapeRoutes (P := fun s _ => s.readsBack = true) (by decide) r hr)

/-! ## What a clause selects -/

/-- Modelled from the spec: a row of a table, by the value of each of its id columns (`none`
for a NULL). -/
structure TableRow where
  get : String → Option Uuid

/-- Modelled from the spec: the data store's tables, each a list of rows. -/
structure Database where
  rows : String → List TableRow

/-- The value bound to `$n`: the `n`-th bound id, counting from 1. -/
def boundValue (bound : List Uuid) : Nat → Option Uuid
  | 0 => none
  | n + 1 => bound[n]?

/-- Modelled from the spec: whether a row satisfies a clause, `$n` standing for
`boundValue bound n`. As in PostgreSQL, a NULL column equals nothing, and an `IN` holds when
some row of the subquery's table satisfies its clause and selects the column's value. -/
def Pred.holds (db : Database) (bound : List Uuid) : Pred → TableRow → Bool
  | .eq col n, row => match boundValue bound n with
    | some b => row.get col == some b
    | none => false
  | .and p q, row => p.holds db bound row && q.holds db bound row
  | .inSelect col sel t w, row => match row.get col with
    | some v => (db.rows t).any fun r => r.get sel == some v && w.holds db bound r
    | none => false

/-- The rows a shape's stream serves for the ids `bound` to its placeholders: the rows of its
table satisfying its clause (`none` when the clause cannot be read). -/
def ShapeDefinition.rows (db : Database) (s : ShapeDefinition) (bound : List Uuid) :
    Option (List TableRow) :=
  (parseWhere s.whereClause).map fun p => (db.rows s.table).filter (p.holds db bound)

theorem ShapeDefinition.mem_rows {db : Database} {s : ShapeDefinition} {bound : List Uuid}
    {out : List TableRow} (h : s.rows db bound = some out) {row : TableRow} (hrow : row ∈ out) :
    ∃ p, parseWhere s.whereClause = some p ∧ row ∈ db.rows s.table ∧ p.holds db bound row = true := by
  unfold ShapeDefinition.rows at h
  cases hp : parseWhere s.whereClause with
  | none => simp [hp] at h
  | some p =>
    simp only [hp, Option.map_some', Option.some.injEq] at h
    subst h
    exact ⟨p, rfl, List.mem_filter.mp hrow⟩

@[simp] theorem Pred.holds_eq (db : Database) (row : TableRow) (col : String) (k : Uuid)
    (rest : List Uuid) : (Pred.eq col 1).holds db (k :: rest) row = true ↔ row.get col = some k := by
  simp [Pred.holds, boundValue]

@[simp] theorem Pred.holds_eq_two (db : Database) (row : TableRow) (col : String) (k₁ k₂ : Uuid) :
    (Pred.eq col 2).holds db [k₁, k₂] row = true ↔ row.get col = some k₂ := by
  simp [Pred.holds, boundValue]

@[simp] theorem Pred.holds_and (db : Database) (bound : List Uuid) (row : TableRow) (p q : Pred) :
    (Pred.and p q).holds db bound row = true ↔
      p.holds db bound row = true ∧ q.holds db bound row = true := by
  simp [Pred.holds]

@[simp] theorem Pred.holds_inSelect (db : Database) (bound : List Uuid) (row : TableRow)
    (col sel t : String) (w : Pred) :
    (Pred.inSelect col sel t w).holds db bound row = true ↔
      ∃ r ∈ db.rows t, r.get sel = row.get col ∧ row.get col ≠ none ∧ w.holds db bound r = true := by
  simp only [Pred.holds]
  cases row.get col <;> simp [and_assoc]

theorem Pred.exists_of_holds_inSelect {db : Database} {bound : List Uuid} {row : TableRow}
    {col sel t : String} {w : Pred} (h : (Pred.inSelect col sel t w).holds db bound row = true) :
    ∃ r ∈ db.rows t, ∃ v, row.get col = some v ∧ r.get sel = some v ∧
      w.holds db bound r = true := by
  obtain ⟨r, hr, hsel, hcol, hw⟩ := (holds_inSelect ..).1 h
  obtain ⟨v, hv⟩ := Option.ne_none_iff_exists'.mp hcol
  exact ⟨r, hr, v, hv, hsel.trans hv, hw⟩

/-! ## Every served row is in scope -/

/-- What ties a row of `table` to the request it is served for, by the kind of the scope: the
organization it belongs to or, for a user, an organization they are a member of; that
organization and the user; the project, itself or through the row's issue; the issue, itself or
through the row's comment; the user who owns it. -/
def ShapeScope.Holds (db : Database) (userId key : Uuid) (table : String) (row : TableRow) :
    ShapeScope → Prop
  | .org => row.get "organization_id" = some key ∨
      table = "users" ∧ ∃ m ∈ db.rows "organization_member_metadata", ∃ v,
        row.get "id" = some v ∧ m.get "user_id" = some v ∧ m.get "organization_id" = some key
  | .orgWithUser => row.get "organization_id" = some key ∧ row.get "user_id" = some userId
  | .project => row.get "project_id" = some key ∨
      ∃ i ∈ db.rows "issues", ∃ v,
        row.get "issue_id" = some v ∧ i.get "id" = some v ∧ i.get "project_id" = some key
  | .issue => row.get "issue_id" = some key ∨
      ∃ c ∈ db.rows "issue_comments", ∃ v,
        row.get "comment_id" = some v ∧ c.get "id" = some v ∧ c.get "issue_id" = some key
  | .user => row.get "owner_user_id" = some userId

/-- The clauses that select within a scope of each kind from `table`: the scope's column equal
to `$1` (and, for `OrganizationWithUser`, the user's column to `$2`), or the scope's column
reached through one subquery; users are selected through their memberships. -/
def ShapeScope.clauses (table : String) : ShapeScope → List Pred
  | .org => .eq "organization_id" 1 :: if table = "users" then
      [.inSelect "id" "user_id" "organization_member_metadata" (.eq "organization_id" 1)] else []
  | .orgWithUser => [.and (.eq "organization_id" 1) (.eq "user_id" 2)]
  | .project => [.eq "project_id" 1, .inSelect "issue_id" "id" "issues" (.eq "project_id" 1)]
  | .issue => [.eq "issue_id" 1, .inSelect "comment_id" "id" "issue_comments" (.eq "issue_id" 1)]
  | .user => [.eq "owner_user_id" 1]

theorem ShapeScope.holds_of_mem_clauses {db : Database} {userId key : Uuid} {table : String}
    {row : TableRow} {scope : ShapeScope} {p : Pred} (hp : p ∈ scope.clauses table)
    (h : p.holds db (scope.boundIds userId key) row = true) :
    scope.Holds db userId key table row := by
  cases scope <;> simp only [clauses, boundIds, List.mem_cons, List.mem_nil_iff, or_false] at hp
  case orgWithUser | user => subst hp; simpa [Holds, boundIds] using h
  case org =>
    rcases hp with rfl | hp
    · exact .inl (by simpa [boundIds] using h)
    · split_ifs at hp with ht
      · obtain ⟨m, hm, v, hrow, hsel, hw⟩ := Pred.exists_of_holds_inSelect
          ((List.mem_singleton.mp hp) ▸ h)
        exact .inr ⟨ht, m, hm, v, hrow, hsel, by simpa [boundIds] using hw⟩
      · cases hp
  all_goals
    rcases hp with rfl | rfl
    · exact .inl (by simpa [boundIds] using h)
    · obtain ⟨m, hm, v, hrow, hsel, hw⟩ := Pred.exists_of_holds_inSelect h
      exact .inr ⟨m, hm, v, hrow, hsel, by simpa [boundIds] using hw⟩

/-- A shape reads its clause as one of the scope's clauses. -/
def ShapeDefinition.clauseFits (s : ShapeDefinition) (scope : ShapeScope) : Bool :=
  (parseWhere s.whereClause).any (· ∈ scope.clauses s.table)

/-- **Scope.** For every route, database, user and scope key, every row the route's stream
serves for the ids the scope binds lies in the request's scope: it belongs to the organization
(a user, by a membership of it), the project or the issue of the request (itself or through the
row it refers to), or to the user. -/
theorem shape_rows_in_scope {α : Type} :
    ∀ r ∈ (allShapeRoutes : List (ShapeRoute α)), ∀ db userId key out,
      r.shape.rows db (r.scope.boundIds userId key) = some out →
        ∀ row ∈ out, r.scope.Holds db userId key r.shape.table row := by
  intro r hr db userId key out h row hrow
  obtain ⟨p, hp, -, hholds⟩ := ShapeDefinition.mem_rows h hrow
  have hfit := forall_allShapeRoutes (P := fun s scope => s.clauseFits scope = true) (by decide) r hr
  simp only [ShapeDefinition.clauseFits, hp, Option.any_some, decide_eq_true_eq] at hfit
  exact ShapeScope.holds_of_mem_clauses hfit hholds

/-- A project of organization 1, served to a member of it. -/
theorem projects_route_serves_its_organization :
    let row : TableRow := ⟨fun c => if c = "organization_id" then some ⟨1⟩ else none⟩
    let db : Database := ⟨fun t => if t = "projects" then [row] else []⟩
    ∃ r ∈ (allShapeRoutes : List (ShapeRoute Unit)), r.shape = projectsShape ∧
      r.shape.rows db (r.scope.boundIds ⟨0⟩ ⟨1⟩) = some [row] ∧
        r.scope.Holds db ⟨0⟩ ⟨1⟩ r.shape.table row := by
  intro row db
  have h : projectsShape.rows db (ShapeScope.org.boundIds ⟨0⟩ ⟨1⟩) = some [row] := rfl
  exact ⟨_, List.mem_cons_self _ _, rfl, h,
    shape_rows_in_scope _ (List.mem_cons_self _ _) db ⟨0⟩ ⟨1⟩ [row] h row (List.mem_singleton_self _)⟩

/-! ## Different requests, different rows -/

/-- `col` is a key of `table`: no two of its rows hold the same value there. -/
def Database.UniqueKey (db : Database) (table col : String) : Prop :=
  ∀ r₁ ∈ db.rows table, ∀ r₂ ∈ db.rows table, ∀ v,
    r₁.get col = some v → r₂.get col = some v → r₁ = r₂

/-- Every subquery of the clause selects a column `isKey` names. -/
def Pred.Keyed (isKey : String → String → Bool) : Pred → Bool
  | .eq _ _ => true
  | .and p q => p.Keyed isKey && q.Keyed isKey
  | .inSelect _ sel t w => isKey t sel && w.Keyed isKey

/-- When every subquery of a clause selects a key, a row satisfies the clause under two
bindings only if they bind each of its placeholders alike. -/
theorem Pred.boundValue_eq_of_holds {db : Database} {isKey : String → String → Bool}
    (hkey : ∀ t c, isKey t c = true → db.UniqueKey t c) {p : Pred} (hp : p.Keyed isKey = true)
    {b₁ b₂ : List Uuid} {row : TableRow} (h₁ : p.holds db b₁ row = true)
    (h₂ : p.holds db b₂ row = true) : ∀ n ∈ p.params, boundValue b₁ n = boundValue b₂ n := by
  induction p generalizing row with
  | eq col n =>
    simp only [params, List.mem_singleton, forall_eq]
    simp only [holds] at h₁ h₂
    split at h₁ <;> split at h₂ <;> simp_all
  | and p q ihp ihq =>
    simp only [Keyed, Bool.and_eq_true] at hp
    simp only [holds_and] at h₁ h₂
    simp only [params, List.mem_append]
    rintro n (hn | hn)
    · exact ihp hp.1 h₁.1 h₂.1 n hn
    · exact ihq hp.2 h₁.2 h₂.2 n hn
  | inSelect col sel t w ih =>
    simp only [Keyed, Bool.and_eq_true] at hp
    obtain ⟨r₁, hr₁, hsel₁, hcol, hw₁⟩ := (holds_inSelect ..).1 h₁
    obtain ⟨r₂, hr₂, hsel₂, -, hw₂⟩ := (holds_inSelect ..).1 h₂
    obtain ⟨v, hv⟩ := Option.ne_none_iff_exists'.mp hcol
    obtain rfl := hkey t sel hp.1 r₁ hr₁ r₂ hr₂ v (hsel₁.trans hv) (hsel₂.trans hv)
    exact ih hp.2 hw₁ hw₂

theorem eq_of_boundValue_eq {b₁ b₂ : List Uuid} {n : Nat} (h₁ : b₁.length = n)
    (h₂ : b₂.length = n) (h : ∀ i ∈ List.range' 1 n, boundValue b₁ i = boundValue b₂ i) :
    b₁ = b₂ := by
  refine List.ext_getElem? fun i => ?_
  by_cases hi : i < n
  · exact h (i + 1) (List.mem_range'_1.mpr ⟨by omega, by omega⟩)
  · rw [List.getElem?_eq_none (by omega), List.getElem?_eq_none (by omega)]

theorem ShapeScope.length_boundIds (s : ShapeScope) (u k u' k' : Uuid) :
    (s.boundIds u k).length = (s.boundIds u' k').length := by
  cases s <;> rfl

/-- The key columns the registered subqueries select: the ids of issues and of comments. -/
def registryKey (table col : String) : Bool :=
  (table == "issues" || table == "issue_comments") && col == "id"

/-- A shape's clause has only key subqueries, and one placeholder per id the scope binds. -/
def ShapeDefinition.isolates (s : ShapeDefinition) (scope : ShapeScope) : Bool :=
  (parseWhere s.whereClause).any fun p =>
    p.Keyed registryKey && p.params == List.range' 1 (scope.boundIds ⟨0⟩ ⟨0⟩).length

/-- **Isolation.** In a database where issues and comments have unique ids, two requests to
any route but the users route that bind different ids are served no row in common: a row a
route serves determines the ids it was served for. (The users route serves a user to every
organization they are a member of.) -/
theorem shape_rows_isolated {α : Type} (db : Database) (hissues : db.UniqueKey "issues" "id")
    (hcomments : db.UniqueKey "issue_comments" "id") :
    ∀ r ∈ (allShapeRoutes : List (ShapeRoute α)), r.shape ≠ usersShape →
      ∀ u₁ k₁ u₂ k₂ out₁ out₂, r.shape.rows db (r.scope.boundIds u₁ k₁) = some out₁ →
        r.shape.rows db (r.scope.boundIds u₂ k₂) = some out₂ →
          ∀ row ∈ out₁, row ∈ out₂ → r.scope.boundIds u₁ k₁ = r.scope.boundIds u₂ k₂ := by
  intro r hr hne u₁ k₁ u₂ k₂ out₁ out₂ h₁ h₂ row hrow₁ hrow₂
  obtain ⟨p, hp, -, hholds₁⟩ := ShapeDefinition.mem_rows h₁ hrow₁
  obtain ⟨p', hp', -, hholds₂⟩ := ShapeDefinition.mem_rows h₂ hrow₂
  obtain rfl : p = p' := Option.some.inj (hp.symm.trans hp')
  have hiso := forall_allShapeRoutes
    (P := fun s scope => s ≠ usersShape → s.isolates scope = true) (by decide) r hr hne
  simp only [ShapeDefinition.isolates, hp, Option.any_some, Bool.and_eq_true, beq_iff_eq] at hiso
  have hkey : ∀ t c, registryKey t c = true → db.UniqueKey t c := by
    intro t c h
    simp only [registryKey, Bool.and_eq_true, Bool.or_eq_true, beq_iff_eq] at h
    obtain ⟨rfl | rfl, rfl⟩ := h
    · exact hissues
    · exact hcomments
  refine eq_of_boundValue_eq (r.scope.length_boundIds u₁ k₁ ⟨0⟩ ⟨0⟩)
    (r.scope.length_boundIds u₂ k₂ ⟨0⟩ ⟨0⟩) ?_
  rw [← hiso.2]
  exact Pred.boundValue_eq_of_holds hkey hiso.1 hholds₁ hholds₂

/-- Two members of organization 1 are served its project: the route binds the same id. -/
theorem projects_rows_of_one_organization :
    let row : TableRow := ⟨fun c => if c = "organization_id" then some ⟨1⟩ else none⟩
    let db : Database := ⟨fun t => if t = "projects" then [row] else []⟩
    db.UniqueKey "issues" "id" ∧ db.UniqueKey "issue_comments" "id" ∧
      ∃ r ∈ (allShapeRoutes : List (ShapeRoute Unit)), r.shape ≠ usersShape ∧
        r.shape.rows db (r.scope.boundIds ⟨0⟩ ⟨1⟩) = some [row] ∧
        r.shape.rows db (r.scope.boundIds ⟨2⟩ ⟨1⟩) = some [row] ∧
        r.scope.boundIds ⟨0⟩ ⟨1⟩ = r.scope.boundIds ⟨2⟩ ⟨1⟩ := by
  intro row db
  have hissues : db.UniqueKey "issues" "id" := fun _ h => by simp [db] at h
  have hcomments : db.UniqueKey "issue_comments" "id" := fun _ h => by simp [db] at h
  have h₁ : projectsShape.rows db (ShapeScope.org.boundIds ⟨0⟩ ⟨1⟩) = some [row] := rfl
  have h₂ : projectsShape.rows db (ShapeScope.org.boundIds ⟨2⟩ ⟨1⟩) = some [row] := rfl
  exact ⟨hissues, hcomments, _, List.mem_cons_self _ _, by decide, h₁, h₂,
    shape_rows_isolated db hissues hcomments _ (List.mem_cons_self _ _) (by decide) ⟨0⟩ ⟨1⟩ ⟨2⟩ ⟨1⟩
      [row] [row] h₁ h₂ row (List.mem_singleton_self _) (List.mem_singleton_self _)⟩

end AgentKanban.Remote
