import AgentKanban.Mcp.Api
import Mathlib.Data.String.Basic

/-!
# The task server's shared helpers

A tool body is a `ToolM` program: requests to the VK API, where `match … { Err(e) => return
Ok(e) }` is a thrown `ErrorValue` and the tool's result is the `CallToolResult` it ends with
(`toolResult`). This module has the helpers of `tools/mod.rs` and of `remote_issues.rs` that the
tools share: `send_json` and `send_empty_json` (`decodeJson_ok_iff`: they return data exactly for
an accepted answer), `expand_tags`, the id resolvers, the status lookups,
`link_workspace_to_issue`, priorities, and the per-issue filters.

Beside the helpers: the `@tag` scanner loses no text (`scanTags_source`), so `expand_tags`
changes a text only through a tag it mentions that the answer lists, and its pieces are the one
split of the text into the leftmost-first matches of `@([^\s@]+)` (`leftmostMatches`);
`default_status_id` picks the first visible status of least `sort_order`;
`parse_issue_priority` accepts exactly the four labels, trimmed and in any ASCII case.
-/

namespace AgentKanban.Mcp

/-! ## Results -/

/-- The JSON `TaskServer::err` builds: `{"success": false, "error": error}`, with `"details"`
when there are details. -/
structure ErrorValue where
  error : String
  details : Option String
  deriving DecidableEq, Repr

/-- `CallToolResult`: the tool's response, or the error JSON. -/
inductive CallToolResult (β : Type)
  | success (data : β)
  | error (value : ErrorValue)
  deriving DecidableEq, Repr

/-- An error result. -/
def CallToolResult.isError {β : Type} : CallToolResult β → Bool
  | .success _ => false
  | .error _ => true

/-- `TaskServer::err`. -/
def err (msg : String) (details : Option String) : ErrorValue := ⟨msg, details⟩

/-- A tool body: requests, and an early return of an error result as a thrown `ErrorValue`. -/
abbrev ToolM := ExceptT ErrorValue VkM

/-- A local check's `Err`, returned as the tool's result. -/
def ofExcept {α : Type} (e : Except ErrorValue α) : ToolM α := ExceptT.mk (.pure e)

/-- `Ok(CallToolResult::success(..))` for a response, the error result for an error. -/
def CallToolResult.ofExcept {β : Type} : Except ErrorValue β → CallToolResult β
  | .ok b => .success b
  | .error e => .error e

/-- The result a tool body ends with. -/
def toolResult {β : Type} (p : ToolM β) : VkM (CallToolResult β) :=
  VkM.bind p.run fun r => .pure (CallToolResult.ofExcept r)

/-! ## Sending requests -/

/-- `send_json`, on the outcome: the data of an accepted answer, else the error of the first
check that fails. -/
def decodeJson {α : Type} : Outcome α → Except ErrorValue α
  | .connectFailed e => .error (err "Failed to connect to VK API" (some e))
  | .answered s body =>
    if s.isSuccess then
      match body with
      | .error e => .error (err "Failed to parse VK API response" (some e))
      | .ok env =>
        if env.success then
          match env.data with
          | some d => .ok d
          | none => .error (err "VK API response missing data field" none)
        else .error (err "VK API returned error" (some (env.message.getD "Unknown error")))
    else .error (err ("VK API returned error status: " ++ s.display) none)

/-- `send_empty_json`, on the outcome: the same checks, but no data is read. -/
def decodeEmpty {α : Type} : Outcome α → Except ErrorValue Unit
  | .connectFailed e => .error (err "Failed to connect to VK API" (some e))
  | .answered s body =>
    if s.isSuccess then
      match body with
      | .error e => .error (err "Failed to parse VK API response" (some e))
      | .ok env =>
        if env.success then .ok ()
        else .error (err "VK API returned error" (some (env.message.getD "Unknown error")))
    else .error (err ("VK API returned error status: " ++ s.display) none)

/-- `send_json`. -/
def sendJson (c : ApiCall) : ToolM c.Data := ExceptT.mk (.call c fun o => .pure (decodeJson o))

/-- `send_empty_json`. -/
def sendEmptyJson (c : ApiCall) : ToolM Unit := ExceptT.mk (.call c fun o => .pure (decodeEmpty o))

theorem decodeJson_ok_iff {c : ApiCall} (h : c.expectsData = true) (o : Outcome c.Data) :
    (∃ d, decodeJson o = .ok d) ↔ c.accepts o = true := by
  rcases o with e | ⟨s, e | ⟨success, data, message⟩⟩
  · simp [decodeJson, ApiCall.accepts]
  · cases hs : s.isSuccess <;> simp [decodeJson, ApiCall.accepts, hs]
  · cases hs : s.isSuccess <;> cases success <;> cases data <;>
      simp [decodeJson, ApiCall.accepts, hs, h]

theorem decodeEmpty_ok_iff {c : ApiCall} (h : c.expectsData = false) (o : Outcome c.Data) :
    decodeEmpty o = .ok () ↔ c.accepts o = true := by
  rcases o with e | ⟨s, e | ⟨success, data, message⟩⟩
  · simp [decodeEmpty, ApiCall.accepts]
  · cases hs : s.isSuccess <;> simp [decodeEmpty, ApiCall.accepts, hs]
  · cases hs : s.isSuccess <;> cases success <;> simp [decodeEmpty, ApiCall.accepts, hs, h]

/-! ## `@tag` expansion -/

/-- `\s` of the `regex` crate: a Unicode `White_Space` character. -/
def isWhiteSpace (c : Char) : Bool :=
  let n := c.toNat
  (0x09 ≤ n && n ≤ 0x0D) || n == 0x20 || n == 0x85 || n == 0xA0 || n == 0x1680 ||
    (0x2000 ≤ n && n ≤ 0x200A) || n == 0x2028 || n == 0x2029 || n == 0x202F || n == 0x205F ||
    n == 0x3000

/-- `str::trim`. -/
def trim (s : String) : String :=
  ⟨((s.data.dropWhile isWhiteSpace).reverse.dropWhile isWhiteSpace).reverse⟩

/-- A character of a tag name, `[^\s@]`. -/
def isTagChar (c : Char) : Bool := !isWhiteSpace c && c != '@'

/-- A piece of a text scanned for `@([^\s@]+)`: a character outside every match, or a match's
tag name. -/
inductive Piece
  | text (c : Char)
  | tag (name : String)
  deriving DecidableEq, Repr

/-- The end of a possible match: a tag if its name is not empty, else the `@` alone. -/
def closeTag (acc : List Char) : List Piece :=
  if acc = [] then [.text '@'] else [.tag ⟨acc.reverse⟩]

/-- The leftmost-first matches of `@([^\s@]+)`, scanning with the name read so far (reversed)
when inside a possible match. -/
def scanTags : Option (List Char) → List Char → List Piece
  | none, [] => []
  | some acc, [] => closeTag acc
  | none, c :: cs => if c = '@' then scanTags (some []) cs else .text c :: scanTags none cs
  | some acc, c :: cs =>
    if isTagChar c then scanTags (some (c :: acc)) cs
    else closeTag acc ++ if c = '@' then scanTags (some []) cs else .text c :: scanTags none cs

/-- The tag names a text mentions. -/
def tagNames (text : String) : List String :=
  (scanTags none text.data).filterMap fun | .tag n => some n | .text _ => none

/-- `get` on a `HashMap` collected from `pairs`: of two pairs with one key, the later wins. -/
def collectGet {κ ν : Type} [DecidableEq κ] (pairs : List (κ × ν)) (k : κ) : Option ν :=
  pairs.reverse.lookup k

/-- `tag_map.get(name)`. -/
def tagContent (tags : List Db.Tag) (name : String) : Option String :=
  collectGet (tags.map fun t => (t.tagName, t.content)) name

/-- `replace_all`: each match becomes its tag's content, or stays as it was. -/
def replaceTags (tags : List Db.Tag) (text : String) : String :=
  ⟨(scanTags none text.data).flatMap fun
    | .text c => [c]
    | .tag n => ((tagContent tags n).getD ("@" ++ n)).data⟩

/-- `expand_tags`: with no `@name` in the text, no request; otherwise `GET /api/tags`, and any
failure leaves the text as it was. -/
def expandTags (text : String) : VkM String :=
  if tagNames text = [] then .pure text
  else .call .listLocalTags fun
    | .answered s (.ok env) =>
      .pure (if s.isSuccess && env.success then replaceTags (env.data.getD []) text else text)
    | _ => .pure text

/-- A piece as the text has it: the character, or `@` and the tag's name. -/
def Piece.source : Piece → List Char
  | .text c => [c]
  | .tag name => '@' :: name.data

theorem closeTag_source (acc : List Char) : (closeTag acc).flatMap Piece.source = '@' :: acc.reverse := by
  unfold closeTag
  split <;> simp_all [Piece.source]

/-- The scanner loses nothing: its pieces, put back, are the text it read. -/
theorem scanTags_source (acc : Option (List Char)) (cs : List Char) :
    (scanTags acc cs).flatMap Piece.source = (acc.map fun a => '@' :: a.reverse).getD [] ++ cs := by
  induction cs generalizing acc with
  | nil => cases acc <;> simp [scanTags, closeTag_source]
  | cons c cs ih =>
    cases acc with
    | none =>
      by_cases hc : c = '@' <;> simp [scanTags, hc, ih, Piece.source]
    | some acc =>
      by_cases ht : isTagChar c
      · simp [scanTags, ht, ih]
      · have h_at : isTagChar '@' = false := rfl
        by_cases hc : c = '@' <;> simp [scanTags, ht, hc, h_at, ih, closeTag_source, Piece.source]

theorem replaceTags_of_unknown {tags : List Db.Tag} {text : String}
    (h : ∀ name ∈ tagNames text, tagContent tags name = none) : replaceTags tags text = text := by
  have hsrc := scanTags_source none text.data
  simp only [Option.map_none', Option.getD_none, List.nil_append] at hsrc
  refine String.ext (Eq.trans (List.flatMap_congr fun p hp => ?_) hsrc)
  cases p with
  | text c => rfl
  | tag name =>
    have hn : name ∈ tagNames text := List.mem_filterMap.mpr ⟨_, hp, rfl⟩
    simp [h name hn, Piece.source]

/-- **Tag expansion.** For every text and every sequence of outcomes, `expand_tags` returns the text
itself unless the tags request is answered with a success status and `success: true` and a tag the
text mentions is in the list. -/
theorem expand_tags_keeps_text (text : String) (o : VkM.Oracle) (n : Nat) :
    ((expandTags text).run o n).1 = text ∨
      ∃ s env, o n .listLocalTags = .answered s (.ok env) ∧ s.isSuccess = true ∧
        env.success = true ∧ ∃ name ∈ tagNames text, (tagContent (env.data.getD []) name).isSome := by
  unfold expandTags
  split
  · exact .inl rfl
  · simp only [VkM.run]
    rcases ho : o n .listLocalTags with e | ⟨s, e | env⟩
    · exact .inl rfl
    · exact .inl rfl
    · by_cases hs : s.isSuccess && env.success
      · by_cases hk : ∃ name ∈ tagNames text, (tagContent (env.data.getD []) name).isSome
        · exact .inr ⟨s, env, rfl, (Bool.and_eq_true _ _ ▸ hs).1, (Bool.and_eq_true _ _ ▸ hs).2, hk⟩
        · simp only [not_exists, not_and, Option.not_isSome_iff_eq_none] at hk
          simp [hs, replaceTags_of_unknown hk, VkM.run]
      · simp [hs, VkM.run]

/-! ## The matches of `@([^\s@]+)` -/

/-- The first character of a piece as the text has it. -/
def Piece.head : Piece → Char
  | .text c => c
  | .tag _ => '@'

/-- A tag's name is a non-empty run of tag characters. -/
def Piece.wellFormed : Piece → Bool
  | .text _ => true
  | .tag name => !name.data.isEmpty && name.data.all isTagChar

/-- The piece is a match or an `@` that starts none: a tag character after it would extend it. -/
def Piece.endsAtTag : Piece → Bool
  | .text c => c == '@'
  | .tag _ => true

/-- The pieces of the leftmost-first matches of `@([^\s@]+)` in a text: every tag name is a
non-empty run of tag characters, and no match or unmatched `@` is followed by a tag character. -/
def leftmostMatches : List Piece → Bool
  | [] => true
  | [p] => p.wellFormed
  | p :: q :: ps => p.wellFormed && (!p.endsAtTag || !isTagChar q.head) && leftmostMatches (q :: ps)

theorem leftmostMatches_cons {p : Piece} {ps : List Piece} :
    leftmostMatches (p :: ps) = true ↔ p.wellFormed = true ∧
      (p.endsAtTag = true → ∀ q ∈ ps.head?, isTagChar q.head = false) ∧
        leftmostMatches ps = true := by
  cases ps with
  | nil => simp [leftmostMatches]
  | cons q ps =>
    simp only [leftmostMatches, Bool.and_eq_true, Bool.or_eq_true, Bool.not_eq_true',
      List.head?_cons, Option.mem_def, Option.some.injEq, forall_eq', and_assoc]
    cases p.endsAtTag <;> simp

theorem head?_flatMap_source (ps : List Piece) :
    (ps.flatMap Piece.source).head? = ps.head?.map Piece.head := by
  rcases ps with _ | ⟨_ | _, _⟩ <;> rfl

/-- Inside a possible match, a run of tag characters only extends the name. -/
theorem scanTags_tagChars (cs rest : List Char) (h : ∀ c ∈ cs, isTagChar c = true) :
    ∀ acc, scanTags (some acc) (cs ++ rest) = scanTags (some (cs.reverse ++ acc)) rest := by
  induction cs with
  | nil => intro acc; rfl
  | cons c cs ih =>
    intro acc
    rw [List.cons_append, scanTags, if_pos (h c (List.mem_cons_self _ _)),
      ih fun d hd => h d (List.mem_cons_of_mem _ hd)]
    simp

/-- At a character that is no tag character, or at the end, a possible match closes. -/
theorem scanTags_some_of_boundary (acc : List Char) {r : List Char}
    (h : ∀ c ∈ r.head?, isTagChar c = false) :
    scanTags (some acc) r = closeTag acc ++ scanTags none r := by
  cases r with
  | nil => simp [scanTags]
  | cons c r => simp [scanTags, h c rfl]

theorem closeTag_wellFormed {acc : List Char} (h : ∀ c ∈ acc, isTagChar c = true) :
    ∃ p, closeTag acc = [p] ∧ p.wellFormed = true ∧ p.endsAtTag = true := by
  unfold closeTag
  split
  · exact ⟨_, rfl, rfl, rfl⟩
  · refine ⟨_, rfl, ?_, rfl⟩
    simpa [Piece.wellFormed, List.all_eq_true] using ⟨‹_›, h⟩

/-- The scanner's pieces are leftmost-first matches, from either state. -/
theorem leftmostMatches_scanTags (cs : List Char) :
    leftmostMatches (scanTags none cs) = true ∧
      ∀ acc, (∀ c ∈ acc, isTagChar c = true) → leftmostMatches (scanTags (some acc) cs) = true := by
  induction cs with
  | nil =>
    refine ⟨rfl, fun acc hacc => ?_⟩
    obtain ⟨p, hp, hwf, -⟩ := closeTag_wellFormed hacc
    simpa [scanTags, hp, leftmostMatches] using hwf
  | cons c cs ih =>
    have hnone : leftmostMatches (scanTags none (c :: cs)) = true := by
      by_cases hc : c = '@'
      · simpa [scanTags, hc] using ih.2 [] (by simp)
      · simpa [scanTags, hc, leftmostMatches_cons, Piece.wellFormed, Piece.endsAtTag] using ih.1
    refine ⟨hnone, fun acc hacc => ?_⟩
    by_cases ht : isTagChar c = true
    · rw [scanTags, if_pos ht]
      exact ih.2 _ (by simpa [ht] using hacc)
    · rw [scanTags_some_of_boundary acc (by simpa using ht)]
      obtain ⟨p, hp, hwf, hend⟩ := closeTag_wellFormed hacc
      have hhead := head?_flatMap_source (scanTags none (c :: cs))
      rw [scanTags_source, Option.map_none', Option.getD_none, List.nil_append] at hhead
      rw [hp, List.singleton_append, leftmostMatches_cons]
      refine ⟨hwf, fun _ q hq => ?_, hnone⟩
      obtain ⟨q', hq', rfl⟩ : ∃ q' ∈ (scanTags none (c :: cs)).head?, q'.head = c := by
        simpa using hhead.symm
      cases Option.mem_unique hq hq'
      simpa using ht

/-- Scanning the text of leftmost-first matches gives the matches back. -/
theorem scanTags_flatMap_source (ps : List Piece) (h : leftmostMatches ps = true) :
    scanTags none (ps.flatMap Piece.source) = ps := by
  induction ps with
  | nil => rfl
  | cons p ps ih =>
    obtain ⟨hwf, hend, hrest⟩ := leftmostMatches_cons.mp h
    have hbound (he : p.endsAtTag = true) :
        ∀ c ∈ (ps.flatMap Piece.source).head?, isTagChar c = false := by
      rw [head?_flatMap_source]
      rintro c hc
      obtain ⟨q, hq, rfl⟩ := Option.mem_map.mp hc
      exact hend he q hq
    cases p with
    | text c =>
      by_cases hc : c = '@'
      · subst hc
        rw [List.flatMap_cons, Piece.source, List.singleton_append, scanTags, if_pos rfl,
          scanTags_some_of_boundary [] (hbound rfl), ih hrest]
        rfl
      · rw [List.flatMap_cons, Piece.source, List.singleton_append, scanTags, if_neg hc, ih hrest]
    | tag name =>
      simp only [Piece.wellFormed, Bool.and_eq_true, Bool.not_eq_true', List.isEmpty_eq_false,
        List.all_eq_true] at hwf
      rw [List.flatMap_cons, Piece.source, List.cons_append, scanTags, if_pos rfl,
        scanTags_tagChars _ _ hwf.2, List.append_nil, scanTags_some_of_boundary _ (hbound rfl),
        ih hrest, closeTag, if_neg (by simpa using hwf.1), List.reverse_reverse]
      rfl

/-- **Tag scanning.** For every text, the scanner splits it into the leftmost-first matches of
`@([^\s@]+)`: its pieces put back are the text, and they are the one such decomposition of it. -/
theorem tag_scanner_splits_into_leftmost_matches (cs : List Char) (ps : List Piece) :
    scanTags none cs = ps ↔ leftmostMatches ps = true ∧ ps.flatMap Piece.source = cs := by
  constructor
  · rintro rfl
    exact ⟨(leftmostMatches_scanTags cs).1, by simpa using scanTags_source none cs⟩
  · rintro ⟨h, rfl⟩
    exact scanTags_flatMap_source ps h

/-- `retain(..)` under a supplied filter; no filter keeps every item. -/
def retainIf {α ι : Type} (filter : Option α) (p : α → ι → Bool) (items : List ι) : List ι :=
  match filter with
  | some a => items.filter (p a)
  | none => items

/-- `str::to_uppercase` on ASCII text. -/
def toAsciiUppercase (s : String) : String := ⟨s.data.map Char.toUpper⟩

/-- `str::replace` of one character by another. -/
def replaceChar (s : String) (a b : Char) : String := ⟨s.data.map fun c => if c = a then b else c⟩

/-- A trimmed text, or none when it is empty. -/
def nonEmptyTrimmed (s : String) : Option String :=
  if (trim s).isEmpty then none else some (trim s)

/-- `McpRepoContext`. -/
structure McpRepoContext where
  repoId : Uuid
  repoName : String
  targetBranch : String
  deriving DecidableEq, Repr

/-- `McpContext`: the workspace session the server runs in, if the VK API knew it at startup. -/
structure McpContext where
  organizationId : Option Uuid
  projectId : Option Uuid
  issueId : Option Uuid
  workspaceId : Uuid
  workspaceBranch : String
  workspaceRepos : List McpRepoContext
  deriving DecidableEq, Repr

/-- `TaskServer`: what the tools read of it. -/
structure TaskServer where
  context : Option McpContext

/-- The two id resolvers: the explicit id, else the context's, else the error `message`. -/
def TaskServer.resolveFromContext (s : TaskServer) (explicit : Option Uuid)
    (field : McpContext → Option Uuid) (message : String) : Except ErrorValue Uuid :=
  match explicit with
  | some id => .ok id
  | none =>
    match s.context.bind field with
    | some id => .ok id
    | none => .error (err message none)

/-- `resolve_project_id`. -/
def TaskServer.resolveProjectId (s : TaskServer) (explicit : Option Uuid) :
    Except ErrorValue Uuid :=
  s.resolveFromContext explicit McpContext.projectId
    "project_id is required (not available from workspace context)"

/-- `resolve_organization_id`. -/
def TaskServer.resolveOrganizationId (s : TaskServer) (explicit : Option Uuid) :
    Except ErrorValue Uuid :=
  s.resolveFromContext explicit McpContext.organizationId
    "organization_id is required (not available from workspace context)"

/-! ## Statuses -/

/-- `fetch_project_statuses`. -/
def fetchProjectStatuses (projectId : Uuid) : ToolM (List ProjectStatus) :=
  sendJson (.listProjectStatuses projectId)

/-- The lower-case hexadecimal digits of `n`, without leading zeros. -/
def lowerHex (n : Nat) : String := ⟨Nat.toDigits 16 n⟩

/-- `char::escape_debug_ext` as `<str as Debug>::fmt` calls it (double quotes escaped, single
quotes not), on ASCII: `\0`, `\t`, `\r`, `\n`, the backslash and the double quote after a
backslash, the other control characters as `\u{hex}`, the printable ones as they are. A character
beyond ASCII is written as it is, as core does for the printable ones that extend no grapheme
(core's tables of those are not in the repository). -/
def escapeDebugChar (c : Char) : String :=
  if c = '\x00' then "\\0"
  else if c = '\t' then "\\t"
  else if c = '\r' then "\\r"
  else if c = '\n' then "\\n"
  else if c = '\\' then "\\\\"
  else if c = '"' then "\\\""
  else if c.toNat < 0x20 ∨ c.toNat = 0x7f then "\\u\x7b" ++ lowerHex c.toNat ++ "\x7d"
  else c.toString

/-- A string in `{:?}` form: quoted, each character escaped. -/
def debugQuote (s : String) : String :=
  "\"" ++ String.join (s.data.map escapeDebugChar) ++ "\""

example : debugQuote "a\"b\\c\x01" = "\"a\\\"b\\\\c\\u\x7b1\x7d\"" := by decide

/-- `resolve_status_id`: the first status whose name matches ignoring ASCII case. -/
def resolveStatusId (projectId : Uuid) (statusName : String) : ToolM Uuid := do
  let statuses ← fetchProjectStatuses projectId
  match statuses.find? (fun s => eqIgnoreAsciiCase s.name statusName) with
  | some s => pure s.id
  | none =>
    throw (err ("Unknown status '" ++ statusName ++ "'. Available statuses: [" ++
      ", ".intercalate (statuses.map fun s => debugQuote s.name) ++ "]") none)

/-- `min_by_key(sort_order)`: the first status of least sort order. -/
def minBySortOrder : List ProjectStatus → Option ProjectStatus
  | [] => none
  | s :: rest => some (rest.foldl (fun m t => if t.sortOrder < m.sortOrder then t else m) s)

/-- `default_status_id`: the first visible status of least sort order. -/
def defaultStatusId (projectId : Uuid) : ToolM Uuid := do
  let statuses ← fetchProjectStatuses projectId
  match minBySortOrder (statuses.filter fun s => !s.hidden) with
  | some s => pure s.id
  | none => throw (err "No visible statuses found for project" none)

/-- `s` is the first status of least sort order in `l`. -/
def IsFirstLeast (l : List ProjectStatus) (s : ProjectStatus) : Prop :=
  ∃ pre suf, l = pre ++ s :: suf ∧ (∀ t ∈ pre, s.sortOrder < t.sortOrder) ∧
    ∀ t ∈ suf, s.sortOrder ≤ t.sortOrder

namespace IsFirstLeast

variable {l : List ProjectStatus} {r m t : ProjectStatus}

theorem le (h : IsFirstLeast l r) : ∀ x ∈ l, r.sortOrder ≤ x.sortOrder := by
  obtain ⟨pre, suf, rfl, hpre, hsuf⟩ := h
  intro x hx
  simp only [List.mem_append, List.mem_cons] at hx
  rcases hx with hx | rfl | hx
  · exact le_of_lt (hpre x hx)
  · exact le_rfl
  · exact hsuf x hx

theorem cons (h : IsFirstLeast l r) (hm : r.sortOrder < m.sortOrder) : IsFirstLeast (m :: l) r :=
  let ⟨pre, suf, hl, hpre, hsuf⟩ := h
  ⟨m :: pre, suf, by rw [hl]; rfl, by simpa [hm] using hpre, hsuf⟩

theorem insert_second {rest : List ProjectStatus} (h : IsFirstLeast (m :: rest) r)
    (ht : m.sortOrder ≤ t.sortOrder) : IsFirstLeast (m :: t :: rest) r := by
  obtain ⟨_ | ⟨m', pre⟩, suf, hl, hpre, hsuf⟩ := h
  · obtain ⟨rfl, rfl⟩ := List.cons.inj hl
    exact ⟨[], t :: rest, rfl, by simp, by simpa [ht] using hsuf⟩
  · obtain ⟨rfl, rfl⟩ := List.cons.inj hl
    have hrm := hpre m (List.mem_cons_self _ _)
    exact ⟨m :: t :: pre, suf, rfl, by simpa [hrm, lt_of_lt_of_le hrm ht] using hpre, hsuf⟩

end IsFirstLeast

theorem isFirstLeast_foldl (m : ProjectStatus) (rest : List ProjectStatus) :
    IsFirstLeast (m :: rest) (rest.foldl (fun m t => if t.sortOrder < m.sortOrder then t else m) m) := by
  induction rest generalizing m with
  | nil => exact ⟨[], [], rfl, by simp, by simp⟩
  | cons t rest ih =>
    rw [List.foldl_cons]
    split
    next htm =>
      have h := ih t
      exact h.cons (lt_of_le_of_lt (h.le t (List.mem_cons_self _ _)) htm)
    next htm => exact (ih m).insert_second (not_lt.mp htm)

theorem minBySortOrder_spec (l : List ProjectStatus) :
    ∀ s, minBySortOrder l = some s → IsFirstLeast l s := by
  cases l with
  | nil => intro s h; cases h
  | cons m rest => intro s h; cases h; exact isFirstLeast_foldl m rest

theorem minBySortOrder_eq_none {l : List ProjectStatus} : minBySortOrder l = none ↔ l = [] := by
  cases l <;> simp [minBySortOrder]

/-- **Default status.** For every answer listing the project's statuses, `default_status_id` gives
the id of the first visible status of least `sort_order` (`min_by_key` keeps the first of equal
keys), and the error `No visible statuses found for project` exactly when none is visible. -/
theorem default_status_id_is_first_least_visible (projectId : Uuid) (o : VkM.Oracle)
    (statuses : List ProjectStatus)
    (ho : decodeJson (o 0 (.listProjectStatuses projectId)) = .ok statuses) :
    (∀ id, ((defaultStatusId projectId).run.run o 0).1 = .ok id →
      ∃ s, IsFirstLeast (statuses.filter fun s => !s.hidden) s ∧ s.id = id) ∧
    (∀ e, ((defaultStatusId projectId).run.run o 0).1 = .error e →
      statuses.filter (fun s => !s.hidden) = [] ∧ e = err "No visible statuses found for project" none) := by
  have hrun : ((defaultStatusId projectId).run.run o 0).1 =
      match minBySortOrder (statuses.filter fun s => !s.hidden) with
      | some s => .ok s.id
      | none => .error (err "No visible statuses found for project" none) := by
    show (VkM.run o (ExceptT.bindCont _ (decodeJson (o 0 (.listProjectStatuses projectId)))) 1).1 = _
    rw [ho]
    dsimp only [ExceptT.bindCont]
    cases minBySortOrder (statuses.filter fun s => !s.hidden) <;> rfl
  rw [hrun]
  cases hm : minBySortOrder (statuses.filter fun s => !s.hidden) with
  | none =>
    refine ⟨fun _ h => (nomatch h), fun e h => ?_⟩
    cases h
    exact ⟨minBySortOrder_eq_none.1 hm, rfl⟩
  | some s =>
    exact ⟨fun id h => ⟨s, minBySortOrder_spec _ s hm, by cases h; rfl⟩, fun _ h => (nomatch h)⟩

theorem default_status_of_board :
    let statuses : List ProjectStatus :=
      [⟨⟨1⟩, "Backlog", true, 0⟩, ⟨⟨2⟩, "Todo", false, 1⟩, ⟨⟨3⟩, "Doing", false, 1⟩]
    let o : VkM.Oracle := fun _ c => match c with
      | .listProjectStatuses _ => .okWith statuses
      | _ => .connectFailed "unexpected request"
    decodeJson (o 0 (.listProjectStatuses ⟨9⟩)) = .ok statuses ∧
      ((defaultStatusId ⟨9⟩).run.run o 0).1 = .ok ⟨2⟩ ∧
      ∃ s, IsFirstLeast (statuses.filter fun s => !s.hidden) s ∧ s.id = ⟨2⟩ := by
  intro statuses o
  exact ⟨rfl, rfl, (default_status_id_is_first_least_visible ⟨9⟩ o statuses rfl).1 _ rfl⟩

/-- `resolve_status_name`: the status's name, else the id as text; it never fails. -/
def resolveStatusName (projectId statusId : Uuid) : VkM String :=
  VkM.bind (fetchProjectStatuses projectId).run fun
    | .ok statuses => .pure (((statuses.find? (·.id = statusId)).map (·.name)).getD statusId.toString)
    | .error _ => .pure statusId.toString

/-! ## Linking, priorities, pull requests -/

/-- `link_workspace_to_issue`: read the issue for its project, then post the link. -/
def linkWorkspaceToIssue (workspaceId issueId : Uuid) : ToolM Unit := do
  let issue ← sendJson (.getIssue issueId)
  sendEmptyJson (.linkWorkspace workspaceId (Issue.projectId issue) issueId)

/-- `parse_issue_priority`. -/
def parseIssuePriority (priority : String) : Except ErrorValue IssuePriority :=
  match toAsciiLowercase (trim priority) with
  | "urgent" => .ok .urgent
  | "high" => .ok .high
  | "medium" => .ok .medium
  | "low" => .ok .low
  | _ => .error (err ("Unknown priority '" ++ priority ++
      "'. Allowed values: ['urgent', 'high', 'medium', 'low']") none)

/-- `issue_priority_label`. -/
def issuePriorityLabel : IssuePriority → String
  | .urgent => "urgent"
  | .high => "high"
  | .medium => "medium"
  | .low => "low"

/-- `fetch_pull_requests`: a failed request gives no pull requests. -/
def fetchPullRequests (issueId : Uuid) : VkM (List PullRequest) :=
  VkM.bind (sendJson (.listPullRequests issueId)).run fun
    | .ok prs => .pure prs
    | .error _ => .pure []

/-! ## Summaries -/

/-- `IssueSummary`; timestamps are kept as numbers. -/
structure IssueSummary where
  id : String
  title : String
  simpleId : String
  status : String
  priority : Option String
  parentIssueId : Option String
  createdAt : Nat
  updatedAt : Nat
  pullRequestCount : Nat
  latestPrUrl : Option String
  latestPrStatus : Option PullRequestStatus
  deriving DecidableEq, Repr

/-- `issue_to_summary`: the status is its name in the collected status map, else the id. -/
def issueToSummary (issue : Issue) (statusNamesById : Option (List (Uuid × String)))
    (pullRequests : List PullRequest) : IssueSummary :=
  { id := issue.id.toString
    title := issue.title
    simpleId := issue.simpleId
    status := ((statusNamesById.bind fun m => collectGet m issue.statusId)).getD
      issue.statusId.toString
    priority := issue.priority.map issuePriorityLabel
    parentIssueId := issue.parentIssueId.map Uuid.toString
    createdAt := issue.createdAt
    updatedAt := issue.updatedAt
    pullRequestCount := pullRequests.length
    latestPrUrl := pullRequests.head?.map (·.url)
    latestPrStatus := pullRequests.head?.map (·.status) }

/-- `PullRequestSummary`. -/
structure PullRequestSummary where
  number : Int
  url : String
  status : PullRequestStatus
  mergedAt : Option Nat
  targetBranchName : String
  deriving DecidableEq, Repr

/-- `IssueDetails`. -/
structure IssueDetails where
  id : String
  title : String
  simpleId : String
  description : Option String
  status : String
  statusId : String
  priority : Option String
  parentIssueId : Option String
  startDate : Option Nat
  targetDate : Option Nat
  completedAt : Option Nat
  createdAt : Nat
  updatedAt : Nat
  pullRequests : List PullRequestSummary
  deriving DecidableEq, Repr

/-- `issue_to_details`: it never fails. -/
def issueToDetails (issue : Issue) (pullRequests : List PullRequest) : VkM IssueDetails :=
  VkM.bind (resolveStatusName issue.projectId issue.statusId) fun status =>
    .pure
      { id := issue.id.toString
        title := issue.title
        simpleId := issue.simpleId
        description := issue.description
        status := status
        statusId := issue.statusId.toString
        priority := issue.priority.map issuePriorityLabel
        parentIssueId := issue.parentIssueId.map Uuid.toString
        startDate := issue.startDate
        targetDate := issue.targetDate
        completedAt := issue.completedAt
        createdAt := issue.createdAt
        updatedAt := issue.updatedAt
        pullRequests := pullRequests.map fun pr =>
          ⟨pr.number, pr.url, pr.status, pr.mergedAt, pr.targetBranchName⟩ }

/-! ## Per-issue filters -/

/-- `filter_issues_by_assignee`: one request per issue, in order; the first failure ends it. -/
def filterIssuesByAssignee (assigneeUserId : Uuid) : List Issue → ToolM (List Issue)
  | [] => pure []
  | issue :: rest => do
    let assignees : List IssueAssignee ← sendJson (.listIssueAssignees issue.id)
    let kept ← filterIssuesByAssignee assigneeUserId rest
    pure (if assignees.any (·.userId = assigneeUserId) then issue :: kept else kept)

/-- `filter_issues_by_tag_ids`: one request per issue, in order; the first failure ends it. -/
def filterIssuesByTagIds (tagIds : List Uuid) : List Issue → ToolM (List Issue)
  | [] => pure []
  | issue :: rest => do
    let issueTags : List IssueTag ← sendJson (.listIssueTags issue.id)
    let kept ← filterIssuesByTagIds tagIds rest
    pure (if issueTags.any (·.tagId ∈ tagIds) then issue :: kept else kept)

end AgentKanban.Mcp
