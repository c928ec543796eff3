import AgentKanban.Mcp.Effects
import AgentKanban.Mcp.Tools
import Mathlib.Data.Option.Defs
import Mathlib.Data.List.Nodup

/-!
# What the list tools and `create_issue` return

`list_workspaces` and `list_issues` read a list, keep the items satisfying every supplied
filter, sort them by a timestamp descending, and return one page. When the VK API answers their
requests from fixed data, the result is determined; so is the issue `create_issue` posts.

1. `VkM.eval` runs a program whose answers do not depend on the request's position, and
   `VkM.calls` lists the requests it sends; `VkM.run_fst_eq_eval` and `VkM.run_snd_map_call`
   tie them to `VkM.run`.
2. `IsStableSortDesc key` says what a stable sort by `key` descending returns; `sort_by` (as
   `insertionSort`) gives it, and it has one result.
3. The filters as the requests' fields describe them: `WorkspaceMatches`, and
   `IssuesWorld.Matches` where, with both `tag_id` and `tag_name`, one tag of the issue must be
   both (`IssuesWorld.HasTag`), as the candidate set of the code is their intersection.
4. For `list_issues`, one lemma per stage: each keeps exactly the issues satisfying its clause.
5. `create_issue_posts_default_status`: the issue is posted with its project's default status.
6. `list_and_get_issue_show_status`: `list_issues` names an issue's status by the map it
   collects (the last status of the id) and `get_issue` by a search (the first); they agree
   when the project's status ids are distinct. Both rest on `eval_listIssues`, what
   `list_issues` returns from fixed data.
-/

namespace AgentKanban.Mcp

/-! ## Runs against fixed answers -/

namespace VkM

variable {α β : Type} (a : (c : ApiCall) → Outcome c.Data)

/-- The result of a program whose every request gets the outcome `a` gives it. -/
def eval : VkM α → α
  | .pure x => x
  | .call c k => (k (a c)).eval

theorem run_fst_eq_eval (p : VkM α) (n : Nat) : (p.run (fun _ => a) n).1 = p.eval a := by
  induction p generalizing n with
  | pure x => rfl
  | call c k ih => exact ih _ _

@[simp] theorem eval_pure (x : α) : (VkM.pure x).eval a = x := rfl

@[simp] theorem eval_bind (x : VkM α) (f : α → VkM β) :
    (x.bind f).eval a = (f (x.eval a)).eval a := by
  induction x with
  | pure x => rfl
  | call c k ih => exact ih _

@[simp] theorem eval_monadPure (x : α) : (pure x : VkM α).eval a = x := rfl

@[simp] theorem eval_map (f : α → β) (x : VkM α) : (f <$> x).eval a = f (x.eval a) :=
  eval_bind a x _

/-- The requests a program sends when every request gets the outcome `a` gives it. -/
def calls : VkM α → List ApiCall
  | .pure _ => []
  | .call c k => c :: (k (a c)).calls

theorem run_snd_map_call (p : VkM α) (n : Nat) : (p.run (fun _ => a) n).2.map (·.call) = p.calls a := by
  induction p generalizing n with
  | pure x => rfl
  | call c k ih => exact congrArg (c :: ·) (ih _ _)

@[simp] theorem calls_pure (x : α) : (VkM.pure x).calls a = [] := rfl

@[simp] theorem calls_monadPure (x : α) : (pure x : VkM α).calls a = [] := rfl

@[simp] theorem calls_bind (x : VkM α) (f : α → VkM β) :
    (x.bind f).calls a = x.calls a ++ (f (x.eval a)).calls a := by
  induction x with
  | pure x => rfl
  | call c k ih => exact congrArg (c :: ·) (ih _)

@[simp] theorem calls_map (f : α → β) (x : VkM α) : (f <$> x).calls a = x.calls a := by
  show (x.bind _).calls a = _
  rw [calls_bind]
  exact List.append_nil _

theorem ReadOnly.calls {p : VkM α} (h : p.ReadOnly) : ∀ c ∈ p.calls a, c.mutating = false := by
  induction p with
  | pure x => intro c hc; cases hc
  | call c k ih =>
    intro d hd
    rcases List.mem_cons.mp hd with rfl | hd
    · exact h.1
    · exact ih _ (h.2 _) d hd

end VkM

namespace ToolM

variable {α β : Type} (a : (c : ApiCall) → Outcome c.Data)

@[simp] theorem eval_bind (x : ToolM α) (f : α → ToolM β) :
    (x >>= f).run.eval a = match x.run.eval a with
      | .ok v => (f v).run.eval a
      | .error e => .error e := by
  show (x.run.bind _).eval a = _
  rw [VkM.eval_bind]
  cases x.run.eval a <;> rfl

@[simp] theorem eval_pure (v : α) : (pure v : ToolM α).run.eval a = .ok v := rfl

@[simp] theorem eval_lift (x : VkM α) : (monadLift x : ToolM α).run.eval a = .ok (x.eval a) := by
  show (VkM.bind x _).eval a = _
  rw [VkM.eval_bind]
  rfl

@[simp] theorem eval_ofExcept (e : Except ErrorValue α) : (ofExcept e).run.eval a = e := rfl

@[simp] theorem eval_sendJson (c : ApiCall) : (sendJson c).run.eval a = decodeJson (a c) := rfl

@[simp] theorem eval_map (f : α → β) (x : ToolM α) :
    (f <$> x).run.eval a = (x.run.eval a).map f := by
  show (VkM.bind x.run _).eval a = _
  rw [VkM.eval_bind]
  cases x.run.eval a <;> rfl


@[simp] theorem calls_bind (x : ToolM α) (f : α → ToolM β) :
    (x >>= f).run.calls a = x.run.calls a ++ match x.run.eval a with
      | .ok v => (f v).run.calls a
      | .error _ => [] := by
  show (x.run.bind _).calls a = _
  rw [VkM.calls_bind]
  cases x.run.eval a <;> rfl

@[simp] theorem calls_pure (v : α) : (pure v : ToolM α).run.calls a = [] := rfl

@[simp] theorem calls_lift (x : VkM α) : (monadLift x : ToolM α).run.calls a = x.calls a := by
  show (VkM.bind x _).calls a = _
  rw [VkM.calls_bind]
  exact List.append_nil _

@[simp] theorem calls_ofExcept (e : Except ErrorValue α) : (ofExcept e).run.calls a = [] := rfl

@[simp] theorem calls_sendJson (c : ApiCall) : (sendJson c).run.calls a = [c] := rfl

@[simp] theorem calls_sendEmptyJson (c : ApiCall) : (sendEmptyJson c).run.calls a = [c] := rfl

@[simp] theorem calls_map (f : α → β) (x : ToolM α) : (f <$> x).run.calls a = x.run.calls a := by
  show (VkM.bind x.run _).calls a = _
  rw [VkM.calls_bind]
  cases x.run.eval a <;> exact List.append_nil _

theorem calls_bind_pure (x : ToolM α) (g : α → β) :
    (x >>= fun v => pure (g v)).run.calls a = x.run.calls a := by
  rw [calls_bind]
  cases x.run.eval a <;> exact List.append_nil _

/-- A property of request lists that survives sending reads first passes from what follows a
read-only step to the whole. -/
theorem calls_readOnly_bind {S : List ApiCall → Prop}
    (hS : ∀ r l, (∀ c ∈ r, c.mutating = false) → S l → S (r ++ l)) (hnil : S [])
    {x : ToolM α} {f : α → ToolM β} (hx : x.run.ReadOnly)
    (hf : ∀ v, x.run.eval a = .ok v → S ((f v).run.calls a)) : S ((x >>= f).run.calls a) := by
  rw [calls_bind]
  cases h : x.run.eval a with
  | ok v => exact hS _ _ (hx.calls a) (hf v h)
  | error e => exact hS _ _ (hx.calls a) hnil

theorem forall_mem_calls_bind {P : ApiCall → Prop} {x : ToolM α} {f : α → ToolM β}
    (hx : ∀ c ∈ x.run.calls a, P c) (hf : ∀ v, x.run.eval a = .ok v → ∀ c ∈ (f v).run.calls a, P c) :
    ∀ c ∈ (x >>= f).run.calls a, P c := by
  rw [calls_bind]
  intro c hc
  rcases List.mem_append.mp hc with hc | hc
  · exact hx c hc
  · revert hc
    cases hv : x.run.eval a with
    | ok v => exact hf v hv c
    | error e => intro hc; cases hc

end ToolM

theorem calls_toolResult {β : Type} (a : (c : ApiCall) → Outcome c.Data) (p : ToolM β) :
    (toolResult p).calls a = p.run.calls a := by
  rw [toolResult, VkM.calls_bind]
  exact List.append_nil _

@[simp] theorem decodeJson_okWith {α : Type} (d : α) : decodeJson (Outcome.okWith d) = .ok d := rfl

/-! ## Stable sorting by a key, descending -/

section StableSort

variable {α : Type} (key : α → Nat)

/-- `out` is `l` stably sorted by `key` descending: a permutation of `l`, in descending order of
`key`, that keeps the items of each key in their order in `l`. -/
structure IsStableSortDesc (l out : List α) : Prop where
  perm : out.Perm l
  desc : out.Pairwise fun a b => key b ≤ key a
  stable : ∀ t, out.filter (key · = t) = l.filter (key · = t)

theorem insertionSort_isStableSortDesc (l : List α) :
    IsStableSortDesc key l (l.insertionSort fun a b => key b ≤ key a) := by
  have : IsTotal α fun a b => key b ≤ key a := ⟨fun a b => Nat.le_total _ _⟩
  have : IsTrans α fun a b => key b ≤ key a := ⟨fun _ _ _ h₁ h₂ => Nat.le_trans h₂ h₁⟩
  have hperm := List.perm_insertionSort (fun a b => key b ≤ key a) l
  refine ⟨hperm, List.sorted_insertionSort _ l, fun t => ?_⟩
  have hkey : (l.filter (key · = t)).Pairwise fun a b => key b ≤ key a :=
    List.pairwise_of_forall_mem_list fun a ha b hb => by
      simp only [List.mem_filter, decide_eq_true_eq] at ha hb
      omega
  have hsub := (List.sublist_insertionSort hkey (List.filter_sublist l)).filter (key · = t)
  simp only [List.filter_filter, Bool.and_self] at hsub
  exact (hsub.eq_of_length (hperm.filter _).length_eq.symm).symm

variable {key}

/-- Two lists descending by `key` with the same items of each key, in the same order, are
equal. -/
theorem eq_of_desc_of_filter_eq {s₁ s₂ : List α}
    (h₁ : s₁.Pairwise fun a b => key b ≤ key a) (h₂ : s₂.Pairwise fun a b => key b ≤ key a)
    (h : ∀ t, s₁.filter (key · = t) = s₂.filter (key · = t)) : s₁ = s₂ := by
  have head_le {x y : α} {s s' : List α} (hs : (x :: s).Pairwise fun a b => key b ≤ key a)
      (hy : ∀ t, (x :: s).filter (key · = t) = (y :: s').filter (key · = t)) :
      key y ≤ key x := by
    have hmem : y ∈ (x :: s).filter (key · = key y) := by rw [hy]; simp
    rcases List.mem_cons.mp (List.mem_filter.mp hmem).1 with rfl | hm
    · exact le_rfl
    · exact List.rel_of_pairwise_cons hs hm
  induction s₁ generalizing s₂ with
  | nil =>
    cases s₂ with
    | nil => rfl
    | cons b s₂ => simpa using h (key b)
  | cons a s₁ ih =>
    cases s₂ with
    | nil => simpa using h (key a)
    | cons b s₂ =>
      have hk : key a = key b := le_antisymm (head_le h₂ fun t => (h t).symm) (head_le h₁ h)
      have hab := h (key a)
      simp only [List.filter_cons, hk, decide_True, if_true, List.cons.injEq] at hab
      obtain ⟨rfl, -⟩ := hab
      refine congrArg _ (ih h₁.of_cons h₂.of_cons fun t => ?_)
      have ht := h t
      by_cases hat : key a = t
      · simp only [List.filter_cons, hat, decide_True, if_true, List.cons.injEq] at ht
        exact ht.2
      · simpa [List.filter_cons, hat] using ht

theorem IsStableSortDesc.eq_insertionSort {l out : List α} (h : IsStableSortDesc key l out) :
    out = l.insertionSort fun a b => key b ≤ key a :=
  have hs := insertionSort_isStableSortDesc key l
  eq_of_desc_of_filter_eq h.desc hs.desc fun t => (h.stable t).trans (hs.stable t).symm

end StableSort

/-- Both list tools' `sort_by` return the one stable sort of their list by its timestamp,
descending. -/
theorem sort_by_is_the_stable_sort :
    (∀ l out : List Issue, IsStableSortDesc Issue.updatedAt l out ↔
      out = sortByUpdatedAtDesc l) ∧
    (∀ l out : List Db.Workspace, IsStableSortDesc Db.Workspace.createdAt l out ↔
      out = sortByCreatedAtDesc l) :=
  ⟨fun l _ => ⟨(·.eq_insertionSort), fun h => h ▸ insertionSort_isStableSortDesc _ l⟩,
    fun l _ => ⟨(·.eq_insertionSort), fun h => h ▸ insertionSort_isStableSortDesc _ l⟩⟩

/-! ## Filters -/

/-- `text` is a substring of `hay` ignoring ASCII case. -/
def ContainsIgnoringCase (hay text : String) : Prop :=
  ∃ pre mid suf, hay.data = pre ++ mid ++ suf ∧ eqIgnoreAsciiCase ⟨mid⟩ text = true

instance (hay text : String) : Decidable (ContainsIgnoringCase hay text) :=
  decidable_of_iff _ (strContains_lowercase_iff hay text)

theorem option_all_iff {α : Type} (q : α → Bool) (o : Option α) :
    o.all q = true ↔ ∀ a ∈ o, q a = true := by
  cases o <;> simp

theorem retainIf_eq_filter {α ι : Type} (o : Option α) (p : α → ι → Bool) (l : List ι) :
    retainIf o p l = l.filter fun i => o.all (p · i) := by
  cases o <;> simp [retainIf]

theorem filter_filter_and {α : Type} (p q : α → Bool) (l : List α) :
    (l.filter p).filter q = l.filter fun a => p a && q a := by
  rw [List.filter_filter]
  exact List.filter_congr fun a _ => Bool.and_comm _ _

/-! ## `list_workspaces` -/

/-- Every filter the request supplies holds of the workspace. -/
def WorkspaceMatches (req : McpListWorkspacesRequest) (w : Db.Workspace) : Prop :=
  (∀ a ∈ req.archived, w.archived = a) ∧ (∀ p ∈ req.pinned, w.pinned = p) ∧
  (∀ b ∈ req.branch, eqIgnoreAsciiCase w.branch b = true) ∧
  (∀ n ∈ req.nameSearch, ∃ name ∈ w.name, ContainsIgnoringCase name n)

instance (req : McpListWorkspacesRequest) : DecidablePred (WorkspaceMatches req) :=
  fun _ => inferInstanceAs (Decidable (_ ∧ _))

theorem nameSearch_iff (n : String) (w : Db.Workspace) :
    (w.name.map fun name => strContains (toAsciiLowercase name) (toAsciiLowercase n)).getD false =
      true ↔ ∃ name ∈ w.name, ContainsIgnoringCase name n := by
  cases w.name <;> simp [strContains_lowercase_iff, ContainsIgnoringCase]

/-- **`list_workspaces`.** For every answer listing the workspaces `ws`: the result holds the page
`F[o, o + l)` of `F`, the workspaces satisfying every supplied filter stably sorted by
`created_at` descending, and `total_count = |F|`. -/
theorem list_workspaces_returns_filtered_page (req : McpListWorkspacesRequest)
    (ws : List Db.Workspace) (a : (c : ApiCall) → Outcome c.Data)
    (ha : decodeJson (a .listWorkspaces) = .ok ws) :
    ∃ F, IsStableSortDesc Db.Workspace.createdAt (ws.filter (WorkspaceMatches req ·)) F ∧
      let o := (req.offset.getD 0).toNat
      let l := (req.limit.getD 50).toNat
      let page := (F.drop o).take l
      ((listWorkspaces req).run (fun _ => a) 0).1 =
        .success ⟨page.map fun w =>
            ⟨w.id.toString, w.branch, w.archived, w.pinned, w.name, w.createdAt, w.updatedAt⟩,
          F.length, page.length, l, o⟩ := by
  refine ⟨_, insertionSort_isStableSortDesc _ _, ?_⟩
  rw [VkM.run_fst_eq_eval]
  simp only [listWorkspaces, toolResult, VkM.eval_bind, ToolM.eval_bind, ToolM.eval_sendJson, ha,
    ToolM.eval_pure, VkM.eval_pure, CallToolResult.ofExcept, retainIf_eq_filter,
    filter_filter_and, List.length_map]
  congr
  all_goals
    funext w
    refine Bool.eq_iff_iff.mpr ?_
    simp only [Bool.and_eq_true, option_all_iff, decide_eq_true_eq, WorkspaceMatches, beq_iff_eq,
      nameSearch_iff, and_assoc]

theorem list_workspaces_pages_pinned :
    let ws : List Db.Workspace :=
      [⟨⟨1⟩, "main", false, false, none, 1, 1⟩, ⟨⟨2⟩, "vk/fix", false, true, some "Fix", 2, 2⟩]
    let a : (c : ApiCall) → Outcome c.Data := fun c => match c with
      | .listWorkspaces => .okWith ws
      | _ => .connectFailed "unexpected request"
    let req : McpListWorkspacesRequest := ⟨none, some true, none, none, none, none⟩
    decodeJson (a .listWorkspaces) = .ok ws ∧
      ∃ F, IsStableSortDesc Db.Workspace.createdAt (ws.filter (WorkspaceMatches req ·)) F ∧
        ((listWorkspaces req).run (fun _ => a) 0).1 =
          .success ⟨((F.drop 0).take 50).map fun w =>
              ⟨w.id.toString, w.branch, w.archived, w.pinned, w.name, w.createdAt, w.updatedAt⟩,
            F.length, ((F.drop 0).take 50).length, 50, 0⟩ := by
  intro ws a req
  exact ⟨rfl, list_workspaces_returns_filtered_page req ws a rfl⟩

/-! ## The world -/

/-- The VK API as `list_issues` reads it: the project's issues, statuses and tags, and each
issue's tags, assignees and pull requests. -/
structure IssuesWorld where
  issues : List Issue
  statuses : List ProjectStatus
  tags : List Tag
  issueTags : Uuid → List IssueTag
  assignees : Uuid → List IssueAssignee
  pullRequests : Uuid → List PullRequest

namespace IssuesWorld

variable (w : IssuesWorld)

/-- `200 OK` with the data, for each request `list_issues` sends. -/
def answer : (c : ApiCall) → Outcome c.Data
  | .listIssues _ => .okWith w.issues
  | .listProjectStatuses _ => .okWith w.statuses
  | .listTags _ => .okWith w.tags
  | .listIssueTags i => .okWith (w.issueTags i)
  | .listIssueAssignees i => .okWith (w.assignees i)
  | .listPullRequests i => .okWith (w.pullRequests i)
  | _ => .connectFailed "not a request of list_issues"

/-! ## The filters as the request describes them -/

/-- The name of the issue's status in the project's list (of the last status of its id, as a
map collected from the list keeps), empty if the list has none. -/
def statusName (issue : Issue) : String :=
  ((w.statuses.reverse.find? (·.id = issue.statusId)).map (·.name)).getD ""

/-- The issue has a tag that is `tagId` when one is given, and that is named `tagName` ignoring
ASCII case when one is given. -/
def HasTag (tagId : Option Uuid) (tagName : Option String) (issue : Issue) : Prop :=
  ∃ it ∈ w.issueTags issue.id, (∀ t ∈ tagId, it.tagId = t) ∧
    ∀ n ∈ tagName, ∃ tag ∈ w.tags, eqIgnoreAsciiCase tag.name n = true ∧ tag.id = it.tagId

instance (tagId : Option Uuid) (tagName : Option String) :
    DecidablePred (w.HasTag tagId tagName) :=
  fun _ => inferInstanceAs (Decidable (∃ _ ∈ _, _))

/-- Every filter the request supplies holds of the issue, `prio` being the parsed priority. -/
def Matches (req : McpListIssuesRequest) (prio : Option IssuePriority) (issue : Issue) : Prop :=
  (∀ p ∈ req.parentIssueId, issue.parentIssueId = some p) ∧
  (∀ q ∈ req.search, ContainsIgnoringCase issue.title q ∨
    ∃ d ∈ issue.description, ContainsIgnoringCase d q) ∧
  (∀ sid ∈ req.simpleId, eqIgnoreAsciiCase issue.simpleId sid = true) ∧
  (∀ st ∈ req.status, eqIgnoreAsciiCase (w.statusName issue) st = true ∨
    eqIgnoreAsciiCase issue.statusId.toString st = true) ∧
  (∀ p ∈ prio, issue.priority = some p) ∧
  ((req.tagId.isSome ∨ req.tagName.isSome) → w.HasTag req.tagId req.tagName issue) ∧
  (∀ u ∈ req.assigneeUserId, ∃ a ∈ w.assignees issue.id, a.userId = u)

instance (req : McpListIssuesRequest) (prio : Option IssuePriority) :
    DecidablePred (w.Matches req prio) :=
  fun _ => inferInstanceAs (Decidable (_ ∧ _))

end IssuesWorld

/-! ## Each stage keeps the issues satisfying its clause -/

section Stages

variable (w : IssuesWorld)

open IssuesWorld

theorem matchesSearch_iff (q : String) (issue : Issue) :
    matchesSearch q issue = true ↔
      ContainsIgnoringCase issue.title q ∨ ∃ d ∈ issue.description, ContainsIgnoringCase d q := by
  have hc (hay : String) := strContains_lowercase_iff hay q
  cases h : issue.description <;> simp [matchesSearch, h, hc, ContainsIgnoringCase]

/-- A map collected from `(key, value)` pairs gives the value of the last pair of the key. -/
theorem collectGet_map {α : Type} (l : List α) (key : α → Uuid) (val : α → String) (k : Uuid) :
    collectGet (l.map fun x => (key x, val x)) k = (l.reverse.find? (key · = k)).map val := by
  rw [collectGet, ← List.map_reverse]
  induction l.reverse with
  | nil => rfl
  | cons x l ih =>
    rcases eq_or_ne (key x) k with h | h
    · simp [List.lookup_cons, h]
    · simp [List.lookup_cons, beq_false_of_ne h.symm, h, ih]

theorem collectGet_statuses (k : Uuid) :
    collectGet (w.statuses.map fun s => (s.id, s.name)) k =
      (w.statuses.reverse.find? (·.id = k)).map (·.name) :=
  collectGet_map _ _ _ k

theorem matchesStatus_iff (st : String) (issue : Issue) :
    matchesStatus (some (w.statuses.map fun s => (s.id, s.name))) st issue = true ↔
      eqIgnoreAsciiCase (w.statusName issue) st = true ∨
        eqIgnoreAsciiCase issue.statusId.toString st = true := by
  simp [matchesStatus, statusName, collectGet_statuses]

theorem mem_candidateTagIds {x : Uuid} {tagId : Option Uuid} {matching : Option (List Uuid)} :
    x ∈ candidateTagIds tagId matching ↔
      (∀ t ∈ tagId, x = t) ∧ (∀ m ∈ matching, x ∈ m) ∧ (tagId.isSome ∨ matching.isSome) := by
  cases tagId <;> cases matching <;> simp [candidateTagIds, eq_comm]

theorem eval_filterIssuesByTagIds (ids : List Uuid) (issues : List Issue) :
    (filterIssuesByTagIds ids issues).run.eval w.answer =
      .ok (issues.filter fun i => (w.issueTags i.id).any (·.tagId ∈ ids)) := by
  induction issues with
  | nil => rfl
  | cons i rest ih =>
    simp only [filterIssuesByTagIds, ToolM.eval_bind, ToolM.eval_sendJson, answer,
      decodeJson_okWith, ih, ToolM.eval_pure, List.filter_cons]

theorem eval_filterIssuesByAssignee (u : Uuid) (issues : List Issue) :
    (filterIssuesByAssignee u issues).run.eval w.answer =
      .ok (issues.filter fun i => (w.assignees i.id).any (·.userId = u)) := by
  induction issues with
  | nil => rfl
  | cons i rest ih =>
    simp only [filterIssuesByAssignee, ToolM.eval_bind, ToolM.eval_sendJson, answer,
      decodeJson_okWith, ih, ToolM.eval_pure, List.filter_cons]

theorem eval_statusNamesById (p : Uuid) (status : Option String) :
    (statusNamesById p status).run.eval w.answer =
      .ok (some (w.statuses.map fun s => (s.id, s.name))) := rfl

theorem eval_filterByPriority {priority : Option String} {prio : Option IssuePriority}
    (h : priority.mapM parseIssuePriority = .ok prio) (issues : List Issue) :
    (filterByPriority priority issues).run.eval w.answer =
      .ok (retainIf prio (fun p i => i.priority == some p) issues) := by
  cases priority with
  | none => cases h; rfl
  | some p =>
    cases hp : parseIssuePriority p <;> simp [Option.mapM, hp] at h
    subst h
    simp only [filterByPriority, ToolM.eval_bind, ToolM.eval_ofExcept, hp, ToolM.eval_pure,
      retainIf]

/-- An issue has a candidate tag exactly when a filter is given and the issue has a tag that is
`tagId` and named `tagName`, each when given. -/
theorem any_candidateTagIds (tagId : Option Uuid) (tagName : Option String) (issue : Issue) :
    (w.issueTags issue.id).any (·.tagId ∈ candidateTagIds tagId
        (tagName.map fun n => (w.tags.filter fun t => eqIgnoreAsciiCase t.name n).map (·.id))) =
      decide ((tagId.isSome ∨ tagName.isSome) ∧ w.HasTag tagId tagName issue) := by
  have hnamed (x : Uuid) : (∀ m ∈ tagName.map fun n =>
      (w.tags.filter fun t => eqIgnoreAsciiCase t.name n).map (·.id), x ∈ m) ↔
        ∀ n ∈ tagName, ∃ tag ∈ w.tags, eqIgnoreAsciiCase tag.name n = true ∧ tag.id = x := by
    cases tagName <;> simp [and_assoc]
  rw [Bool.eq_iff_iff, decide_eq_true_eq]
  simp only [List.any_eq_true, decide_eq_true_eq, mem_candidateTagIds, hnamed, Option.isSome_map',
    HasTag]
  exact ⟨fun ⟨x, hx, ht, hn, hs⟩ => ⟨hs, x, hx, ht, hn⟩,
    fun ⟨hs, x, hx, ht, hn⟩ => ⟨x, hx, ht, hn, hs⟩⟩

/-- The tag stage keeps the issues with a tag that is `tagId` and named `tagName`, each when
given: the candidate ids are their intersection. -/
theorem eval_filterByTags (p : Uuid) (tagId : Option Uuid) (tagName : Option String)
    (issues : List Issue) :
    (filterByTags p tagId tagName issues).run.eval w.answer =
      .ok (issues.filter fun i =>
        decide ((tagId.isSome ∨ tagName.isSome) → w.HasTag tagId tagName i)) := by
  have hcands (cands : List Uuid) :
      (if cands = [] then pure [] else filterIssuesByTagIds cands issues : ToolM _).run.eval
        w.answer = .ok (issues.filter fun i => (w.issueTags i.id).any (·.tagId ∈ cands)) := by
    split <;> simp_all [eval_filterIssuesByTagIds]
  unfold filterByTags
  split
  next hg =>
    have hsome := Bool.or_eq_true_iff.mp hg
    have hfilter (m : Option String) (hm : tagId.isSome ∨ m.isSome) (i : Issue) :
        decide ((tagId.isSome ∨ m.isSome) ∧ w.HasTag tagId m i) =
          decide ((tagId.isSome ∨ m.isSome) → w.HasTag tagId m i) := by
      simp only [hm, true_and, true_implies]
    cases tagName with
    | none =>
      simp only [ToolM.eval_bind, ToolM.eval_pure, hcands]
      exact congrArg _ (List.filter_congr fun i _ =>
        (any_candidateTagIds w tagId none i).trans (hfilter none hsome i))
    | some n =>
      simp only [ToolM.eval_bind, ToolM.eval_pure, ToolM.eval_sendJson, answer, decodeJson_okWith,
        hcands]
      exact congrArg _ (List.filter_congr fun i _ =>
        (any_candidateTagIds w tagId (some n) i).trans (hfilter (some n) hsome i))
  · cases tagId <;> cases tagName <;> simp_all

theorem eval_filterByAssignee (u : Option Uuid) (issues : List Issue) :
    (filterByAssignee u issues).run.eval w.answer =
      .ok (retainIf u (fun u i => (w.assignees i.id).any (·.userId = u)) issues) := by
  cases u with
  | none => rfl
  | some u => exact eval_filterIssuesByAssignee w u issues

theorem eval_summarizePage (m : Option (List (Uuid × String))) (page : List Issue) :
    (summarizePage m page).eval w.answer =
      page.map fun i => issueToSummary i m (w.pullRequests i.id) := by
  induction page with
  | nil => rfl
  | cons i rest ih =>
    simp only [summarizePage, VkM.eval_bind, ih, VkM.eval_pure, List.map_cons]
    rfl

end Stages

/-! ## What `list_issues` returns -/

/-- What `list_issues` returns when every request is answered, for a request whose project id
resolves and whose priority, if given, parses to `prio`. -/
theorem eval_listIssues (w : IssuesWorld) (s : TaskServer) (req : McpListIssuesRequest)
    (projectId : Uuid) (hproject : s.resolveProjectId req.projectId = .ok projectId)
    (prio : Option IssuePriority) (hprio : req.priority.mapM parseIssuePriority = .ok prio) :
    ((s.listIssues req).run (fun _ => w.answer) 0).1 =
      let F := sortByUpdatedAtDesc (w.issues.filter (w.Matches req prio ·))
      let page := (F.drop (req.offset.getD 0).toNat).take (req.limit.getD 50).toNat
      .success ⟨page.map fun i =>
          issueToSummary i (some (w.statuses.map fun st => (st.id, st.name))) (w.pullRequests i.id),
        F.length, page.length, (req.limit.getD 50).toNat, (req.offset.getD 0).toNat,
        projectId.toString⟩ := by
  rw [VkM.run_fst_eq_eval]
  simp only [TaskServer.listIssues, toolResult, VkM.eval_bind, ToolM.eval_bind,
    ToolM.eval_ofExcept, hproject, ToolM.eval_sendJson, IssuesWorld.answer, decodeJson_okWith,
    eval_statusNamesById, eval_filterByPriority w hprio, eval_filterByTags, eval_filterByAssignee,
    ToolM.eval_lift, eval_summarizePage, ToolM.eval_pure, VkM.eval_pure, CallToolResult.ofExcept,
    retainIf_eq_filter, filter_filter_and, List.length_map]
  congr
  all_goals
    funext i
    refine Bool.eq_iff_iff.mpr ?_
    simp only [Bool.and_eq_true, option_all_iff, decide_eq_true_eq, IssuesWorld.Matches,
      beq_iff_eq, matchesSearch_iff, matchesStatus_iff, List.any_eq_true, and_assoc]

/-- **`list_issues`.** When every request is answered, for every request whose project id
resolves and whose priority, if given, parses to `prio`: the result holds the page
`F[o, o + l)` of `F`, the issues satisfying every supplied filter stably sorted by `updated_at`
descending, and `total_count = |F|`. -/
theorem list_issues_returns_filtered_page (w : IssuesWorld) (s : TaskServer)
    (req : McpListIssuesRequest) (projectId : Uuid)
    (hproject : s.resolveProjectId req.projectId = .ok projectId)
    (prio : Option IssuePriority) (hprio : req.priority.mapM parseIssuePriority = .ok prio) :
    ∃ F, IsStableSortDesc Issue.updatedAt (w.issues.filter (w.Matches req prio ·)) F ∧
      let o := (req.offset.getD 0).toNat
      let l := (req.limit.getD 50).toNat
      let page := (F.drop o).take l
      ((s.listIssues req).run (fun _ => w.answer) 0).1 =
        .success ⟨page.map fun i =>
            issueToSummary i (some (w.statuses.map fun st => (st.id, st.name))) (w.pullRequests i.id),
          F.length, page.length, l, o, projectId.toString⟩ :=
  ⟨_, insertionSort_isStableSortDesc _ _, eval_listIssues w s req projectId hproject prio hprio⟩

theorem list_issues_pages_high_priority_issues :
    let w : IssuesWorld := ⟨[⟨⟨2⟩, ⟨3⟩, ⟨4⟩, "VK-2", "Fix login", none, some .high, none, none, none,
      none, 0, 5⟩], [], [], fun _ => [], fun _ => [], fun _ => []⟩
    let req : McpListIssuesRequest :=
      ⟨some ⟨3⟩, none, none, none, some " High", none, none, none, none, none, none⟩
    (⟨none⟩ : TaskServer).resolveProjectId req.projectId = .ok ⟨3⟩ ∧
      req.priority.mapM parseIssuePriority = .ok (some .high) ∧
      ∃ F, IsStableSortDesc Issue.updatedAt (w.issues.filter (w.Matches req (some .high) ·)) F ∧
        ((((⟨none⟩ : TaskServer).listIssues req).run (fun _ => w.answer) 0).1 =
          .success ⟨((F.drop 0).take 50).map fun i => issueToSummary i (some []) (w.pullRequests i.id),
            F.length, ((F.drop 0).take 50).length, 50, 0, (⟨3⟩ : Uuid).toString⟩) := by
  intro w req
  exact ⟨rfl, rfl, list_issues_returns_filtered_page w ⟨none⟩ req ⟨3⟩ rfl (some .high) rfl⟩

/-- With `tag_id` a tag named `bug` and `tag_name` `UI`, an issue carrying both tags is dropped:
the candidate ids are the intersection of the two, which is empty. -/
theorem list_issues_intersects_tag_filters :
    let issue : Issue := ⟨⟨2⟩, ⟨3⟩, ⟨4⟩, "VK-2", "Fix login", none, none, none, none, none, none, 0, 0⟩
    let w : IssuesWorld := ⟨[issue], [], [⟨⟨10⟩, ⟨3⟩, "bug", "red"⟩, ⟨⟨11⟩, ⟨3⟩, "ui", "blue"⟩],
      fun _ => [⟨⟨20⟩, ⟨2⟩, ⟨10⟩⟩, ⟨⟨21⟩, ⟨2⟩, ⟨11⟩⟩], fun _ => [], fun _ => []⟩
    let req : McpListIssuesRequest :=
      ⟨some ⟨3⟩, none, none, none, none, none, none, none, none, some ⟨10⟩, some "UI"⟩
    (∃ it ∈ w.issueTags issue.id, it.tagId = ⟨10⟩) ∧
      (∃ it ∈ w.issueTags issue.id, ∃ tag ∈ w.tags,
        eqIgnoreAsciiCase tag.name "UI" = true ∧ tag.id = it.tagId) ∧
      (((⟨none⟩ : TaskServer).listIssues req).run (fun _ => w.answer) 0).1 =
        .success ⟨[], 0, 0, 50, 0, "00000000-0000-0000-0000-000000000003"⟩ := by
  decide

/-! ## `create_issue` -/

theorem eval_defaultStatusId (a : (c : ApiCall) → Outcome c.Data) (projectId : Uuid)
    {statuses : List ProjectStatus}
    (hst : decodeJson (a (.listProjectStatuses projectId)) = .ok statuses) :
    (defaultStatusId projectId).run.eval a =
      match minBySortOrder (statuses.filter fun s => !s.hidden) with
      | some s => .ok s.id
      | none => .error (err "No visible statuses found for project" none) := by
  simp only [defaultStatusId, ToolM.eval_bind,
    show (fetchProjectStatuses projectId).run.eval a = _ from hst]
  cases minBySortOrder (statuses.filter fun s => !s.hidden) <;> rfl

/-- **Creating an issue.** When the VK API answers from fixed data, the project resolves and the
priority parses, `create_issue` fails with `No visible statuses found for project` when the
project has no visible status; otherwise it posts the issue in that project with the first
visible status of least sort order, the title, the description with its tags expanded, the
priority and the parent, and answers the id of the issue created. -/
theorem create_issue_posts_default_status (s : TaskServer) (req : McpCreateIssueRequest)
    (a : (c : ApiCall) → Outcome c.Data) (projectId : Uuid)
    (hproject : s.resolveProjectId req.projectId = .ok projectId) (statuses : List ProjectStatus)
    (hst : decodeJson (a (.listProjectStatuses projectId)) = .ok statuses)
    (prio : Option IssuePriority) (hprio : req.priority.mapM parseIssuePriority = .ok prio) :
    (statuses.filter (fun st => !st.hidden) = [] ∧ ((s.createIssue req).run (fun _ => a) 0).1 =
      .error (err "No visible statuses found for project" none)) ∨
    ∃ st, IsFirstLeast (statuses.filter fun st => !st.hidden) st ∧
      ((s.createIssue req).run (fun _ => a) 0).1 = CallToolResult.ofExcept
        ((decodeJson (a (.createIssue ⟨projectId, st.id, req.title,
          req.description.map fun d => (expandTags d).eval a, prio, req.parentIssueId⟩))).map
          fun r => ⟨r.id.toString⟩) := by
  rw [VkM.run_fst_eq_eval]
  obtain ⟨pid, title, desc, priority, parent⟩ := req
  simp only at hproject hprio ⊢
  cases desc <;>
  simp only [TaskServer.createIssue, toolResult, VkM.eval_bind, ToolM.eval_bind,
    ToolM.eval_ofExcept, hproject, ToolM.eval_lift, eval_defaultStatusId a projectId hst,
    VkM.eval_pure, VkM.eval_map, VkM.eval_monadPure, show ∀ p, (sendJson (.createIssue p) :
      ToolM Issue).run.eval a = decodeJson (a (.createIssue p)) from fun _ => rfl]
  all_goals
    cases priority
    case' none => cases hprio; simp only [ToolM.eval_pure]
    case' some p =>
      obtain ⟨q, hq, rfl⟩ : ∃ q, parseIssuePriority p = .ok q ∧ prio = some q := by
        cases hp : parseIssuePriority p <;> simp [Option.mapM, hp] at hprio
        exact ⟨_, rfl, hprio.symm⟩
      simp only [ToolM.eval_map, ToolM.eval_ofExcept, hq, Except.map]
  all_goals
    cases hm : minBySortOrder (statuses.filter fun st => !st.hidden) with
    | none => exact .inl ⟨minBySortOrder_eq_none.1 hm, rfl⟩
    | some st =>
      refine .inr ⟨st, minBySortOrder_spec _ st hm, ?_⟩
      dsimp only
      split <;> simp_all [Except.map]

/-- An urgent issue on a board whose first visible status of least order is `Todo`. -/
theorem create_issue_on_board :
    let statuses : List ProjectStatus :=
      [⟨⟨1⟩, "Backlog", true, 0⟩, ⟨⟨2⟩, "Todo", false, 1⟩, ⟨⟨3⟩, "Doing", false, 1⟩]
    let created : Issue := ⟨⟨7⟩, ⟨9⟩, ⟨2⟩, "VK-7", "Fix login", none, some .urgent, none, none,
      none, none, 0, 0⟩
    let a : (c : ApiCall) → Outcome c.Data := fun c => match c with
      | .listProjectStatuses _ => .okWith statuses
      | .createIssue _ => .okWith created
      | _ => .connectFailed "unexpected request"
    let req : McpCreateIssueRequest := ⟨some ⟨9⟩, "Fix login", none, some "Urgent", none⟩
    (⟨none⟩ : TaskServer).resolveProjectId req.projectId = .ok ⟨9⟩ ∧
      decodeJson (a (.listProjectStatuses ⟨9⟩)) = .ok statuses ∧
      req.priority.mapM parseIssuePriority = .ok (some .urgent) ∧
      ((statuses.filter (fun st => !st.hidden) = [] ∧
        (((⟨none⟩ : TaskServer).createIssue req).run (fun _ => a) 0).1 =
          .error (err "No visible statuses found for project" none)) ∨
      ∃ st, IsFirstLeast (statuses.filter fun st => !st.hidden) st ∧
        (((⟨none⟩ : TaskServer).createIssue req).run (fun _ => a) 0).1 = CallToolResult.ofExcept
          ((decodeJson (a (.createIssue ⟨⟨9⟩, st.id, req.title,
            req.description.map fun d => (expandTags d).eval a, some .urgent,
            req.parentIssueId⟩))).map fun r => ⟨r.id.toString⟩)) := by
  intro statuses created a req
  exact ⟨rfl, rfl, rfl,
    create_issue_posts_default_status ⟨none⟩ req a ⟨9⟩ rfl statuses rfl (some .urgent) rfl⟩

/-! ## The status an issue shows -/

/-- With distinct keys, the last item of a key is its first. -/
theorem find?_reverse_of_nodup {α : Type} {l : List α} {key : α → Uuid} (k : Uuid)
    (h : (l.map key).Nodup) : l.reverse.find? (key · = k) = l.find? (key · = k) := by
  cases hf : l.find? (key · = k) with
  | none => simpa using hf
  | some x =>
    have hx : key x = k := by simpa using List.find?_some hf
    cases hr : l.reverse.find? (key · = k) with
    | none =>
      have hne := List.find?_eq_none.mp hr x (List.mem_reverse.mpr (List.mem_of_find?_eq_some hf))
      exact absurd hx (by simpa using hne)
    | some y =>
      have hy : key y = k := by simpa using List.find?_some hr
      exact congrArg some (List.inj_on_of_nodup_map h
        (List.mem_reverse.mp (List.mem_of_find?_eq_some hr)) (List.mem_of_find?_eq_some hf)
        (hy.trans hx.symm))

theorem eval_resolveStatusName (a : (c : ApiCall) → Outcome c.Data) (projectId statusId : Uuid)
    {statuses : List ProjectStatus}
    (hst : decodeJson (a (.listProjectStatuses projectId)) = .ok statuses) :
    (resolveStatusName projectId statusId).eval a =
      ((statuses.find? (·.id = statusId)).map (·.name)).getD statusId.toString := by
  simp only [resolveStatusName, VkM.eval_bind,
    show (fetchProjectStatuses projectId).run.eval a = _ from hst]
  rfl

/-- `get_issue` shows an issue's status as the name of the first status of its id. -/
theorem run_getIssue_status (a : (c : ApiCall) → Outcome c.Data) (issueId : Uuid)
    {issue : Issue} (hissue : decodeJson (a (.getIssue issueId)) = .ok issue)
    {statuses : List ProjectStatus}
    (hst : decodeJson (a (.listProjectStatuses issue.projectId)) = .ok statuses) :
    ∃ d, ((getIssue issueId).run (fun _ => a) 0).1 = .success ⟨d⟩ ∧
      d.status = ((statuses.find? (·.id = issue.statusId)).map (·.name)).getD
        issue.statusId.toString := by
  refine ⟨(issueToDetails issue ((fetchPullRequests issueId).eval a)).eval a, ?_, ?_⟩
  · rw [VkM.run_fst_eq_eval]
    simp only [getIssue, toolResult, VkM.eval_bind, ToolM.eval_bind, ToolM.eval_sendJson, hissue,
      ToolM.eval_lift, ToolM.eval_pure, VkM.eval_pure, CallToolResult.ofExcept]
  · simp only [issueToDetails, VkM.eval_bind, eval_resolveStatusName a _ _ hst, VkM.eval_pure]

theorem mem_of_mem_page {w : IssuesWorld} {req : McpListIssuesRequest}
    {prio : Option IssuePriority} {o l : Nat} {i : Issue}
    (h : i ∈ ((sortByUpdatedAtDesc (w.issues.filter (w.Matches req prio ·))).drop o).take l) :
    i ∈ w.issues :=
  (List.mem_filter.mp ((List.perm_insertionSort _ _).mem_iff.mp
    (List.mem_of_mem_drop (List.mem_of_mem_take h)))).1

/-- **Status names.** When the VK API answers from fixed data, every issue `list_issues` returns
shows its status as the name of the last of the project's statuses with its status id (through
the map the tool collects), while `get_issue` shows the name of the first (each falls back to the
id); so the two show the same name whenever the project's status ids are distinct. -/
theorem list_and_get_issue_show_status (w : IssuesWorld) (s : TaskServer)
    (req : McpListIssuesRequest) (projectId : Uuid)
    (hproject : s.resolveProjectId req.projectId = .ok projectId)
    (prio : Option IssuePriority) (hprio : req.priority.mapM parseIssuePriority = .ok prio)
    (a : (c : ApiCall) → Outcome c.Data) :
    ∃ r, ((s.listIssues req).run (fun _ => w.answer) 0).1 = .success r ∧
      ∀ summary ∈ r.issues, ∃ issue ∈ w.issues, summary.id = issue.id.toString ∧
        summary.status = ((w.statuses.reverse.find? (·.id = issue.statusId)).map (·.name)).getD
          issue.statusId.toString ∧
        (decodeJson (a (.getIssue issue.id)) = .ok issue →
          decodeJson (a (.listProjectStatuses issue.projectId)) = .ok w.statuses →
          ∃ d, ((getIssue issue.id).run (fun _ => a) 0).1 = .success ⟨d⟩ ∧
            d.status = ((w.statuses.find? (·.id = issue.statusId)).map (·.name)).getD
              issue.statusId.toString ∧
            ((w.statuses.map (·.id)).Nodup → summary.status = d.status)) := by
  refine ⟨_, eval_listIssues w s req projectId hproject prio hprio, fun summary hsum => ?_⟩
  obtain ⟨issue, hpage, rfl⟩ := List.mem_map.mp hsum
  have hlist : (issueToSummary issue (some (w.statuses.map fun s => (s.id, s.name)))
      (w.pullRequests issue.id)).status =
      ((w.statuses.reverse.find? (·.id = issue.statusId)).map (·.name)).getD
        issue.statusId.toString := by
    simp only [issueToSummary, Option.some_bind, collectGet_map]
  refine ⟨issue, mem_of_mem_page hpage, rfl, hlist, fun hissue hst => ?_⟩
  obtain ⟨d, hd, hget⟩ := run_getIssue_status a issue.id hissue hst
  exact ⟨d, hd, hget, fun hnodup => by rw [hlist, hget, find?_reverse_of_nodup _ hnodup]⟩

/-- Two statuses with one id: the list shows the second's name, `get_issue` the first's. -/
theorem status_shown_on_repeated_id :
    let issue : Issue :=
      ⟨⟨2⟩, ⟨3⟩, ⟨4⟩, "VK-2", "Fix login", none, none, none, none, none, none, 0, 5⟩
    let w : IssuesWorld := ⟨[issue], [⟨⟨4⟩, "Backlog", false, 0⟩, ⟨⟨4⟩, "Todo", false, 1⟩], [],
      fun _ => [], fun _ => [], fun _ => []⟩
    let req : McpListIssuesRequest :=
      ⟨some ⟨3⟩, none, none, none, none, none, none, none, none, none, none⟩
    let a : (c : ApiCall) → Outcome c.Data := fun c => match c with
      | .getIssue _ => .okWith issue
      | .listProjectStatuses _ => .okWith w.statuses
      | _ => .connectFailed "unexpected request"
    (⟨none⟩ : TaskServer).resolveProjectId req.projectId = .ok ⟨3⟩ ∧
      req.priority.mapM parseIssuePriority = .ok none ∧
      ∃ r, (((⟨none⟩ : TaskServer).listIssues req).run (fun _ => w.answer) 0).1 = .success r ∧
        ∀ summary ∈ r.issues, ∃ issue ∈ w.issues, summary.id = issue.id.toString ∧
          summary.status = ((w.statuses.reverse.find? (·.id = issue.statusId)).map (·.name)).getD
            issue.statusId.toString ∧
          (decodeJson (a (.getIssue issue.id)) = .ok issue →
            decodeJson (a (.listProjectStatuses issue.projectId)) = .ok w.statuses →
            ∃ d, ((getIssue issue.id).run (fun _ => a) 0).1 = .success ⟨d⟩ ∧
              d.status = ((w.statuses.find? (·.id = issue.statusId)).map (·.name)).getD
                issue.statusId.toString ∧
              ((w.statuses.map (·.id)).Nodup → summary.status = d.status)) := by
  intro issue w req a
  exact ⟨rfl, rfl, list_and_get_issue_show_status w ⟨none⟩ req ⟨3⟩ rfl none rfl a⟩

end AgentKanban.Mcp
