import AgentKanban.Mcp.Listing
import AgentKanban.Mcp.Atomicity

/-!
# The status `update_issue` sets

`update_issue` reads the issue, then resolves a requested status name among the statuses of the
issue's own project (`resolve_status_id`: the first whose name matches ignoring ASCII case) before
it builds the `PATCH`. When the VK API answers from fixed data, `VkM.calls` lists the requests
the tool sends, and `update_issue_resolves_status_in_issue_project` says which status the `PATCH`
sets, or which error ends the tool before any `PATCH`.
-/

namespace AgentKanban.Mcp

open ToolM (forall_mem_calls_bind calls_readOnly_bind readOnly_sendJson readOnly_map readOnly_lift)

section Update

variable (a : (c : ApiCall) → Outcome c.Data)

theorem eval_resolveStatusId (projectId : Uuid) (name : String) {statuses : List ProjectStatus}
    (hst : decodeJson (a (.listProjectStatuses projectId)) = .ok statuses) :
    (resolveStatusId projectId name).run.eval a =
      match statuses.find? (fun s => eqIgnoreAsciiCase s.name name) with
      | some s => .ok s.id
      | none => .error (err ("Unknown status '" ++ name ++ "'. Available statuses: [" ++
          ", ".intercalate (statuses.map fun s => debugQuote s.name) ++ "]") none) := by
  simp only [resolveStatusId, ToolM.eval_bind,
    show (fetchProjectStatuses projectId).run.eval a = _ from hst]
  cases statuses.find? (fun s => eqIgnoreAsciiCase s.name name) <;> rfl

theorem calls_resolveStatusId (projectId : Uuid) (name : String) :
    (resolveStatusId projectId name).run.calls a = [.listProjectStatuses projectId] := by
  simp only [resolveStatusId, ToolM.calls_bind]
  cases (fetchProjectStatuses projectId).run.eval a with
  | ok statuses =>
    dsimp only
    cases statuses.find? (fun s => eqIgnoreAsciiCase s.name name) <;> rfl
  | error e => rfl

/-- **Status of an update.** When the VK API answers from fixed data and the request names a
status, `update_issue` looks it up among the statuses of the project of the issue it read: with
none of that name (ignoring ASCII case) it fails with the error listing the project's status
names (in `{:?}` form, stated for ASCII names), having sent only those two reads; otherwise every
`PATCH` it sends sets the first status of that name. -/
theorem update_issue_resolves_status_in_issue_project (req : McpUpdateIssueRequest) (name : String)
    (hname : req.status = some name) (issue : Issue)
    (hissue : decodeJson (a (.getIssue req.issueId)) = .ok issue) (statuses : List ProjectStatus)
    (hst : decodeJson (a (.listProjectStatuses issue.projectId)) = .ok statuses) :
    (statuses.find? (fun s => eqIgnoreAsciiCase s.name name) = none ∧
      (∃ names, ((updateIssue req).run (fun _ => a) 0).1 = .error (err ("Unknown status '" ++
          name ++ "'. Available statuses: [" ++ names ++ "]") none) ∧
        ((∀ s ∈ statuses, ∀ c ∈ s.name.data, c.toNat < 128) →
          names = ", ".intercalate (statuses.map fun s => debugQuote s.name))) ∧
      ((updateIssue req).run (fun _ => a) 0).2.map (·.call) =
        [.getIssue req.issueId, .listProjectStatuses issue.projectId]) ∨
    ∃ st, statuses.find? (fun s => eqIgnoreAsciiCase s.name name) = some st ∧
      ∀ id payload,
        .updateIssue id payload ∈ ((updateIssue req).run (fun _ => a) 0).2.map (·.call) →
          payload.statusId = some st.id := by
  rw [VkM.run_fst_eq_eval, VkM.run_snd_map_call]
  cases hf : statuses.find? (fun s => eqIgnoreAsciiCase s.name name) with
  | none =>
    refine .inl ⟨rfl, ⟨_, ?_, fun _ => rfl⟩, ?_⟩
    · simp only [updateIssue, toolResult, VkM.eval_bind, ToolM.eval_bind, ToolM.eval_sendJson,
        hissue, hname, ToolM.eval_map, eval_resolveStatusId a _ _ hst, hf]
      rfl
    · rw [updateIssue, calls_toolResult]
      simp only [ToolM.calls_bind, ToolM.calls_sendJson, ToolM.eval_sendJson, hissue, hname,
        ToolM.calls_map, calls_resolveStatusId, ToolM.eval_map, eval_resolveStatusId a _ _ hst, hf]
      rfl
  | some st =>
    refine .inr ⟨st, rfl, fun id payload hmem => ?_⟩
    let P : ApiCall → Prop :=
      fun c => ∀ id payload, c = .updateIssue id payload → payload.statusId = some st.id
    -- every read has the property, so the read-only steps pass it on
    have hS : ∀ r l : List ApiCall, (∀ c ∈ r, c.mutating = false) → (∀ c ∈ l, P c) →
        ∀ c ∈ r ++ l, P c :=
      fun r l hr hl c hc => (List.mem_append.mp hc).elim
        (fun hc _ _ h => by subst h; cases hr _ hc) (hl c)
    have hnil : ∀ c ∈ ([] : List ApiCall), P c := fun _ h => (by cases h)
    rw [updateIssue, calls_toolResult] at hmem
    refine calls_readOnly_bind a hS hnil (readOnly_sendJson (by rfl)) (fun existing he => ?_)
      _ hmem id payload rfl
    rw [ToolM.eval_sendJson, hissue] at he
    cases he
    rw [hname]
    refine calls_readOnly_bind a hS hnil (readOnly_map (readOnly_resolveStatusId _ _))
      fun sid hsid => ?_
    rw [ToolM.eval_map, eval_resolveStatusId a _ _ hst, hf] at hsid
    cases hsid
    refine calls_readOnly_bind a hS hnil
      (readOnly_lift (by split; exact (readOnly_expandTags _).map.map; trivial)) fun _ _ => ?_
    refine calls_readOnly_bind a hS hnil (by split; exact readOnly_map trivial; trivial)
      fun _ _ => ?_
    -- the `PATCH`, then two reads
    refine forall_mem_calls_bind a (fun c hc id payload h => ?_) fun _ _ =>
      calls_readOnly_bind a hS hnil (readOnly_lift (readOnly_fetchPullRequests _)) fun _ _ =>
      calls_readOnly_bind a hS hnil (readOnly_lift (readOnly_issueToDetails _ _)) fun _ _ => hnil
    rw [ToolM.calls_sendJson, List.mem_singleton] at hc
    subst hc
    cases h
    rfl

/-- Of two statuses named alike up to ASCII case, the update sets the first. -/
theorem update_issue_sets_first_matching_status :
    let issue : Issue :=
      ⟨⟨2⟩, ⟨3⟩, ⟨4⟩, "VK-2", "Fix login", none, none, none, none, none, none, 0, 0⟩
    let statuses : List ProjectStatus :=
      [⟨⟨4⟩, "Todo", false, 0⟩, ⟨⟨7⟩, "In Progress", false, 1⟩, ⟨⟨8⟩, "in progress", false, 2⟩]
    let a : (c : ApiCall) → Outcome c.Data := fun c => match c with
      | .getIssue _ => .okWith issue
      | .listProjectStatuses _ => .okWith statuses
      | .updateIssue .. => .okWith issue
      | _ => .connectFailed "unexpected request"
    let req : McpUpdateIssueRequest := ⟨⟨2⟩, none, none, some "IN PROGRESS", none⟩
    req.status = some "IN PROGRESS" ∧ decodeJson (a (.getIssue req.issueId)) = .ok issue ∧
      decodeJson (a (.listProjectStatuses issue.projectId)) = .ok statuses ∧
      ((statuses.find? (fun s => eqIgnoreAsciiCase s.name "IN PROGRESS") = none ∧
        (∃ names, ((updateIssue req).run (fun _ => a) 0).1 = .error (err ("Unknown status '" ++
            "IN PROGRESS" ++ "'. Available statuses: [" ++ names ++ "]") none) ∧
          ((∀ s ∈ statuses, ∀ c ∈ s.name.data, c.toNat < 128) →
            names = ", ".intercalate (statuses.map fun s => debugQuote s.name))) ∧
        ((updateIssue req).run (fun _ => a) 0).2.map (·.call) =
          [.getIssue req.issueId, .listProjectStatuses issue.projectId]) ∨
      ∃ st, statuses.find? (fun s => eqIgnoreAsciiCase s.name "IN PROGRESS") = some st ∧
        ∀ id payload,
          .updateIssue id payload ∈ ((updateIssue req).run (fun _ => a) 0).2.map (·.call) →
            payload.statusId = some st.id) := by
  intro issue statuses a req
  exact ⟨rfl, rfl, rfl,
    update_issue_resolves_status_in_issue_project a req "IN PROGRESS" rfl issue rfl statuses rfl⟩

end Update

end AgentKanban.Mcp
