import AgentKanban.Mcp.Atomicity
import AgentKanban.Mcp.Listing

/-!
# How many writes one tool call sends

`WritesAtMost n`: every run sends at most `n` mutating requests, whatever the outcomes
(`WritesAtMost.run`). It is a cost bound with weight one on each mutating request: bounds add
under `bind` and a read-only program costs nothing, so each tool's bound is assembled from its
steps as `CommitsLast` is.

`tool_call_writes_within_budget`: one call of a registered tool sends at most one mutating request,
whatever its arguments and the outcomes; only `start_workspace_session` with an issue to link may
send two, the create-and-start `POST` and the link `POST`. No tool repeats a write.

`start_workspace_session_links_created_workspace`: when the VK API answers from fixed data, those
two writes belong together. The link is posted exactly when the request names the issue, a
create-and-start was sent and answered with a workspace, and the issue reads back; it names that
workspace, that issue and the issue's project. `LinksCreated` says this of a list of requests;
sending reads first keeps it, so the proof walks the checks of the tool and then the two
requests.
-/

namespace AgentKanban.Mcp

namespace VkM

variable {α β : Type}

/-- Every run sends at most `n` mutating requests. -/
def WritesAtMost : VkM α → Nat → Prop
  | .pure _, _ => True
  | .call c k, n => c.mutating.toNat ≤ n ∧ ∀ o, (k o).WritesAtMost (n - c.mutating.toNat)

theorem WritesAtMost.mono {p : VkM α} {m n : Nat} (h : p.WritesAtMost m) (hmn : m ≤ n) :
    p.WritesAtMost n := by
  induction p generalizing m n with
  | pure a => trivial
  | call c k ih => exact ⟨h.1.trans hmn, fun o => ih o (h.2 o) (by omega)⟩

theorem WritesAtMost.bind {x : VkM α} {f : α → VkM β} {m n : Nat} (hx : x.WritesAtMost m)
    (hf : ∀ a, (f a).WritesAtMost n) : (x.bind f).WritesAtMost (m + n) := by
  induction x generalizing m with
  | pure a => exact (hf a).mono (Nat.le_add_left n m)
  | call c k ih =>
    refine ⟨hx.1.trans (Nat.le_add_right m n), fun o => ?_⟩
    have hsub : m + n - c.mutating.toNat = m - c.mutating.toNat + n := by have := hx.1; omega
    exact hsub ▸ ih o (hx.2 o)

theorem ReadOnly.writesAtMost {p : VkM α} (h : p.ReadOnly) (n : Nat) : p.WritesAtMost n := by
  induction p with
  | pure a => trivial
  | call c k ih => exact ⟨by simp [h.1], fun o => by simpa [h.1] using ih o (h.2 o)⟩

/-- Every run sends at most `n` mutating requests. -/
theorem WritesAtMost.run {p : VkM α} {n : Nat} (h : p.WritesAtMost n) (o : Oracle) (i : Nat) :
    (p.run o i).2.countP (·.call.mutating) ≤ n := by
  induction p generalizing n i with
  | pure a => simp [VkM.run]
  | call c k ih =>
    have hk := ih _ (h.2 (o i c)) (i + 1)
    have hc := h.1
    simp only [VkM.run, List.countP_cons]
    cases hm : c.mutating <;>
      simp only [hm, Bool.toNat_false, Bool.toNat_true, Bool.false_eq_true, ↓reduceIte]
        at hk hc ⊢ <;>
      omega

end VkM

namespace ToolM

open VkM

variable {α β : Type}

theorem writesAtMost_bind {x : ToolM α} {f : α → ToolM β} {m n : Nat}
    (hx : x.run.WritesAtMost m) (hf : ∀ a, (f a).run.WritesAtMost n) :
    (x >>= f).run.WritesAtMost (m + n) :=
  WritesAtMost.bind hx fun | .ok a => hf a | .error _ => trivial

/-- A read-only step costs nothing. -/
theorem writesAtMost_readOnly_bind {x : ToolM α} {f : α → ToolM β} {n : Nat}
    (hx : x.run.ReadOnly) (hf : ∀ a, (f a).run.WritesAtMost n) :
    (x >>= f).run.WritesAtMost n :=
  Nat.zero_add n ▸ writesAtMost_bind (hx.writesAtMost 0) hf

theorem writesAtMost_sendJson (c : ApiCall) : (sendJson c).run.WritesAtMost 1 :=
  ⟨Bool.toNat_le _, fun _ => trivial⟩

theorem writesAtMost_sendEmptyJson (c : ApiCall) : (sendEmptyJson c).run.WritesAtMost 1 :=
  ⟨Bool.toNat_le _, fun _ => trivial⟩

/-- A request sent with `send_json` costs one. -/
theorem writesAtMost_sendJson_bind {c : ApiCall} {f : c.Data → ToolM β} {n : Nat}
    (hf : ∀ a, (f a).run.WritesAtMost n) : (sendJson c >>= f).run.WritesAtMost (n + 1) :=
  (writesAtMost_bind (writesAtMost_sendJson c) hf).mono (by omega)

/-- A request sent with `send_empty_json` costs one. -/
theorem writesAtMost_sendEmptyJson_bind {c : ApiCall} {f : Unit → ToolM β} {n : Nat}
    (hf : ∀ a, (f a).run.WritesAtMost n) : (sendEmptyJson c >>= f).run.WritesAtMost (n + 1) :=
  (writesAtMost_bind (writesAtMost_sendEmptyJson c) hf).mono (by omega)

end ToolM

open VkM ToolM

theorem writesAtMost_toolResult {β : Type} {body : ToolM β} {n : Nat}
    (h : body.run.WritesAtMost n) : (toolResult body).WritesAtMost n :=
  WritesAtMost.bind (n := 0) h fun _ => trivial

/-- Linking reads the issue, then posts the link. -/
theorem writesAtMost_linkWorkspaceToIssue_bind {β : Type} (w i : Uuid) {f : Unit → ToolM β}
    {n : Nat} (hf : ∀ a, (f a).run.WritesAtMost n) :
    (linkWorkspaceToIssue w i >>= f).run.WritesAtMost (n + 1) := by
  rw [linkWorkspaceToIssue, LawfulMonad.bind_assoc]
  exact writesAtMost_readOnly_bind (readOnly_sendJson rfl) fun _ =>
    writesAtMost_sendEmptyJson_bind hf

/-! ## The tools -/

/-- The mutating requests one call of a tool may send: a session that links an issue creates and
starts the workspace, then posts the link; any other tool writes at most once. -/
def Tool.writeBudget : Tool → Nat
  | .startWorkspaceSession req => if req.issueId.isSome then 2 else 1
  | _ => 1

section Tools

theorem deleteWorkspace_writesAtMost (s : TaskServer) (req : McpDeleteWorkspaceRequest) :
    (s.deleteWorkspace req).WritesAtMost 1 :=
  writesAtMost_toolResult <| writesAtMost_readOnly_bind (by split <;> trivial) fun _ =>
    writesAtMost_sendEmptyJson_bind fun _ => trivial

theorem createIssue_writesAtMost (s : TaskServer) (req : McpCreateIssueRequest) :
    (s.createIssue req).WritesAtMost 1 :=
  writesAtMost_toolResult <| writesAtMost_readOnly_bind trivial fun _ =>
    writesAtMost_readOnly_bind
      (readOnly_lift (by split; exact (readOnly_expandTags _).map; trivial)) fun _ =>
    writesAtMost_readOnly_bind (readOnly_defaultStatusId _) fun _ =>
    writesAtMost_readOnly_bind (by split; exact readOnly_map trivial; trivial) fun _ =>
    writesAtMost_sendJson_bind fun _ => trivial

/-- The two reads after the `PATCH` cost nothing. -/
theorem updateIssue_writesAtMost (req : McpUpdateIssueRequest) :
    (updateIssue req).WritesAtMost 1 :=
  writesAtMost_toolResult <| writesAtMost_readOnly_bind (readOnly_sendJson rfl) fun _ =>
    writesAtMost_readOnly_bind
      (by split; exact readOnly_map (readOnly_resolveStatusId _ _); trivial) fun _ =>
    writesAtMost_readOnly_bind
      (readOnly_lift (by split; exact (readOnly_expandTags _).map.map; trivial)) fun _ =>
    writesAtMost_readOnly_bind (by split; exact readOnly_map trivial; trivial) fun _ =>
    writesAtMost_sendJson_bind fun _ =>
      writesAtMost_readOnly_bind (readOnly_lift (readOnly_fetchPullRequests _)) fun _ =>
      writesAtMost_readOnly_bind (readOnly_lift (readOnly_issueToDetails _ _)) fun _ => trivial

theorem startWorkspaceSession_writesAtMost (req : StartWorkspaceSessionRequest) :
    (startWorkspaceSession req).WritesAtMost (Tool.startWorkspaceSession req).writeBudget := by
  unfold Tool.writeBudget
  refine writesAtMost_toolResult <| writesAtMost_readOnly_bind (by split <;> trivial) fun _ =>
    writesAtMost_readOnly_bind (by split <;> trivial) fun _ =>
    writesAtMost_readOnly_bind (by split <;> trivial) fun _ =>
    writesAtMost_readOnly_bind
      (by split; exact readOnly_bind (readOnly_sendJson rfl) fun _ => trivial; trivial) fun _ =>
    writesAtMost_readOnly_bind (by split <;> trivial) fun _ => ?_
  cases h : req.issueId with
  | none =>
    simp only [h, Option.isSome_none, Bool.false_eq_true, ↓reduceIte]
    exact writesAtMost_sendJson_bind fun _ => trivial
  | some i =>
    simp only [h, Option.isSome_some, ↓reduceIte]
    exact writesAtMost_sendJson_bind fun _ =>
      writesAtMost_linkWorkspaceToIssue_bind _ _ fun _ => trivial

end Tools

/-- **Write budget.** For every server, every registered tool, every argument and every sequence
of outcomes, one call sends at most one mutating request, and a `start_workspace_session` that
links an issue at most two. -/
theorem tool_call_writes_within_budget (s : TaskServer) (t : Tool)
    {h : VkM (CallToolResult t.Out)} (hh : s.handle t = some h) (o : Oracle) (n : Nat) :
    (h.run o n).2.countP (·.call.mutating) ≤ t.writeBudget := by
  refine WritesAtMost.run ?_ o n
  cases t with
  | deleteWorkspace req => cases hh; exact deleteWorkspace_writesAtMost s req
  | createIssue req => cases hh; exact createIssue_writesAtMost s req
  | updateIssue req => cases hh; exact updateIssue_writesAtMost req
  | startWorkspaceSession req => cases hh; exact startWorkspaceSession_writesAtMost req
  | linkWorkspace w i =>
    cases hh
    exact writesAtMost_toolResult (writesAtMost_linkWorkspaceToIssue_bind w i fun _ => trivial)
  | deleteIssue _ | unassignIssue _ | removeIssueTag _ =>
    cases hh; exact writesAtMost_toolResult (writesAtMost_sendEmptyJson_bind fun _ => trivial)
  | assignIssue _ _ | addIssueTag _ _ | updateSetupScript _ _ | updateCleanupScript _ _
    | updateDevServerScript _ _ =>
    cases hh; exact writesAtMost_toolResult (writesAtMost_sendJson_bind fun _ => trivial)
  | _ =>
    rcases s.handle_cases _ hh with ⟨hr, -⟩ | ⟨-, hw⟩
    · exact hr.readOnly.writesAtMost _
    · cases hw

/-- A session that links issue 2 sends at most its two writes, whatever the outcomes. -/
theorem session_linking_issue_writes_at_most_twice :
    let req : StartWorkspaceSessionRequest :=
      ⟨"fix", none, "CLAUDE_CODE", none, [⟨⟨1⟩, "main"⟩], some ⟨2⟩⟩
    let s : TaskServer := ⟨none⟩
    let o : Oracle := fun _ _ => .connectFailed "offline"
    s.handle (.startWorkspaceSession req) = some (startWorkspaceSession req) ∧
      ((startWorkspaceSession req).run o 0).2.countP (·.call.mutating) ≤ 2 :=
  ⟨rfl, tool_call_writes_within_budget ⟨none⟩ (.startWorkspaceSession _) rfl _ 0⟩

/-! ## The two writes of a session -/

section Session

variable (a : (c : ApiCall) → Outcome c.Data)

/-- In the requests `l`, a link is sent for workspace `w`, project `p` and issue `j` exactly when
`j` is the issue to link, a create-and-start request is sent and answered with a workspace of id
`w`, and issue `j` reads as an issue of project `p`. -/
def LinksCreated (issueId : Option Uuid) (l : List ApiCall) : Prop :=
  ∀ w p j, .linkWorkspace w p j ∈ l ↔ issueId = some j ∧
    ∃ q, ∃ ws : Db.Workspace, ∃ issue : Issue, .createAndStart q ∈ l ∧
      decodeJson (a (.createAndStart q)) = .ok ws ∧ decodeJson (a (.getIssue j)) = .ok issue ∧
      w = ws.id ∧ p = issue.projectId

theorem linksCreated_nil (issueId : Option Uuid) : LinksCreated a issueId [] :=
  fun _ _ _ => ⟨fun h => (by cases h), fun ⟨_, _, _, _, hq, _⟩ => (by cases hq)⟩

/-- Neither a link nor a create-and-start is a read. -/
theorem LinksCreated.reads_append {issueId : Option Uuid} {r l : List ApiCall}
    (hr : ∀ c ∈ r, c.mutating = false) (h : LinksCreated a issueId l) :
    LinksCreated a issueId (r ++ l) := by
  have hlink : ∀ w p j, .linkWorkspace w p j ∉ r := fun _ _ _ hm => by cases hr _ hm
  have hstart : ∀ q, .createAndStart q ∉ r := fun _ hm => by cases hr _ hm
  intro w p j
  simp only [List.mem_append, hlink, hstart, false_or]
  exact h w p j

/-- The create-and-start request and what follows it: on a workspace, the link reads the issue
and posts the link for that workspace. -/
theorem linksCreated_createAndStart (issueId : Option Uuid) (q : CreateAndStartWorkspaceRequest)
    {β : Type} (k : Db.Workspace → β) :
    LinksCreated a issueId ((sendJson (.createAndStart q) >>= fun created =>
      (match issueId with
        | some i => linkWorkspaceToIssue created.id i
        | none => pure () : ToolM Unit) >>= fun _ => pure (k created)).run.calls a) := by
  intro w p j
  rw [ToolM.calls_bind, ToolM.calls_sendJson, ToolM.eval_sendJson]
  cases hws : decodeJson (a (.createAndStart q)) with
  | error e => simp [hws]
  | ok ws =>
    dsimp only
    rw [ToolM.calls_bind_pure]
    cases issueId with
    | none => simp
    | some i =>
      dsimp only
      rw [linkWorkspaceToIssue, ToolM.calls_bind, ToolM.calls_sendJson, ToolM.eval_sendJson]
      cases hissue : decodeJson (a (.getIssue i)) with
      | error e =>
        refine ⟨fun h => by simp at h, ?_⟩
        rintro ⟨⟨⟩, _, _, _, _, _, h, -⟩
        rw [hissue] at h
        cases h
      | ok issue =>
        dsimp only
        rw [ToolM.calls_sendEmptyJson]
        constructor
        · intro h
          simp only [List.mem_append, List.mem_singleton, ApiCall.linkWorkspace.injEq, reduceCtorEq,
            false_or] at h
          obtain ⟨rfl, rfl, rfl⟩ := h
          exact ⟨rfl, q, ws, issue, by simp, hws, hissue, rfl, rfl⟩
        · rintro ⟨⟨⟩, q', ws', issue', hq', hws', hissue', rfl, rfl⟩
          simp only [List.mem_append, List.mem_singleton, ApiCall.createAndStart.injEq, reduceCtorEq,
            or_false] at hq'
          subst hq'
          rw [hws] at hws'
          rw [hissue] at hissue'
          cases hws'
          cases hissue'
          simp

/-- **The link follows the start.** When the VK API answers from fixed data, for every request,
`start_workspace_session` posts a link for workspace `w`, project `p` and issue `j` exactly when
the request names issue `j`, its create-and-start request was answered with a workspace of id
`w`, and issue `j` reads as an issue of project `p`. -/
theorem start_workspace_session_links_created_workspace (req : StartWorkspaceSessionRequest)
    (w p j : Uuid) :
    .linkWorkspace w p j ∈ ((startWorkspaceSession req).run (fun _ => a) 0).2.map (·.call) ↔
      req.issueId = some j ∧ ∃ q, ∃ ws : Db.Workspace, ∃ issue : Issue,
        .createAndStart q ∈ ((startWorkspaceSession req).run (fun _ => a) 0).2.map (·.call) ∧
        decodeJson (a (.createAndStart q)) = .ok ws ∧ decodeJson (a (.getIssue j)) = .ok issue ∧
        w = ws.id ∧ p = issue.projectId := by
  rw [VkM.run_snd_map_call, startWorkspaceSession, calls_toolResult]
  revert w p j
  have hS : ∀ r l, (∀ c ∈ r, c.mutating = false) → LinksCreated a req.issueId l →
      LinksCreated a req.issueId (r ++ l) := fun _ _ => LinksCreated.reads_append a
  refine calls_readOnly_bind a hS (linksCreated_nil a _) (by split <;> trivial) fun _ _ => ?_
  refine calls_readOnly_bind a hS (linksCreated_nil a _) (by split <;> trivial) fun _ _ => ?_
  refine calls_readOnly_bind a hS (linksCreated_nil a _) (by split <;> trivial) fun _ _ => ?_
  refine calls_readOnly_bind a hS (linksCreated_nil a _)
    (by split; exact readOnly_bind (readOnly_sendJson rfl) fun _ => trivial; trivial) fun _ _ => ?_
  refine calls_readOnly_bind a hS (linksCreated_nil a _) (by split <;> trivial) fun _ _ => ?_
  exact linksCreated_createAndStart a _ _ _

end Session

end AgentKanban.Mcp
