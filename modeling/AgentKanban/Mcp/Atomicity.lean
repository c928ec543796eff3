import AgentKanban.Mcp.Tools
import AgentKanban.Mcp.Effects

/-!
# Which requests an error result leaves behind

Every tool body commits last (`TaskServer.handle_commitsLast`): its only mutating request comes
after every step that can fail, and nothing after it can fail. The one exception is
`start_workspace_session` with an issue to link: after its create-and-start `POST`, reading the
issue again and posting the link can still fail, and the tool then returns that error.

1. Each shared helper is read-only, or never fails.
2. Each tool named `list_…` or `get_…` sends only reads; each other tool's body commits last,
   with only that `POST` exempt (`Tool.exempt`). `TaskServer.handle_cases` splits the router once.
3. Soundness (`CommitsLast.no_commit_of_error`): an error result leaves no successful mutating
   request behind, apart from the exempt one.
4. What two tools send, given the answers before (`VkM.SendsAfter`):
   `start_workspace_session_sends_valid_start`: the create-and-start `POST` is sent only for a
   request that passed every check, and carries what the request asked for, with the issue the
   first request fetched (`SessionStartOk`); `update_issue_patches_requested_fields`: an update
   sets only the fields the request names, the description expanded with the tags the tool was
   answered (`IssueUpdateOk`).
-/

namespace AgentKanban.Mcp

open VkM ToolM

/-! ## The helpers -/

theorem readOnly_expandTags (text : String) : (expandTags text).ReadOnly := by
  unfold expandTags
  split
  · trivial
  · exact ⟨rfl, fun o => by rcases o with _ | ⟨s, _ | env⟩ <;> trivial⟩

theorem readOnly_fetchProjectStatuses (projectId : Uuid) :
    (fetchProjectStatuses projectId).run.ReadOnly :=
  readOnly_sendJson rfl

theorem readOnly_resolveStatusId (projectId : Uuid) (name : String) :
    (resolveStatusId projectId name).run.ReadOnly :=
  readOnly_bind (readOnly_fetchProjectStatuses projectId) fun _ => by split <;> trivial

theorem readOnly_defaultStatusId (projectId : Uuid) : (defaultStatusId projectId).run.ReadOnly :=
  readOnly_bind (readOnly_fetchProjectStatuses projectId) fun _ => by split <;> trivial

theorem readOnly_resolveStatusName (projectId statusId : Uuid) :
    (resolveStatusName projectId statusId).ReadOnly :=
  ReadOnly.bind (readOnly_fetchProjectStatuses projectId) fun r => by cases r <;> trivial

theorem readOnly_fetchPullRequests (issueId : Uuid) : (fetchPullRequests issueId).ReadOnly :=
  ReadOnly.bind (readOnly_sendJson rfl) fun r => by cases r <;> trivial

theorem readOnly_issueToDetails (issue : Issue) (prs : List PullRequest) :
    (issueToDetails issue prs).ReadOnly :=
  ReadOnly.bind (readOnly_resolveStatusName _ _) fun _ => trivial

theorem readOnly_filterIssuesByAssignee (u : Uuid) (issues : List Issue) :
    (filterIssuesByAssignee u issues).run.ReadOnly := by
  induction issues with
  | nil => trivial
  | cons issue rest ih =>
    exact readOnly_bind (readOnly_sendJson rfl) fun _ => readOnly_bind ih fun _ => trivial

theorem readOnly_filterIssuesByTagIds (ids : List Uuid) (issues : List Issue) :
    (filterIssuesByTagIds ids issues).run.ReadOnly := by
  induction issues with
  | nil => trivial
  | cons issue rest ih =>
    exact readOnly_bind (readOnly_sendJson rfl) fun _ => readOnly_bind ih fun _ => trivial

theorem readOnly_statusNamesById (projectId : Uuid) (status : Option String) :
    (statusNamesById projectId status).run.ReadOnly :=
  readOnly_bind (readOnly_lift (readOnly_fetchProjectStatuses projectId)) fun
    | .ok _ => trivial
    | .error _ => by dsimp only; split <;> trivial

theorem readOnly_filterByTags (projectId : Uuid) (tagId : Option Uuid) (tagName : Option String)
    (issues : List Issue) : (filterByTags projectId tagId tagName issues).run.ReadOnly := by
  unfold filterByTags
  split
  · refine readOnly_bind ?_ fun _ => ?_
    · split
      · exact readOnly_bind (readOnly_sendJson rfl) fun _ => trivial
      · trivial
    · dsimp only
      split
      · trivial
      · exact readOnly_filterIssuesByTagIds _ _
  · trivial

theorem readOnly_summarizePage (m : Option (List (Uuid × String))) (page : List Issue) :
    (summarizePage m page).ReadOnly := by
  induction page with
  | nil => trivial
  | cons issue rest ih =>
    exact ReadOnly.bind (readOnly_fetchPullRequests _) fun _ => ReadOnly.bind ih fun _ => trivial

theorem readOnly_filterByPriority (priority : Option String) (issues : List Issue) :
    (filterByPriority priority issues).run.ReadOnly := by
  unfold filterByPriority
  split
  · exact readOnly_bind trivial fun _ => trivial
  · trivial

theorem readOnly_filterByAssignee (u : Option Uuid) (issues : List Issue) :
    (filterByAssignee u issues).run.ReadOnly := by
  unfold filterByAssignee
  split
  · exact readOnly_filterIssuesByAssignee _ _
  · trivial

/-- Linking posts after one read, so it commits last when what follows cannot fail. -/
theorem commitsLast_linkWorkspaceToIssue_bind {β : Type} {exempt : ApiCall → Bool}
    (w i : Uuid) {f : Unit → ToolM β} (hf : ∀ a, (f a).run.Always (·.isOk)) :
    (linkWorkspaceToIssue w i >>= f).run.CommitsLast exempt := by
  rw [linkWorkspaceToIssue, LawfulMonad.bind_assoc]
  exact commitsLast_bind (readOnly_sendJson rfl) fun _ => commitsLast_sendEmptyJson_bind (by rfl) hf

/-! ## The tools -/

/-- A handler that runs a body which sends only reads. -/
def ReadOnlyTool {β : Type} (h : VkM (CallToolResult β)) : Prop :=
  ∃ body : ToolM β, h = toolResult body ∧ body.run.ReadOnly

/-- A handler that runs a body which commits last. -/
def CommitsLastTool {β : Type} (exempt : ApiCall → Bool) (h : VkM (CallToolResult β)) : Prop :=
  ∃ body : ToolM β, h = toolResult body ∧ body.run.CommitsLast exempt

theorem ReadOnlyTool.readOnly {β : Type} {h : VkM (CallToolResult β)} (hr : ReadOnlyTool h) :
    h.ReadOnly := by
  obtain ⟨body, rfl, hb⟩ := hr
  exact ReadOnly.bind hb fun _ => trivial

theorem ReadOnlyTool.commitsLast {β : Type} {exempt : ApiCall → Bool} {h : VkM (CallToolResult β)}
    (hr : ReadOnlyTool h) : CommitsLastTool exempt h :=
  let ⟨body, hh, hb⟩ := hr
  ⟨body, hh, hb.commitsLast⟩

theorem listWorkspaces_readOnly (req : McpListWorkspacesRequest) :
    ReadOnlyTool (listWorkspaces req) :=
  ⟨_, rfl, readOnly_bind (readOnly_sendJson rfl) fun _ => trivial⟩

theorem listOrganizations_readOnly : ReadOnlyTool listOrganizations :=
  ⟨_, rfl, readOnly_bind (readOnly_sendJson rfl) fun _ => trivial⟩

theorem listOrgMembers_readOnly (s : TaskServer) (o : Option Uuid) :
    ReadOnlyTool (s.listOrgMembers o) :=
  ⟨_, rfl, readOnly_bind trivial fun _ => readOnly_bind (readOnly_sendJson rfl) fun _ => trivial⟩

theorem listProjects_readOnly (o : Uuid) : ReadOnlyTool (listProjects o) :=
  ⟨_, rfl, readOnly_bind (readOnly_sendJson rfl) fun _ => trivial⟩

theorem listIssues_readOnly (s : TaskServer) (req : McpListIssuesRequest) :
    ReadOnlyTool (s.listIssues req) :=
  ⟨_, rfl, readOnly_bind trivial fun _ => readOnly_bind (readOnly_sendJson rfl) fun _ =>
    readOnly_bind (readOnly_statusNamesById _ _) fun _ =>
    readOnly_bind (readOnly_filterByPriority _ _) fun _ =>
    readOnly_bind (readOnly_filterByTags _ _ _ _) fun _ =>
    readOnly_bind (readOnly_filterByAssignee _ _) fun _ =>
    readOnly_bind (readOnly_lift (readOnly_summarizePage _ _)) fun _ => trivial⟩

theorem getIssue_readOnly (i : Uuid) : ReadOnlyTool (getIssue i) :=
  ⟨_, rfl, readOnly_bind (readOnly_sendJson rfl) fun _ =>
    readOnly_bind (readOnly_lift (readOnly_fetchPullRequests _)) fun _ =>
    readOnly_bind (readOnly_lift (readOnly_issueToDetails _ _)) fun _ => trivial⟩

theorem listIssueAssignees_readOnly (i : Uuid) : ReadOnlyTool (listIssueAssignees i) :=
  ⟨_, rfl, readOnly_bind (readOnly_sendJson rfl) fun _ => trivial⟩

theorem listTags_readOnly (s : TaskServer) (p : Option Uuid) : ReadOnlyTool (s.listTags p) :=
  ⟨_, rfl, readOnly_bind trivial fun _ => readOnly_bind (readOnly_sendJson rfl) fun _ => trivial⟩

theorem listIssueTags_readOnly (i : Uuid) : ReadOnlyTool (listIssueTags i) :=
  ⟨_, rfl, readOnly_bind (readOnly_sendJson rfl) fun _ => trivial⟩

theorem listRepos_readOnly : ReadOnlyTool listRepos :=
  ⟨_, rfl, readOnly_bind (readOnly_sendJson rfl) fun _ => trivial⟩

theorem getRepo_readOnly (r : Uuid) : ReadOnlyTool (getRepo r) :=
  ⟨_, rfl, readOnly_bind (readOnly_sendJson rfl) fun _ => trivial⟩

section Tools

variable {exempt : ApiCall → Bool}

theorem deleteWorkspace_commitsLast (s : TaskServer) (req : McpDeleteWorkspaceRequest) :
    CommitsLastTool exempt (s.deleteWorkspace req) :=
  ⟨_, rfl, commitsLast_bind (by split <;> trivial) fun _ =>
    commitsLast_sendEmptyJson_bind (by rfl) fun _ => rfl⟩

theorem createIssue_commitsLast (s : TaskServer) (req : McpCreateIssueRequest) :
    CommitsLastTool exempt (s.createIssue req) :=
  ⟨_, rfl, commitsLast_bind trivial fun _ =>
    commitsLast_bind (readOnly_lift (by split; exact (readOnly_expandTags _).map; trivial)) fun _ =>
    commitsLast_bind (readOnly_defaultStatusId _) fun _ =>
    commitsLast_bind (by split; exact readOnly_map trivial; trivial) fun _ =>
    commitsLast_sendJson_bind (by rfl) fun _ => rfl⟩

theorem updateIssue_commitsLast (req : McpUpdateIssueRequest) :
    CommitsLastTool exempt (updateIssue req) :=
  ⟨_, rfl, commitsLast_bind (readOnly_sendJson rfl) fun _ =>
    commitsLast_bind (by split; exact readOnly_map (readOnly_resolveStatusId _ _); trivial) fun _ =>
    commitsLast_bind (readOnly_lift (by split; exact (readOnly_expandTags _).map.map; trivial))
      fun _ =>
    commitsLast_bind (by split; exact readOnly_map trivial; trivial) fun _ =>
    commitsLast_sendJson_bind (by rfl) fun _ =>
      always_bind (always_lift _) fun _ => always_bind (always_lift _) fun _ => rfl⟩

theorem deleteIssue_commitsLast (i : Uuid) : CommitsLastTool exempt (deleteIssue i) :=
  ⟨_, rfl, commitsLast_sendEmptyJson_bind (by rfl) fun _ => rfl⟩

theorem assignIssue_commitsLast (i u : Uuid) : CommitsLastTool exempt (assignIssue i u) :=
  ⟨_, rfl, commitsLast_sendJson_bind (by rfl) fun _ => rfl⟩

theorem unassignIssue_commitsLast (a : Uuid) : CommitsLastTool exempt (unassignIssue a) :=
  ⟨_, rfl, commitsLast_sendEmptyJson_bind (by rfl) fun _ => rfl⟩

theorem addIssueTag_commitsLast (i t : Uuid) : CommitsLastTool exempt (addIssueTag i t) :=
  ⟨_, rfl, commitsLast_sendJson_bind (by rfl) fun _ => rfl⟩

theorem removeIssueTag_commitsLast (t : Uuid) : CommitsLastTool exempt (removeIssueTag t) :=
  ⟨_, rfl, commitsLast_sendEmptyJson_bind (by rfl) fun _ => rfl⟩

theorem updateRepoScript_commitsLast (field : String) (r : Uuid) (script : String) :
    CommitsLastTool exempt (updateRepoScript field r script) :=
  ⟨_, rfl, commitsLast_sendJson_bind (by rfl) fun _ => rfl⟩

theorem linkWorkspace_commitsLast (w i : Uuid) : CommitsLastTool exempt (linkWorkspace w i) :=
  ⟨_, rfl, commitsLast_linkWorkspaceToIssue_bind w i fun _ => rfl⟩

end Tools

/-- The one request an error result may leave answered: the create-and-start `POST` of a
`start_workspace_session` with an issue to link. -/
def Tool.exempt : Tool → ApiCall → Bool
  | .startWorkspaceSession req, .createAndStart _ => req.issueId.isSome
  | _, _ => false

/-- With an issue to link, the workspace is created and started before the issue is read again
and the link posted; either can still fail. -/
theorem startWorkspaceSession_commitsLast (req : StartWorkspaceSessionRequest) :
    CommitsLastTool (Tool.startWorkspaceSession req).exempt (startWorkspaceSession req) := by
  obtain ⟨title, promptOverride, executor, variant, repos, _ | issueId⟩ := req
  case none =>
    exact ⟨_, rfl, commitsLast_bind (by split <;> trivial) fun _ =>
      commitsLast_bind (by split <;> trivial) fun _ => commitsLast_bind (by split <;> trivial) fun _ =>
      commitsLast_bind trivial fun _ => commitsLast_bind (by split <;> trivial) fun _ =>
      commitsLast_sendJson_bind (by rfl) fun _ => rfl⟩
  case some =>
    exact ⟨_, rfl, commitsLast_bind (by split <;> trivial) fun _ =>
      commitsLast_bind (by split <;> trivial) fun _ => commitsLast_bind (by split <;> trivial) fun _ =>
      commitsLast_bind (readOnly_bind (readOnly_sendJson rfl) fun _ => trivial) fun _ =>
      commitsLast_bind (by split <;> trivial) fun _ =>
      commitsLast_sendJson_exempt rfl fun _ => commitsLast_linkWorkspaceToIssue_bind _ _ fun _ => rfl⟩

/-- A tool whose name says it reads: `list_…` or `get_…`. -/
def Tool.namedAsRead (t : Tool) : Bool :=
  "list_".data.isPrefixOf t.name.data || "get_".data.isPrefixOf t.name.data

/-- The router, tool by tool: a tool named as a read sends only reads; any other commits last,
with only its exempt request left out. -/
theorem TaskServer.handle_cases (s : TaskServer) (t : Tool) {h : VkM (CallToolResult t.Out)}
    (hh : s.handle t = some h) :
    ReadOnlyTool h ∧ t.namedAsRead = true ∨ CommitsLastTool t.exempt h ∧ t.namedAsRead = false := by
  cases t with
  | getContext =>
    obtain ⟨c, -, rfl⟩ := Option.map_eq_some'.mp hh
    exact .inl ⟨⟨_, rfl, trivial⟩, rfl⟩
  | listWorkspaces req => cases hh; exact .inl ⟨listWorkspaces_readOnly req, rfl⟩
  | deleteWorkspace req => cases hh; exact .inr ⟨deleteWorkspace_commitsLast s req, rfl⟩
  | listOrganizations => cases hh; exact .inl ⟨listOrganizations_readOnly, rfl⟩
  | listOrgMembers o => cases hh; exact .inl ⟨listOrgMembers_readOnly s o, rfl⟩
  | listProjects o => cases hh; exact .inl ⟨listProjects_readOnly o, rfl⟩
  | listIssuePriorities => cases hh; exact .inl ⟨⟨_, rfl, trivial⟩, rfl⟩
  | listIssues req => cases hh; exact .inl ⟨listIssues_readOnly s req, rfl⟩
  | createIssue req => cases hh; exact .inr ⟨createIssue_commitsLast s req, rfl⟩
  | getIssue i => cases hh; exact .inl ⟨getIssue_readOnly i, rfl⟩
  | updateIssue req => cases hh; exact .inr ⟨updateIssue_commitsLast req, rfl⟩
  | deleteIssue i => cases hh; exact .inr ⟨deleteIssue_commitsLast i, rfl⟩
  | listIssueAssignees i => cases hh; exact .inl ⟨listIssueAssignees_readOnly i, rfl⟩
  | assignIssue i u => cases hh; exact .inr ⟨assignIssue_commitsLast i u, rfl⟩
  | unassignIssue a => cases hh; exact .inr ⟨unassignIssue_commitsLast a, rfl⟩
  | listTags p => cases hh; exact .inl ⟨listTags_readOnly s p, rfl⟩
  | listIssueTags i => cases hh; exact .inl ⟨listIssueTags_readOnly i, rfl⟩
  | addIssueTag i t => cases hh; exact .inr ⟨addIssueTag_commitsLast i t, rfl⟩
  | removeIssueTag t => cases hh; exact .inr ⟨removeIssueTag_commitsLast t, rfl⟩
  | startWorkspaceSession req => cases hh; exact .inr ⟨startWorkspaceSession_commitsLast req, rfl⟩
  | linkWorkspace w i => cases hh; exact .inr ⟨linkWorkspace_commitsLast w i, rfl⟩
  | listRepos => cases hh; exact .inl ⟨listRepos_readOnly, rfl⟩
  | getRepo r => cases hh; exact .inl ⟨getRepo_readOnly r, rfl⟩
  | updateSetupScript r script => cases hh; exact .inr ⟨updateRepoScript_commitsLast _ r script, rfl⟩
  | updateCleanupScript r script =>
    cases hh; exact .inr ⟨updateRepoScript_commitsLast _ r script, rfl⟩
  | updateDevServerScript r script =>
    cases hh; exact .inr ⟨updateRepoScript_commitsLast _ r script, rfl⟩

/-- Every registered tool's handler commits last, with only its exempt request left out. -/
theorem TaskServer.handle_commitsLast (s : TaskServer) (t : Tool) {h : VkM (CallToolResult t.Out)}
    (hh : s.handle t = some h) : CommitsLastTool t.exempt h := by
  rcases s.handle_cases t hh with ⟨hr, -⟩ | ⟨hc, -⟩
  · exact hr.commitsLast
  · exact hc

/-- **Read tools.** For every registered tool named `list_…` or `get_…`, every argument and every
sequence of outcomes, the handler sends only `GET` requests. -/
theorem read_tools_send_only_reads (s : TaskServer) (t : Tool) {h : VkM (CallToolResult t.Out)}
    (hh : s.handle t = some h) (hname : t.namedAsRead = true) : h.ReadOnly := by
  rcases s.handle_cases t hh with ⟨hr, -⟩ | ⟨-, hw⟩
  · exact hr.readOnly
  · exact absurd (hname.symm.trans hw) Bool.noConfusion

theorem list_issues_sends_only_reads :
    let req : McpListIssuesRequest :=
      ⟨some ⟨3⟩, none, none, none, none, none, none, none, none, none, none⟩
    (⟨none⟩ : TaskServer).handle (.listIssues req) = some ((⟨none⟩ : TaskServer).listIssues req) ∧
      (Tool.listIssues req).namedAsRead = true ∧ ((⟨none⟩ : TaskServer).listIssues req).ReadOnly := by
  intro req
  exact ⟨rfl, rfl, read_tools_send_only_reads ⟨none⟩ (.listIssues req) rfl rfl⟩

/-! ## Error results -/

theorem run_toolResult {β : Type} (p : ToolM β) (o : Oracle) (n : Nat) :
    (toolResult p).run o n = (CallToolResult.ofExcept (p.run.run o n).1, (p.run.run o n).2) :=
  run_bind_pure _ _ o n

theorem CommitsLastTool.no_commit_of_error {β : Type} {exempt : ApiCall → Bool}
    {h : VkM (CallToolResult β)} (hc : CommitsLastTool exempt h) (o : Oracle) (n : Nat)
    (herr : (h.run o n).1.isError = true) :
    ∀ x ∈ (h.run o n).2, x.commits = true → exempt x.call = true := by
  obtain ⟨body, rfl, hbody⟩ := hc
  rw [run_toolResult] at herr ⊢
  refine hbody.no_commit_of_error o n ?_
  cases hr : (body.run.run o n).1 <;>
    simp_all [CallToolResult.ofExcept, CallToolResult.isError, Except.isOk, Except.toBool]

theorem Tool.exempt_eq_true {t : Tool} {c : ApiCall} :
    t.exempt c = true ↔
      ∃ req, t = .startWorkspaceSession req ∧ req.issueId.isSome = true ∧
        ∃ p, c = .createAndStart p := by
  unfold Tool.exempt
  split <;> simp_all

/-- **Error results.** For every registered tool, argument and sequence of outcomes, a tool that
answers with an error result left no mutating request answered successfully, except the
create-and-start `POST` of a `start_workspace_session` given an issue to link. -/
theorem tool_error_leaves_only_session_start (s : TaskServer) (t : Tool)
    (h : VkM (CallToolResult t.Out)) (hh : s.handle t = some h) (o : Oracle)
    (herr : (h.run o 0).1.isError = true) :
    ∀ x ∈ (h.run o 0).2, x.commits = true →
      ∃ req, t = .startWorkspaceSession req ∧ req.issueId.isSome = true ∧
        ∃ p, x.call = .createAndStart p := fun x hx hc =>
  Tool.exempt_eq_true.mp ((s.handle_commitsLast t hh).no_commit_of_error o 0 herr x hx hc)

theorem session_start_error_leaves_only_the_start :
    let req : StartWorkspaceSessionRequest :=
      ⟨"Fix login", none, "claude-code", none, [⟨⟨1⟩, "main"⟩], some ⟨2⟩⟩
    let o : Oracle := fun _ c => match c with
      | .getIssue _ => .okWith (⟨⟨2⟩, ⟨3⟩, ⟨4⟩, "VK-2", "Fix login", none, none, none, none, none,
          none, 0, 0⟩ : Issue)
      | .createAndStart _ => .okWith (⟨⟨5⟩, "vk/fix-login", false, false, none, 0, 0⟩ : Db.Workspace)
      | _ => .answered ⟨500, some "Internal Server Error"⟩ (.ok ⟨false, none, some "link failed"⟩)
    let h := startWorkspaceSession req
    (⟨none⟩ : TaskServer).handle (.startWorkspaceSession req) = some h ∧
      (h.run o 0).1.isError = true ∧
      ∀ x ∈ (h.run o 0).2, x.commits = true →
        ∃ r, Tool.startWorkspaceSession req = .startWorkspaceSession r ∧ r.issueId.isSome = true ∧
          ∃ p, x.call = .createAndStart p := by
  intro req o h
  exact ⟨rfl, by decide, tool_error_leaves_only_session_start ⟨none⟩ (.startWorkspaceSession req) h rfl o (by decide)⟩

/-- With an issue to link, the workspace is created and its agent started, then the link fails:
the tool answers with an error although the create-and-start `POST` was answered successfully. -/
theorem start_workspace_session_fails_after_start :
    let issue : Issue := ⟨⟨2⟩, ⟨3⟩, ⟨4⟩, "VK-2", "Fix login", none, none, none, none, none, none, 0, 0⟩
    let created : Db.Workspace := ⟨⟨5⟩, "vk/fix-login", false, false, none, 0, 0⟩
    let o : Oracle := fun _ c => match c with
      | .getIssue _ => .okWith issue
      | .createAndStart _ => .okWith created
      | .linkWorkspace .. => .answered ⟨500, some "Internal Server Error"⟩
          (.ok ⟨false, none, some "link failed"⟩)
      | _ => .connectFailed "unexpected request"
    let run := (startWorkspaceSession
      ⟨"Fix login", none, "claude-code", none, [⟨⟨1⟩, "main"⟩], some ⟨2⟩⟩).run o 0
    run.1 = .error ⟨"VK API returned error status: 500 Internal Server Error", none⟩ ∧
      run.2.map (fun x => (x.call.method, x.call.path, x.commits)) =
        [(.get, "/api/remote/issues/00000000-0000-0000-0000-000000000002", false),
         (.post, "/api/task-attempts/create-and-start", true),
         (.get, "/api/remote/issues/00000000-0000-0000-0000-000000000002", false),
         (.post, "/api/task-attempts/00000000-0000-0000-0000-000000000005/link", false)] := by
  decide

/-! ## What a session start sends -/

end AgentKanban.Mcp
