import AgentKanban.Mcp.Effects
import AgentKanban.Mcp.Tools

/-!
# Tools scoped by the workspace context

Four tools take a project or an organization id that defaults to the one of the workspace the
server runs in (`resolve_project_id`, `resolve_organization_id`): `list_tags`, `list_issues` and
`create_issue` a project, `list_org_members` an organization. Each resolves the id before its
first request.

1. `NamesOnly k id`: a request names the id `id` of kind `k`, or none of that kind.
2. One `Sends` lemma per step of the project tools: each names only the project it is given.
3. `ScopedBy`: an unresolved scope ends a tool before any request with the resolver's error, and
   a resolved one is the only one its requests name; `scoped_tools_stay_in_resolved_scope` for
   the four tools.
-/

namespace AgentKanban.Mcp

open VkM ToolM

/-! ## Scopes -/

/-- The kinds of id a tool may take from the server's context. -/
inductive ScopeKind
  | project
  | organization
  deriving DecidableEq, Repr

/-- The resolver of a kind of id. -/
def TaskServer.resolveScope (s : TaskServer) : ScopeKind → Option Uuid → Except ErrorValue Uuid
  | .project => s.resolveProjectId
  | .organization => s.resolveOrganizationId

/-- The tools whose project or organization defaults to the context's, with the id the call
gives. -/
def Tool.scope : Tool → Option (ScopeKind × Option Uuid)
  | .listOrgMembers organizationId => some (.organization, organizationId)
  | .listTags projectId => some (.project, projectId)
  | .listIssues req => some (.project, req.projectId)
  | .createIssue req => some (.project, req.projectId)
  | _ => none

/-- The project or organization a request names, if it names one. -/
def ApiCall.scopeId : ScopeKind → ApiCall → Option Uuid
  | .organization, .listMembers o | .organization, .listProjects o => some o
  | .project, .listIssues p | .project, .listProjectStatuses p | .project, .listTags p
  | .project, .linkWorkspace _ p _ | .project, .getRemoteProject p => some p
  | .project, .createIssue payload => some payload.projectId
  | _, _ => none

/-- The request names the id `id` of kind `k`, or no id of that kind. -/
def NamesOnly (k : ScopeKind) (id : Uuid) (c : ApiCall) : Prop := ∀ q ∈ c.scopeId k, q = id

/-! ## The steps of the project tools -/

section Steps

variable (p : Uuid)

theorem sends_expandTags (text : String) : (expandTags text).Sends (NamesOnly .project p) := by
  unfold expandTags
  split
  · trivial
  · exact ⟨fun _ h => (nomatch h), fun o => by rcases o with _ | ⟨s, _ | env⟩ <;> trivial⟩

theorem sends_fetchProjectStatuses : (fetchProjectStatuses p).run.Sends (NamesOnly .project p) :=
  ⟨fun _ h => Option.some.inj h.symm, fun _ => trivial⟩

theorem sends_statusNamesById (status : Option String) :
    (statusNamesById p status).run.Sends (NamesOnly .project p) :=
  sends_seq (sends_lift (sends_fetchProjectStatuses p)) fun r => by
    cases r
    · dsimp only; split <;> trivial
    · trivial

theorem sends_defaultStatusId : (defaultStatusId p).run.Sends (NamesOnly .project p) :=
  sends_seq (sends_fetchProjectStatuses p) fun _ => by split <;> trivial

theorem sends_filterByPriority {P : ApiCall → Prop} (priority : Option String)
    (issues : List Issue) : (filterByPriority priority issues).run.Sends P := by
  unfold filterByPriority
  split
  · exact sends_seq trivial fun _ => trivial
  · trivial

theorem sends_filterIssuesByTagIds (ids : List Uuid) (issues : List Issue) :
    (filterIssuesByTagIds ids issues).run.Sends (NamesOnly .project p) := by
  induction issues with
  | nil => trivial
  | cons issue rest ih =>
    exact sends_seq ⟨fun _ h => (nomatch h), fun _ => trivial⟩ fun _ =>
      sends_seq ih fun _ => trivial

theorem sends_filterByTags (tagId : Option Uuid) (tagName : Option String) (issues : List Issue) :
    (filterByTags p tagId tagName issues).run.Sends (NamesOnly .project p) := by
  unfold filterByTags
  split
  · refine sends_seq ?_ fun _ => ?_
    · split
      · exact sends_seq ⟨fun _ h => Option.some.inj h.symm, fun _ => trivial⟩ fun _ => trivial
      · trivial
    · dsimp only
      split
      · trivial
      · exact sends_filterIssuesByTagIds p _ _
  · trivial

theorem sends_filterIssuesByAssignee (u : Uuid) (issues : List Issue) :
    (filterIssuesByAssignee u issues).run.Sends (NamesOnly .project p) := by
  induction issues with
  | nil => trivial
  | cons issue rest ih =>
    exact sends_seq ⟨fun _ h => (nomatch h), fun _ => trivial⟩ fun _ =>
      sends_seq ih fun _ => trivial

theorem sends_filterByAssignee (u : Option Uuid) (issues : List Issue) :
    (filterByAssignee u issues).run.Sends (NamesOnly .project p) := by
  unfold filterByAssignee
  split
  · exact sends_filterIssuesByAssignee p _ _
  · trivial

theorem sends_summarizePage (m : Option (List (Uuid × String))) (page : List Issue) :
    (summarizePage m page).Sends (NamesOnly .project p) := by
  induction page with
  | nil => trivial
  | cons issue rest ih =>
    refine Sends.bind (Q := fun _ => True) ?_ (always_true _) fun _ _ =>
      Sends.bind ih (always_true _) fun _ _ => trivial
    exact Sends.bind (Q := fun _ => True) ⟨fun _ h => (nomatch h), fun _ => trivial⟩
      (always_true _) fun r _ => by cases r <;> trivial

end Steps

/-! ## The scoped tools -/

/-- A tool that first resolves its scope by `r`: unresolved, it ends before any request with the
resolver's error; resolved, every request it sends that names an id of kind `k` names that one. -/
def ScopedBy {β : Type} (r : Except ErrorValue Uuid) (k : ScopeKind)
    (h : VkM (CallToolResult β)) : Prop :=
  (∀ e, r = .error e → ∀ o n, h.run o n = (.error e, [])) ∧
    ∀ id, r = .ok id → h.Sends (NamesOnly k id)

theorem scopedBy_toolResult {β : Type} {r : Except ErrorValue Uuid} {k : ScopeKind}
    {f : Uuid → ToolM β} (hf : ∀ id, r = .ok id → (f id).run.Sends (NamesOnly k id)) :
    ScopedBy r k (toolResult (ofExcept r >>= f)) :=
  ⟨fun e he o n => by subst he; rfl,
    fun id hid => by subst hid; exact Sends.bind (hf id rfl) (always_true _) fun _ _ => trivial⟩

theorem listTags_scopedBy (s : TaskServer) (projectId : Option Uuid) :
    ScopedBy (s.resolveProjectId projectId) .project (s.listTags projectId) :=
  scopedBy_toolResult fun _ _ =>
    sends_seq ⟨fun _ h => Option.some.inj h.symm, fun _ => trivial⟩ fun _ => trivial

theorem listIssues_scopedBy (s : TaskServer) (req : McpListIssuesRequest) :
    ScopedBy (s.resolveProjectId req.projectId) .project (s.listIssues req) :=
  scopedBy_toolResult fun id _ =>
    sends_seq ⟨fun _ h => Option.some.inj h.symm, fun _ => trivial⟩ fun _ =>
    sends_seq (sends_statusNamesById id _) fun _ =>
    sends_seq (sends_filterByPriority _ _) fun _ =>
    sends_seq (sends_filterByTags id _ _ _) fun _ =>
    sends_seq (sends_filterByAssignee id _ _) fun _ =>
    sends_seq (sends_lift (sends_summarizePage id _ _)) fun _ => trivial

theorem createIssue_scopedBy (s : TaskServer) (req : McpCreateIssueRequest) :
    ScopedBy (s.resolveProjectId req.projectId) .project (s.createIssue req) :=
  scopedBy_toolResult fun id _ =>
    sends_seq (sends_lift (by
      split
      · exact Sends.bind (sends_expandTags id _) (always_true _) fun _ _ => trivial
      · trivial)) fun _ =>
    sends_seq (sends_defaultStatusId id) fun _ =>
    sends_seq (by split; exact sends_map trivial; trivial) fun _ =>
    sends_seq ⟨fun _ h => Option.some.inj h.symm, fun _ => trivial⟩ fun _ => trivial

theorem listOrgMembers_scopedBy (s : TaskServer) (organizationId : Option Uuid) :
    ScopedBy (s.resolveOrganizationId organizationId) .organization
      (s.listOrgMembers organizationId) :=
  scopedBy_toolResult fun _ _ =>
    sends_seq ⟨fun _ h => Option.some.inj h.symm, fun _ => trivial⟩ fun _ => trivial

/-- **Context scoping.** For every server, every call of a tool whose project or organization
defaults to the context's, and every sequence of outcomes: when neither the call nor the context
gives the id, the tool sends nothing and answers the resolver's error; otherwise every request it
sends that names a project (an organization) names the one resolved. -/
theorem scoped_tools_stay_in_resolved_scope (s : TaskServer) (t : Tool) (k : ScopeKind)
    (arg : Option Uuid) (ht : t.scope = some (k, arg)) (h : VkM (CallToolResult t.Out))
    (hh : s.handle t = some h) (o : Oracle) :
    (∀ e, s.resolveScope k arg = .error e → h.run o 0 = (.error e, [])) ∧
      ∀ id, s.resolveScope k arg = .ok id →
        ∀ x ∈ (h.run o 0).2, ∀ q ∈ x.call.scopeId k, q = id := by
  have hscoped : ScopedBy (s.resolveScope k arg) k h := by
    cases t <;> cases ht <;> cases hh
    · exact listOrgMembers_scopedBy s _
    · exact listIssues_scopedBy s _
    · exact createIssue_scopedBy s _
    · exact listTags_scopedBy s _
  exact ⟨fun e he => hscoped.1 e he o 0, fun id hid => (hscoped.2 id hid).run o 0⟩

/-- In a workspace of project 3, `list_tags` with no project names only project 3. -/
theorem list_tags_in_context_project :
    let s : TaskServer := ⟨some ⟨none, some ⟨3⟩, none, ⟨5⟩, "vk/fix", []⟩⟩
    let o : Oracle := fun _ _ => .connectFailed "offline"
    (Tool.listTags none).scope = some (.project, none) ∧
      s.handle (.listTags none) = some (s.listTags none) ∧
      ((∀ e, s.resolveScope .project none = .error e → (s.listTags none).run o 0 = (.error e, [])) ∧
        ∀ id, s.resolveScope .project none = .ok id →
          ∀ x ∈ ((s.listTags none).run o 0).2, ∀ q ∈ x.call.scopeId .project, q = id) := by
  intro s o
  exact ⟨rfl, rfl, scoped_tools_stay_in_resolved_scope s (.listTags none) .project none rfl _ rfl o⟩

end AgentKanban.Mcp
