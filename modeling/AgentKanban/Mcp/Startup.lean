import AgentKanban.Mcp.Tools
import AgentKanban.Mcp.Effects

/-!
# Startup: the workspace context and the `get_context` tool

`TaskServer::init` looks up the workspace session the server runs in: the local workspace of the
current directory (`attempt-context`), then its remote workspace, then that workspace's project.
Each lookup gives up silently on any failure; a timeout is a failed connection. `get_context` is
registered when the first lookup succeeds.

1. `init_registers_get_context`: `get_context` is registered exactly when the local lookup is
   answered with its data; a failed remote lookup only leaves the remote ids out.
2. `init_context_ids`: a context has an organization or issue id only with a project id.
-/

namespace AgentKanban.Mcp

open VkM

/-! ## The lookups -/

/-- The checks of the first two lookups: a success status, a parsed envelope with `success`, and
its data. -/
def decodeAtStartup {α : Type} : Outcome α → Option α
  | .answered s (.ok env) => if s.isSuccess && env.success then env.data else none
  | _ => none

/-- `fetch_remote_organization_id`: the organization of a remote project. -/
def fetchRemoteOrganizationId (projectId : Uuid) : VkM (Option Uuid) :=
  .call (.getRemoteProject projectId) fun
    | .answered s (.ok env) =>
      .pure (if s.isSuccess then env.data.map (·.organizationId) else none)
    | _ => .pure none

/-- `fetch_remote_workspace_context`: the project and issue of the remote workspace of a local
one, and the project's organization. -/
def fetchRemoteWorkspaceContext (localWorkspaceId : Uuid) :
    VkM (Option (Option Uuid × Option Uuid × Option Uuid)) :=
  .call (.remoteWorkspaceByLocalId localWorkspaceId) fun o =>
    match decodeAtStartup o with
    | none => .pure none
    | some remoteWs =>
      VkM.bind (fetchRemoteOrganizationId remoteWs.projectId) fun orgId =>
        .pure (some (some remoteWs.projectId, remoteWs.issueId, orgId))

/-- `fetch_context_at_startup`, for the current directory's path (`none` when it cannot be
read). -/
def fetchContextAtStartup (currentDir : Option String) : VkM (Option McpContext) :=
  match currentDir with
  | none => .pure none
  | some containerRef =>
    .call (.attemptContext containerRef) fun o =>
      match decodeAtStartup o with
      | none => .pure none
      | some ctx =>
        VkM.bind (fetchRemoteWorkspaceContext ctx.workspace.id) fun remote =>
          match remote.getD (none, none, none) with
          | (projectId, issueId, organizationId) =>
            .pure (some ⟨organizationId, projectId, issueId, ctx.workspace.id, ctx.workspace.branch,
              ctx.workspaceRepos.map fun rwb => ⟨rwb.repo.id, rwb.repo.name, rwb.targetBranch⟩⟩)

/-- `TaskServer::init`: the server with the context it found; without one, `get_context` is not
registered (`TaskServer.handle`). -/
def TaskServer.init (currentDir : Option String) : VkM TaskServer :=
  VkM.bind (fetchContextAtStartup currentDir) fun context => .pure ⟨context⟩

/-! ## What startup finds -/

theorem run_init (currentDir : Option String) (o : Oracle) (n : Nat) :
    ((TaskServer.init currentDir).run o n).1 = ⟨((fetchContextAtStartup currentDir).run o n).1⟩ :=
  congrArg Prod.fst (run_bind_pure _ _ o n)

/-- Once the local lookup is answered, the context is found, whatever the remote lookups get. -/
theorem fetchContextAtStartup_isSome (currentDir : Option String) (o : Oracle) (n : Nat) :
    ((fetchContextAtStartup currentDir).run o n).1.isSome =
      (currentDir.bind fun ref => decodeAtStartup (o n (.attemptContext ref))).isSome := by
  cases currentDir with
  | none => rfl
  | some ref =>
    simp only [fetchContextAtStartup, run, Option.some_bind]
    cases decodeAtStartup (o n (.attemptContext ref)) with
    | none => rfl
    | some ctx => simp [run_bind_pure]

/-- **`get_context`.** For every current directory and every sequence of outcomes, `init`
registers `get_context` exactly when the local `attempt-context` lookup is answered with a
success status, `success: true` and data. -/
theorem init_registers_get_context (currentDir : Option String) (o : Oracle) :
    ((((TaskServer.init currentDir).run o 0).1.handle .getContext).isSome =
      (currentDir.bind fun ref => decodeAtStartup (o 0 (.attemptContext ref))).isSome) := by
  rw [run_init, TaskServer.handle, Option.isSome_map', fetchContextAtStartup_isSome]

/-- A found remote workspace always carries its project. -/
theorem fetchRemoteWorkspaceContext_project (w : Uuid) :
    (fetchRemoteWorkspaceContext w).Always fun r => ∀ t ∈ r, t.1.isSome := by
  refine fun o => ?_
  dsimp only
  split
  · exact fun _ h => absurd h (by simp)
  · exact Always.bind (always_true _) fun _ _ t ht => by cases ht; rfl

theorem fetchContextAtStartup_ids (currentDir : Option String) :
    (fetchContextAtStartup currentDir).Always fun r =>
      ∀ c ∈ r, c.organizationId.isSome ∨ c.issueId.isSome → c.projectId.isSome := by
  unfold fetchContextAtStartup
  split
  · exact fun _ h => absurd h (by simp)
  · refine fun o => ?_
    dsimp only
    split
    · exact fun _ h => absurd h (by simp)
    · refine Always.bind (fetchRemoteWorkspaceContext_project _) fun r hr => ?_
      cases r with
      | none => exact fun c hc => by cases hc; simp
      | some t => exact fun c hc _ => by cases hc; exact hr t rfl

/-- **Remote ids.** For every current directory and every sequence of outcomes, the context
`init` finds has an organization or an issue id only together with a project id. -/
theorem init_context_ids (currentDir : Option String) (o : Oracle) :
    ∀ c ∈ ((TaskServer.init currentDir).run o 0).1.context,
      c.organizationId.isSome ∨ c.issueId.isSome → c.projectId.isSome := by
  rw [run_init]
  exact (fetchContextAtStartup_ids currentDir).run o 0

theorem init_context_ids_of_linked_workspace :
    let o : Oracle := fun _ c => match c with
      | .attemptContext _ => .okWith (⟨⟨⟨5⟩, "vk/fix", false, false, none, 0, 0⟩, []⟩ :
          Db.WorkspaceContext)
      | .remoteWorkspaceByLocalId _ => .okWith (⟨⟨3⟩, some ⟨2⟩⟩ : Workspace)
      | .getRemoteProject _ => .okWith (⟨⟨3⟩, ⟨1⟩, "Web", 0, 0⟩ : Project)
      | _ => .connectFailed "unexpected request"
    let c : McpContext := ⟨some ⟨1⟩, some ⟨3⟩, some ⟨2⟩, ⟨5⟩, "vk/fix", []⟩
    c ∈ ((TaskServer.init (some "/home/dev/web")).run o 0).1.context ∧
      (c.organizationId.isSome ∨ c.issueId.isSome) ∧ c.projectId.isSome := by
  intro o c
  have hc : c ∈ ((TaskServer.init (some "/home/dev/web")).run o 0).1.context := rfl
  exact ⟨hc, .inl rfl, init_context_ids (some "/home/dev/web") o c hc (.inl rfl)⟩

end AgentKanban.Mcp
