import AgentKanban.Mcp.Issues

/-!
# The other tools, and the tool router

The tools of `workspaces.rs`, `organizations.rs`, `remote_projects.rs`, `issue_assignees.rs`,
`issue_tags.rs`, `repos.rs`, `task_attempts.rs` and `context.rs`; then `Tool`, one constructor
per registered tool with its parameters, and `TaskServer.handle`, the router: `get_context` is
registered only when the server has a context.
-/

namespace AgentKanban.Mcp

/-! ## Workspaces -/

/-- `McpListWorkspacesRequest`; `limit` and `offset` are `i32`. -/
structure McpListWorkspacesRequest where
  archived : Option Bool
  pinned : Option Bool
  branch : Option String
  nameSearch : Option String
  limit : Option Int
  offset : Option Int
  deriving DecidableEq, Repr

/-- `WorkspaceSummary`. -/
structure WorkspaceSummary where
  id : String
  branch : String
  archived : Bool
  pinned : Bool
  name : Option String
  createdAt : Nat
  updatedAt : Nat
  deriving DecidableEq, Repr

/-- `McpListWorkspacesResponse`. -/
structure McpListWorkspacesResponse where
  workspaces : List WorkspaceSummary
  totalCount : Nat
  returnedCount : Nat
  limit : Nat
  offset : Nat
  deriving DecidableEq, Repr

/-- `sort_by(|a, b| b.created_at.cmp(&a.created_at))`: stable, as `insertionSort` is. -/
def sortByCreatedAtDesc (workspaces : List Db.Workspace) : List Db.Workspace :=
  workspaces.insertionSort fun a b => b.createdAt ≤ a.createdAt

/-- `list_workspaces`: filter, sort by `created_at` descending, page. -/
def listWorkspaces (req : McpListWorkspacesRequest) :
    VkM (CallToolResult McpListWorkspacesResponse) :=
  toolResult do
    let workspaces : List Db.Workspace ← sendJson .listWorkspaces
    let workspaces := retainIf req.archived (fun a w => w.archived == a) workspaces
    let workspaces := retainIf req.pinned (fun p w => w.pinned == p) workspaces
    let workspaces := retainIf req.branch (fun b w => eqIgnoreAsciiCase w.branch b) workspaces
    let workspaces := retainIf req.nameSearch (fun n w =>
      (w.name.map fun name => strContains (toAsciiLowercase name) (toAsciiLowercase n)).getD false)
      workspaces
    let workspaces := sortByCreatedAtDesc workspaces
    let offset := (req.offset.getD 0).toNat
    let limit := (req.limit.getD 50).toNat
    let summaries := ((workspaces.drop offset).take limit).map fun w =>
      (⟨w.id.toString, w.branch, w.archived, w.pinned, w.name, w.createdAt, w.updatedAt⟩ :
        WorkspaceSummary)
    pure ⟨summaries, workspaces.length, summaries.length, limit, offset⟩

/-- `McpDeleteWorkspaceRequest`. -/
structure McpDeleteWorkspaceRequest where
  workspaceId : Option Uuid
  deleteRemote : Option Bool
  deleteBranches : Option Bool
  deriving DecidableEq, Repr

/-- `McpDeleteWorkspaceResponse`. -/
structure McpDeleteWorkspaceResponse where
  success : Bool
  workspaceId : String
  deleteRemote : Bool
  deleteBranches : Bool
  deriving DecidableEq, Repr

/-- `delete_workspace`: the workspace is the given one, else the context's. -/
def TaskServer.deleteWorkspace (s : TaskServer) (req : McpDeleteWorkspaceRequest) :
    VkM (CallToolResult McpDeleteWorkspaceResponse) :=
  toolResult do
    let workspaceId ← (match req.workspaceId, s.context with
      | some id, _ => pure id
      | none, some ctx => pure ctx.workspaceId
      | none, none =>
        throw (err "workspace_id is required (not available from workspace context)" none) :
          ToolM Uuid)
    let deleteRemote := req.deleteRemote.getD false
    let deleteBranches := req.deleteBranches.getD false
    sendEmptyJson (.deleteWorkspace workspaceId deleteRemote deleteBranches)
    pure ⟨true, workspaceId.toString, deleteRemote, deleteBranches⟩

/-! ## Organizations and projects -/

/-- `OrganizationSummary`. -/
structure OrganizationSummary where
  id : String
  name : String
  slug : String
  isPersonal : Bool
  deriving DecidableEq, Repr

/-- `McpListOrganizationsResponse`. -/
structure McpListOrganizationsResponse where
  organizations : List OrganizationSummary
  count : Nat
  deriving DecidableEq, Repr

/-- `list_organizations`. -/
def listOrganizations : VkM (CallToolResult McpListOrganizationsResponse) :=
  toolResult do
    let organizations : List Organization ← sendJson .listOrganizations
    let summaries := organizations.map fun o =>
      (⟨o.id.toString, o.name, o.slug, o.isPersonal⟩ : OrganizationSummary)
    pure ⟨summaries, summaries.length⟩

/-- `OrganizationMemberSummary`. -/
structure OrganizationMemberSummary where
  userId : String
  role : String
  joinedAt : Nat
  firstName : Option String
  lastName : Option String
  username : Option String
  email : Option String
  avatarUrl : Option String
  deriving DecidableEq, Repr

/-- `McpListOrgMembersResponse`. -/
structure McpListOrgMembersResponse where
  organizationId : String
  members : List OrganizationMemberSummary
  count : Nat
  deriving DecidableEq, Repr

/-- `list_org_members`. -/
def TaskServer.listOrgMembers (s : TaskServer) (organizationId : Option Uuid) :
    VkM (CallToolResult McpListOrgMembersResponse) :=
  toolResult do
    let organizationId ← ofExcept (s.resolveOrganizationId organizationId)
    let members : List OrganizationMember ← sendJson (.listMembers organizationId)
    let summaries := members.map fun m =>
      (⟨m.userId.toString, toAsciiUppercase m.role, m.joinedAt, m.firstName, m.lastName,
        m.username, m.email, m.avatarUrl⟩ : OrganizationMemberSummary)
    pure ⟨organizationId.toString, summaries, summaries.length⟩

/-- `ProjectSummary`. -/
structure ProjectSummary where
  id : String
  name : String
  createdAt : Nat
  updatedAt : Nat
  deriving DecidableEq, Repr

/-- `McpListProjectsResponse`. -/
structure McpListProjectsResponse where
  projects : List ProjectSummary
  count : Nat
  deriving DecidableEq, Repr

/-- `list_projects`. -/
def listProjects (organizationId : Uuid) : VkM (CallToolResult McpListProjectsResponse) :=
  toolResult do
    let projects : List Project ← sendJson (.listProjects organizationId)
    let summaries := projects.map fun p =>
      (⟨p.id.toString, p.name, p.createdAt, p.updatedAt⟩ : ProjectSummary)
    pure ⟨summaries, summaries.length⟩

/-! ## Assignees and tags -/

/-- `IssueAssigneeSummary`. -/
structure IssueAssigneeSummary where
  id : String
  issueId : String
  userId : String
  assignedAt : Nat
  deriving DecidableEq, Repr

/-- `McpListIssueAssigneesResponse`. -/
structure McpListIssueAssigneesResponse where
  issueId : String
  issueAssignees : List IssueAssigneeSummary
  count : Nat
  deriving DecidableEq, Repr

/-- `list_issue_assignees`. -/
def listIssueAssignees (issueId : Uuid) : VkM (CallToolResult McpListIssueAssigneesResponse) :=
  toolResult do
    let assignees : List IssueAssignee ← sendJson (.listIssueAssignees issueId)
    let summaries := assignees.map fun a =>
      (⟨a.id.toString, a.issueId.toString, a.userId.toString, a.assignedAt⟩ : IssueAssigneeSummary)
    pure ⟨issueId.toString, summaries, summaries.length⟩

/-- `McpAssignIssueResponse`. -/
structure McpAssignIssueResponse where
  issueAssigneeId : String
  deriving DecidableEq, Repr

/-- `assign_issue`. -/
def assignIssue (issueId userId : Uuid) : VkM (CallToolResult McpAssignIssueResponse) :=
  toolResult do
    let response : IssueAssignee ← sendJson (.createIssueAssignee issueId userId)
    pure ⟨response.id.toString⟩

/-- `McpUnassignIssueResponse`. -/
structure McpUnassignIssueResponse where
  success : Bool
  issueAssigneeId : String
  deriving DecidableEq, Repr

/-- `unassign_issue`. -/
def unassignIssue (issueAssigneeId : Uuid) : VkM (CallToolResult McpUnassignIssueResponse) :=
  toolResult do
    sendEmptyJson (.deleteIssueAssignee issueAssigneeId)
    pure ⟨true, issueAssigneeId.toString⟩

/-- `TagSummary`. -/
structure TagSummary where
  id : String
  projectId : String
  name : String
  color : String
  deriving DecidableEq, Repr

/-- `McpListTagsResponse`. -/
structure McpListTagsResponse where
  projectId : String
  tags : List TagSummary
  count : Nat
  deriving DecidableEq, Repr

/-- `list_tags`. -/
def TaskServer.listTags (s : TaskServer) (projectId : Option Uuid) :
    VkM (CallToolResult McpListTagsResponse) :=
  toolResult do
    let projectId ← ofExcept (s.resolveProjectId projectId)
    let tags : List Tag ← sendJson (.listTags projectId)
    let summaries := tags.map fun t =>
      (⟨t.id.toString, t.projectId.toString, t.name, t.color⟩ : TagSummary)
    pure ⟨projectId.toString, summaries, summaries.length⟩

/-- `IssueTagSummary`. -/
structure IssueTagSummary where
  id : String
  issueId : String
  tagId : String
  deriving DecidableEq, Repr

/-- `McpListIssueTagsResponse`. -/
structure McpListIssueTagsResponse where
  issueId : String
  issueTags : List IssueTagSummary
  count : Nat
  deriving DecidableEq, Repr

/-- `list_issue_tags`. -/
def listIssueTags (issueId : Uuid) : VkM (CallToolResult McpListIssueTagsResponse) :=
  toolResult do
    let issueTags : List IssueTag ← sendJson (.listIssueTags issueId)
    let summaries := issueTags.map fun t =>
      (⟨t.id.toString, t.issueId.toString, t.tagId.toString⟩ : IssueTagSummary)
    pure ⟨issueId.toString, summaries, summaries.length⟩

/-- `McpAddIssueTagResponse`. -/
structure McpAddIssueTagResponse where
  issueTagId : String
  deriving DecidableEq, Repr

/-- `add_issue_tag`. -/
def addIssueTag (issueId tagId : Uuid) : VkM (CallToolResult McpAddIssueTagResponse) :=
  toolResult do
    let response : IssueTag ← sendJson (.createIssueTag issueId tagId)
    pure ⟨response.id.toString⟩

/-- `McpRemoveIssueTagResponse`. -/
structure McpRemoveIssueTagResponse where
  success : Bool
  issueTagId : String
  deriving DecidableEq, Repr

/-- `remove_issue_tag`. -/
def removeIssueTag (issueTagId : Uuid) : VkM (CallToolResult McpRemoveIssueTagResponse) :=
  toolResult do
    sendEmptyJson (.deleteIssueTag issueTagId)
    pure ⟨true, issueTagId.toString⟩

/-! ## Repositories -/

/-- `McpRepoSummary`. -/
structure McpRepoSummary where
  id : String
  name : String
  deriving DecidableEq, Repr

/-- `ListReposResponse`. -/
structure ListReposResponse where
  repos : List McpRepoSummary
  count : Nat
  deriving DecidableEq, Repr

/-- `list_repos`. -/
def listRepos : VkM (CallToolResult ListReposResponse) :=
  toolResult do
    let repos : List Db.Repo ← sendJson .listRepos
    let summaries := repos.map fun r => (⟨r.id.toString, r.name⟩ : McpRepoSummary)
    pure ⟨summaries, summaries.length⟩

/-- `RepoDetails`. -/
structure RepoDetails where
  id : String
  name : String
  displayName : String
  setupScript : Option String
  cleanupScript : Option String
  devServerScript : Option String
  deriving DecidableEq, Repr

/-- `get_repo`. -/
def getRepo (repoId : Uuid) : VkM (CallToolResult RepoDetails) :=
  toolResult do
    let repo : Db.Repo ← sendJson (.getRepo repoId)
    pure ⟨repo.id.toString, repo.name, repo.displayName, repo.setupScript, repo.cleanupScript,
      repo.devServerScript⟩

/-- `UpdateRepoScriptResponse`. -/
structure UpdateRepoScriptResponse where
  success : Bool
  repoId : String
  field : String
  deriving DecidableEq, Repr

/-- The three script updates: `PUT /api/repos/{id}` with the script under `field`, an empty
script as `null`. -/
def updateRepoScript (field : String) (repoId : Uuid) (script : String) :
    VkM (CallToolResult UpdateRepoScriptResponse) :=
  toolResult do
    let scriptValue := if script.isEmpty then none else some script
    let _repo : Db.Repo ← sendJson (.updateRepoScript repoId field scriptValue)
    pure ⟨true, repoId.toString, field⟩

/-- `update_setup_script`. -/
def updateSetupScript (repoId : Uuid) (script : String) :
    VkM (CallToolResult UpdateRepoScriptResponse) :=
  updateRepoScript "setup_script" repoId script

/-- `update_cleanup_script`. -/
def updateCleanupScript (repoId : Uuid) (script : String) :
    VkM (CallToolResult UpdateRepoScriptResponse) :=
  updateRepoScript "cleanup_script" repoId script

/-- `update_dev_server_script`. -/
def updateDevServerScript (repoId : Uuid) (script : String) :
    VkM (CallToolResult UpdateRepoScriptResponse) :=
  updateRepoScript "dev_server_script" repoId script

/-! ## Workspace sessions -/

/-- `McpWorkspaceRepoInput`. -/
structure McpWorkspaceRepoInput where
  repoId : Uuid
  baseBranch : String
  deriving DecidableEq, Repr

/-- `StartWorkspaceSessionRequest`. -/
structure StartWorkspaceSessionRequest where
  title : String
  promptOverride : Option String
  executor : String
  variant : Option String
  repos : List McpWorkspaceRepoInput
  issueId : Option Uuid
  deriving DecidableEq, Repr

/-- `StartWorkspaceSessionResponse`. -/
structure StartWorkspaceSessionResponse where
  workspaceId : String
  deriving DecidableEq, Repr

/-- `build_workspace_prompt_from_issue`: the trimmed title and description, either alone or
both separated by a blank line. -/
def buildWorkspacePromptFromIssue (issue : Issue) : Option String :=
  let title := trim issue.title
  let description := ((issue.description.map trim).filter fun d => !d.isEmpty).getD ""
  if title.isEmpty && description.isEmpty then none
  else if description.isEmpty then some title
  else if title.isEmpty then some description
  else some (title ++ "\n\n" ++ description)

/-- `start_workspace_session`: check the request, read the linked issue if any, create and start
the workspace, then link it to the issue. -/
def startWorkspaceSession (req : StartWorkspaceSessionRequest) :
    VkM (CallToolResult StartWorkspaceSessionResponse) :=
  toolResult do
    (if req.repos.isEmpty then throw (err "At least one repository must be specified." none)
      else pure () : ToolM Unit)
    let executorTrimmed := trim req.executor
    (if executorTrimmed.isEmpty then throw (err "Executor must not be empty." none)
      else pure () : ToolM Unit)
    let promptOverride := req.promptOverride.bind nonEmptyTrimmed
    let normalizedExecutor := toAsciiUppercase (replaceChar executorTrimmed '-' '_')
    let baseExecutor ← (match BaseCodingAgent.fromStr normalizedExecutor with
      | some e => pure e
      | none => throw (err ("Unknown executor '" ++ executorTrimmed ++ "'.") none) :
        ToolM BaseCodingAgent)
    let variant := req.variant.bind nonEmptyTrimmed
    let workspaceRepos := req.repos.map fun r => (⟨r.repoId, r.baseBranch⟩ : WorkspaceRepoInput)
    let linked ← (match req.issueId with
      | some issueId => do
        let issue : Issue ← sendJson (.getIssue issueId)
        pure (some ⟨issue.projectId, issueId⟩, buildWorkspacePromptFromIssue issue)
      | none => pure (none, none) : ToolM (Option LinkedIssueInfo × Option String))
    let workspacePrompt ← (match promptOverride.or linked.2 with
      | some prompt => pure prompt
      | none => throw (err
          "Provide `prompt_override`, or `issue_id` that has a non-empty title/description." none) :
        ToolM String)
    let created : Db.Workspace ← sendJson (.createAndStart
      ⟨some req.title, workspaceRepos, linked.1, ⟨baseExecutor, variant⟩, workspacePrompt⟩)
    (match req.issueId with
      | some issueId => linkWorkspaceToIssue created.id issueId
      | none => pure () : ToolM Unit)
    pure ⟨created.id.toString⟩

/-- `McpLinkWorkspaceResponse`. -/
structure McpLinkWorkspaceResponse where
  success : Bool
  workspaceId : String
  issueId : String
  deriving DecidableEq, Repr

/-- `link_workspace`. -/
def linkWorkspace (workspaceId issueId : Uuid) : VkM (CallToolResult McpLinkWorkspaceResponse) :=
  toolResult do
    linkWorkspaceToIssue workspaceId issueId
    pure ⟨true, workspaceId.toString, issueId.toString⟩

/-- `get_context`. -/
def getContext (context : McpContext) : VkM (CallToolResult McpContext) :=
  toolResult (pure context)

/-! ## The router -/

/-- A call of one of the registered tools, with its parameters. -/
inductive Tool
  | getContext
  | listWorkspaces (req : McpListWorkspacesRequest)
  | deleteWorkspace (req : McpDeleteWorkspaceRequest)
  | listOrganizations
  | listOrgMembers (organizationId : Option Uuid)
  | listProjects (organizationId : Uuid)
  | listIssuePriorities
  | listIssues (req : McpListIssuesRequest)
  | createIssue (req : McpCreateIssueRequest)
  | getIssue (issueId : Uuid)
  | updateIssue (req : McpUpdateIssueRequest)
  | deleteIssue (issueId : Uuid)
  | listIssueAssignees (issueId : Uuid)
  | assignIssue (issueId userId : Uuid)
  | unassignIssue (issueAssigneeId : Uuid)
  | listTags (projectId : Option Uuid)
  | listIssueTags (issueId : Uuid)
  | addIssueTag (issueId tagId : Uuid)
  | removeIssueTag (issueTagId : Uuid)
  | startWorkspaceSession (req : StartWorkspaceSessionRequest)
  | linkWorkspace (workspaceId issueId : Uuid)
  | listRepos
  | getRepo (repoId : Uuid)
  | updateSetupScript (repoId : Uuid) (script : String)
  | updateCleanupScript (repoId : Uuid) (script : String)
  | updateDevServerScript (repoId : Uuid) (script : String)

namespace Tool

/-- The response a successful call carries. -/
def Out : Tool → Type
  | .getContext => McpContext
  | .listWorkspaces _ => McpListWorkspacesResponse
  | .deleteWorkspace _ => McpDeleteWorkspaceResponse
  | .listOrganizations => McpListOrganizationsResponse
  | .listOrgMembers _ => McpListOrgMembersResponse
  | .listProjects _ => McpListProjectsResponse
  | .listIssuePriorities => McpListIssuePrioritiesResponse
  | .listIssues _ => McpListIssuesResponse
  | .createIssue _ => McpCreateIssueResponse
  | .getIssue _ | .updateIssue _ => McpIssueResponse
  | .deleteIssue _ => McpDeleteIssueResponse
  | .listIssueAssignees _ => McpListIssueAssigneesResponse
  | .assignIssue .. => McpAssignIssueResponse
  | .unassignIssue _ => McpUnassignIssueResponse
  | .listTags _ => McpListTagsResponse
  | .listIssueTags _ => McpListIssueTagsResponse
  | .addIssueTag .. => McpAddIssueTagResponse
  | .removeIssueTag _ => McpRemoveIssueTagResponse
  | .startWorkspaceSession _ => StartWorkspaceSessionResponse
  | .linkWorkspace .. => McpLinkWorkspaceResponse
  | .listRepos => ListReposResponse
  | .getRepo _ => RepoDetails
  | .updateSetupScript .. | .updateCleanupScript .. | .updateDevServerScript .. =>
    UpdateRepoScriptResponse

/-- The tool's name in the router. -/
def name : Tool → String
  | .getContext => "get_context"
  | .listWorkspaces _ => "list_workspaces"
  | .deleteWorkspace _ => "delete_workspace"
  | .listOrganizations => "list_organizations"
  | .listOrgMembers _ => "list_org_members"
  | .listProjects _ => "list_projects"
  | .listIssuePriorities => "list_issue_priorities"
  | .listIssues _ => "list_issues"
  | .createIssue _ => "create_issue"
  | .getIssue _ => "get_issue"
  | .updateIssue _ => "update_issue"
  | .deleteIssue _ => "delete_issue"
  | .listIssueAssignees _ => "list_issue_assignees"
  | .assignIssue .. => "assign_issue"
  | .unassignIssue _ => "unassign_issue"
  | .listTags _ => "list_tags"
  | .listIssueTags _ => "list_issue_tags"
  | .addIssueTag .. => "add_issue_tag"
  | .removeIssueTag _ => "remove_issue_tag"
  | .startWorkspaceSession _ => "start_workspace_session"
  | .linkWorkspace .. => "link_workspace"
  | .listRepos => "list_repos"
  | .getRepo _ => "get_repo"
  | .updateSetupScript .. => "update_setup_script"
  | .updateCleanupScript .. => "update_cleanup_script"
  | .updateDevServerScript .. => "update_dev_server_script"

end Tool

/-- The tool router: the handler a call runs, if its tool is registered. `init` removes
`get_context` when no context was found. -/
def TaskServer.handle (s : TaskServer) : (t : Tool) → Option (VkM (CallToolResult t.Out))
  | .getContext => s.context.map getContext
  | .listWorkspaces req => some (listWorkspaces req)
  | .deleteWorkspace req => some (s.deleteWorkspace req)
  | .listOrganizations => some listOrganizations
  | .listOrgMembers organizationId => some (s.listOrgMembers organizationId)
  | .listProjects organizationId => some (listProjects organizationId)
  | .listIssuePriorities => some listIssuePriorities
  | .listIssues req => some (s.listIssues req)
  | .createIssue req => some (s.createIssue req)
  | .getIssue issueId => some (getIssue issueId)
  | .updateIssue req => some (updateIssue req)
  | .deleteIssue issueId => some (deleteIssue issueId)
  | .listIssueAssignees issueId => some (listIssueAssignees issueId)
  | .assignIssue issueId userId => some (assignIssue issueId userId)
  | .unassignIssue issueAssigneeId => some (unassignIssue issueAssigneeId)
  | .listTags projectId => some (s.listTags projectId)
  | .listIssueTags issueId => some (listIssueTags issueId)
  | .addIssueTag issueId tagId => some (addIssueTag issueId tagId)
  | .removeIssueTag issueTagId => some (removeIssueTag issueTagId)
  | .startWorkspaceSession req => some (startWorkspaceSession req)
  | .linkWorkspace workspaceId issueId => some (linkWorkspace workspaceId issueId)
  | .listRepos => some listRepos
  | .getRepo repoId => some (getRepo repoId)
  | .updateSetupScript repoId script => some (updateSetupScript repoId script)
  | .updateCleanupScript repoId script => some (updateCleanupScript repoId script)
  | .updateDevServerScript repoId script => some (updateDevServerScript repoId script)

end AgentKanban.Mcp
