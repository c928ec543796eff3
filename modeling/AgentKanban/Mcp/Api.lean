import AgentKanban.Basic

/-!
# The VK API as the task server meets it

The MCP task server's tools are clients of the VK REST API. A tool is a program over requests:
each request (`ApiCall`) has a method, a path and a payload, and the type its `data` decodes to;
what comes back (`Outcome`) is no connection, or a status and a body that did or did not parse as
the `ApiResponseEnvelope`.

`VkM` is the free monad over requests. `VkM.run` answers the `n`-th request of a run from an
`Oracle`, so a statement over every oracle is a statement over every sequence of outcomes. A run
records each request with its outcome (`Exchange`); a request is accepted when the send function
that issued it returns its data (`ApiCall.accepts`).
-/

namespace AgentKanban.Mcp

/-! ## Records -/

/-- `IssuePriority`. -/
inductive IssuePriority
  | urgent
  | high
  | medium
  | low
  deriving DecidableEq, Repr

/-- `api_types::Issue`, with the fields the tools read. Timestamps are numbers. -/
structure Issue where
  id : Uuid
  projectId : Uuid
  statusId : Uuid
  simpleId : String
  title : String
  description : Option String
  priority : Option IssuePriority
  parentIssueId : Option Uuid
  startDate : Option Nat
  targetDate : Option Nat
  completedAt : Option Nat
  createdAt : Nat
  updatedAt : Nat
  deriving DecidableEq, Repr

/-- `api_types::ProjectStatus`. -/
structure ProjectStatus where
  id : Uuid
  name : String
  hidden : Bool
  sortOrder : Int
  deriving DecidableEq, Repr

/-- `api_types::Tag`. -/
structure Tag where
  id : Uuid
  projectId : Uuid
  name : String
  color : String
  deriving DecidableEq, Repr

/-- `api_types::IssueTag`. -/
structure IssueTag where
  id : Uuid
  issueId : Uuid
  tagId : Uuid
  deriving DecidableEq, Repr

/-- `api_types::IssueAssignee`. -/
structure IssueAssignee where
  id : Uuid
  issueId : Uuid
  userId : Uuid
  assignedAt : Nat
  deriving DecidableEq, Repr

/-- `PullRequestStatus`. -/
inductive PullRequestStatus
  | «open»
  | merged
  | closed
  deriving DecidableEq, Repr

/-- `api_types::PullRequest`. -/
structure PullRequest where
  number : Int
  url : String
  status : PullRequestStatus
  mergedAt : Option Nat
  targetBranchName : String
  deriving DecidableEq, Repr

/-- `api_types::Organization`. -/
structure Organization where
  id : Uuid
  name : String
  slug : String
  isPersonal : Bool
  deriving DecidableEq, Repr

/-- An organization member; `role` is the role's `Debug` text. -/
structure OrganizationMember where
  userId : Uuid
  role : String
  joinedAt : Nat
  firstName : Option String
  lastName : Option String
  username : Option String
  email : Option String
  avatarUrl : Option String
  deriving DecidableEq, Repr

/-- `api_types::Project`. -/
structure Project where
  id : Uuid
  organizationId : Uuid
  name : String
  createdAt : Nat
  updatedAt : Nat
  deriving DecidableEq, Repr

/-- `api_types::Workspace`, the remote workspace of a local one, with the fields startup reads. -/
structure Workspace where
  projectId : Uuid
  issueId : Option Uuid
  deriving DecidableEq, Repr

/-- `db::models::repo::Repo`. -/
structure Db.Repo where
  id : Uuid
  name : String
  displayName : String
  setupScript : Option String
  cleanupScript : Option String
  devServerScript : Option String
  deriving DecidableEq, Repr

/-- `db::models::workspace::Workspace`. -/
structure Db.Workspace where
  id : Uuid
  branch : String
  archived : Bool
  pinned : Bool
  name : Option String
  createdAt : Nat
  updatedAt : Nat
  deriving DecidableEq, Repr

/-- A repository of a workspace with its target branch (`RepoWithTargetBranch`). -/
structure Db.RepoWithTargetBranch where
  repo : Db.Repo
  targetBranch : String
  deriving DecidableEq, Repr

/-- `db::models::workspace::WorkspaceContext`, with the fields startup reads. -/
structure Db.WorkspaceContext where
  workspace : Db.Workspace
  workspaceRepos : List Db.RepoWithTargetBranch
  deriving DecidableEq, Repr

/-- `db::models::tag::Tag`: a text snippet that `@name` expands to. -/
structure Db.Tag where
  tagName : String
  content : String
  deriving DecidableEq, Repr

/-- Modelled from the spec: `executors::BaseCodingAgent` is not among the repository's files;
its variants are those the `executor` parameter's description lists. -/
inductive BaseCodingAgent
  | claudeCode
  | amp
  | gemini
  | codex
  | opencode
  | cursorAgent
  | qwenCode
  | copilot
  | droid
  deriving DecidableEq, Repr

/-- Modelled from the spec: `BaseCodingAgent::from_str` accepts exactly the variant names. -/
def BaseCodingAgent.fromStr : String → Option BaseCodingAgent
  | "CLAUDE_CODE" => some .claudeCode
  | "AMP" => some .amp
  | "GEMINI" => some .gemini
  | "CODEX" => some .codex
  | "OPENCODE" => some .opencode
  | "CURSOR_AGENT" => some .cursorAgent
  | "QWEN_CODE" => some .qwenCode
  | "COPILOT" => some .copilot
  | "DROID" => some .droid
  | _ => none

/-! ## Payloads -/

/-- `CreateIssueRequest`, the fields the tool sets (the others are `None`, `0.0` or `{}`). -/
structure CreateIssueRequest where
  projectId : Uuid
  statusId : Uuid
  title : String
  description : Option String
  priority : Option IssuePriority
  parentIssueId : Option Uuid
  deriving DecidableEq, Repr

/-- `UpdateIssueRequest`, the fields the tool sets (the others are `None`). -/
structure UpdateIssueRequest where
  statusId : Option Uuid
  title : Option String
  description : Option (Option String)
  priority : Option (Option IssuePriority)
  deriving DecidableEq, Repr

/-- `LinkedIssueInfo`. -/
structure LinkedIssueInfo where
  remoteProjectId : Uuid
  issueId : Uuid
  deriving DecidableEq, Repr

/-- `WorkspaceRepoInput`. -/
structure WorkspaceRepoInput where
  repoId : Uuid
  targetBranch : String
  deriving DecidableEq, Repr

/-- `ExecutorConfig`, the fields the tool sets (the others are `None`). -/
structure ExecutorConfig where
  executor : BaseCodingAgent
  variant : Option String
  deriving DecidableEq, Repr

/-- `CreateAndStartWorkspaceRequest`. -/
structure CreateAndStartWorkspaceRequest where
  name : Option String
  repos : List WorkspaceRepoInput
  linkedIssue : Option LinkedIssueInfo
  executorConfig : ExecutorConfig
  prompt : String
  deriving DecidableEq, Repr

/-! ## Requests -/

/-- The HTTP methods the tools use. -/
inductive Method
  | get
  | post
  | put
  | patch
  | delete
  deriving DecidableEq, Repr

/-- A method that changes server state. -/
def Method.isMutating : Method → Bool
  | .get => false
  | _ => true

/-- The requests the tools send, each with the ids and payload it carries. -/
inductive ApiCall
  | listWorkspaces
  | deleteWorkspace (workspaceId : Uuid) (deleteRemote deleteBranches : Bool)
  | createAndStart (payload : CreateAndStartWorkspaceRequest)
  | linkWorkspace (workspaceId projectId issueId : Uuid)
  | listOrganizations
  | listMembers (organizationId : Uuid)
  | listProjects (organizationId : Uuid)
  | listIssues (projectId : Uuid)
  | getIssue (issueId : Uuid)
  | createIssue (payload : CreateIssueRequest)
  | updateIssue (issueId : Uuid) (payload : UpdateIssueRequest)
  | deleteIssue (issueId : Uuid)
  | listProjectStatuses (projectId : Uuid)
  | listTags (projectId : Uuid)
  | listIssueTags (issueId : Uuid)
  | createIssueTag (issueId tagId : Uuid)
  | deleteIssueTag (issueTagId : Uuid)
  | listIssueAssignees (issueId : Uuid)
  | createIssueAssignee (issueId userId : Uuid)
  | deleteIssueAssignee (issueAssigneeId : Uuid)
  | listPullRequests (issueId : Uuid)
  | listRepos
  | getRepo (repoId : Uuid)
  | updateRepoScript (repoId : Uuid) (field : String) (script : Option String)
  | listLocalTags
  | attemptContext (containerRef : String)
  | remoteWorkspaceByLocalId (localWorkspaceId : Uuid)
  | getRemoteProject (projectId : Uuid)
  deriving DecidableEq, Repr

namespace ApiCall

/-- The request's method. -/
def method : ApiCall → Method
  | .deleteWorkspace .. | .deleteIssue _ | .deleteIssueTag _ | .deleteIssueAssignee _ => .delete
  | .createAndStart _ | .linkWorkspace .. | .createIssue _ | .createIssueTag ..
  | .createIssueAssignee .. => .post
  | .updateIssue .. => .patch
  | .updateRepoScript .. => .put
  | _ => .get

/-- The request's path and query, as the tools format them (the attempt-context lookup sends its
container reference as the query `ref`). -/
def path : ApiCall → String
  | .listWorkspaces => "/api/task-attempts"
  | .deleteWorkspace w r b => s!"/api/task-attempts/{w}?delete_remote={r}&delete_branches={b}"
  | .createAndStart _ => "/api/task-attempts/create-and-start"
  | .linkWorkspace w _ _ => s!"/api/task-attempts/{w}/link"
  | .listOrganizations => "/api/organizations"
  | .listMembers o => s!"/api/organizations/{o}/members"
  | .listProjects o => s!"/api/remote/projects?organization_id={o}"
  | .listIssues p => s!"/api/remote/issues?project_id={p}"
  | .getIssue i | .updateIssue i _ | .deleteIssue i => s!"/api/remote/issues/{i}"
  | .createIssue _ => "/api/remote/issues"
  | .listProjectStatuses p => s!"/api/remote/project-statuses?project_id={p}"
  | .listTags p => s!"/api/remote/tags?project_id={p}"
  | .listIssueTags i => s!"/api/remote/issue-tags?issue_id={i}"
  | .createIssueTag .. => "/api/remote/issue-tags"
  | .deleteIssueTag t => s!"/api/remote/issue-tags/{t}"
  | .listIssueAssignees i => s!"/api/remote/issue-assignees?issue_id={i}"
  | .createIssueAssignee .. => "/api/remote/issue-assignees"
  | .deleteIssueAssignee a => s!"/api/remote/issue-assignees/{a}"
  | .listPullRequests i => s!"/api/remote/pull-requests?issue_id={i}"
  | .listRepos => "/api/repos"
  | .getRepo r | .updateRepoScript r _ _ => s!"/api/repos/{r}"
  | .listLocalTags => "/api/tags"
  | .attemptContext _ => "/api/containers/attempt-context"
  | .remoteWorkspaceByLocalId w => s!"/api/remote/workspaces/by-local-id/{w}"
  | .getRemoteProject p => s!"/api/remote/projects/{p}"

/-- The type the `data` of the answer decodes to (a one-field response such as
`ListIssuesResponse` is its field; `MutationResponse` its `data`). Requests sent with
`send_empty_json` read no data. -/
def Data : ApiCall → Type
  | .listWorkspaces => List Db.Workspace
  | .createAndStart _ => Db.Workspace
  | .listOrganizations => List Organization
  | .listMembers _ => List OrganizationMember
  | .listProjects _ => List Project
  | .listIssues _ => List Issue
  | .getIssue _ | .createIssue _ | .updateIssue .. => Issue
  | .listProjectStatuses _ => List ProjectStatus
  | .listTags _ => List Tag
  | .listIssueTags _ => List IssueTag
  | .createIssueTag .. => IssueTag
  | .listIssueAssignees _ => List IssueAssignee
  | .createIssueAssignee .. => IssueAssignee
  | .listPullRequests _ => List PullRequest
  | .listRepos => List Db.Repo
  | .getRepo _ | .updateRepoScript .. => Db.Repo
  | .listLocalTags => List Db.Tag
  | .attemptContext _ => Db.WorkspaceContext
  | .remoteWorkspaceByLocalId _ => Workspace
  | .getRemoteProject _ => Project
  | .deleteWorkspace .. | .linkWorkspace .. | .deleteIssue _ | .deleteIssueTag _
  | .deleteIssueAssignee _ => Unit

/-- Whether the tools send the request with `send_json` (which needs the `data` field) rather
than `send_empty_json`. -/
def expectsData : ApiCall → Bool
  | .deleteWorkspace .. | .linkWorkspace .. | .deleteIssue _ | .deleteIssueTag _
  | .deleteIssueAssignee _ => false
  | _ => true

/-- A request that changes server state. -/
def mutating (c : ApiCall) : Bool := c.method.isMutating

end ApiCall

/-! ## Outcomes -/

/-- `reqwest::StatusCode`: the code, and its canonical reason if it has one. -/
structure StatusCode where
  code : Nat
  canonicalReason : Option String
  deriving DecidableEq, Repr

/-- `StatusCode::is_success`. -/
def StatusCode.isSuccess (s : StatusCode) : Bool := 200 ≤ s.code && s.code < 300

/-- `StatusCode`'s `Display`: the code, then the reason. -/
def StatusCode.display (s : StatusCode) : String :=
  toString s.code ++ " " ++ s.canonicalReason.getD "<unknown status code>"

/-- `ApiResponseEnvelope`. -/
structure ApiResponseEnvelope (α : Type) where
  success : Bool
  data : Option α
  message : Option String

/-- What one request gets: no connection, or a status and a body, parsed or not. -/
inductive Outcome (α : Type)
  | connectFailed (err : String)
  | answered (status : StatusCode) (body : Except String (ApiResponseEnvelope α))

/-- A `200 OK` answer with `success: true` and the data. -/
def Outcome.okWith {α : Type} (d : α) : Outcome α :=
  .answered ⟨200, some "OK"⟩ (.ok ⟨true, some d, none⟩)

/-- The request was answered successfully: what its send function returns data for. -/
def ApiCall.accepts (c : ApiCall) : Outcome c.Data → Bool
  | .answered s (.ok env) => s.isSuccess && env.success && (!c.expectsData || env.data.isSome)
  | _ => false

/-- A request with its outcome. -/
structure Exchange where
  call : ApiCall
  outcome : Outcome call.Data

/-- A mutating request that was answered successfully. -/
def Exchange.commits (x : Exchange) : Bool := x.call.mutating && x.call.accepts x.outcome

/-! ## Programs over requests -/

/-- Programs that send requests to the VK API. -/
inductive VkM (α : Type)
  | pure (a : α)
  | call (c : ApiCall) (k : Outcome c.Data → VkM α)

namespace VkM

/-- Sequencing. -/
def bind {α β : Type} : VkM α → (α → VkM β) → VkM β
  | .pure a, f => f a
  | .call c k, f => .call c fun o => (k o).bind f

instance : Monad VkM where
  pure := .pure
  bind := bind

@[simp] theorem pure_eq {α : Type} (a : α) : (Pure.pure a : VkM α) = .pure a := rfl

@[simp] theorem bind_eq {α β : Type} (x : VkM α) (f : α → VkM β) : x >>= f = x.bind f := rfl

@[simp] theorem pure_bind {α β : Type} (a : α) (f : α → VkM β) : (VkM.pure a).bind f = f a := rfl

@[simp] theorem call_bind {α β : Type} (c : ApiCall) (k : Outcome c.Data → VkM α)
    (f : α → VkM β) : (VkM.call c k).bind f = .call c fun o => (k o).bind f := rfl

theorem bind_assoc {α β γ : Type} (x : VkM α) (f : α → VkM β) (g : β → VkM γ) :
    (x.bind f).bind g = x.bind fun a => (f a).bind g := by
  induction x with
  | pure a => rfl
  | call c k ih => simp only [call_bind, ih]

/-- Send one request and return its outcome. -/
def send (c : ApiCall) : VkM (Outcome c.Data) := .call c .pure

/-- The VK API: the outcome of the `n`-th request of a run. -/
def Oracle : Type := Nat → (c : ApiCall) → Outcome c.Data

/-- Run a program from its `n`-th request on: its result, and the requests with their outcomes. -/
def run {α : Type} (o : Oracle) : VkM α → Nat → α × List Exchange
  | .pure a, _ => (a, [])
  | .call c k, n =>
    let r := (k (o n c)).run o (n + 1)
    (r.1, ⟨c, o n c⟩ :: r.2)

end VkM

end AgentKanban.Mcp
