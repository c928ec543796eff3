import AgentKanban.Mcp.Server
import Mathlib.Data.List.Sort

/-!
# The issue tools

The tools of `remote_issues.rs`: `create_issue`, `list_issues`, `get_issue`, `update_issue`,
`list_issue_priorities` and `delete_issue`.

`list_issues` reads the project's issues, narrows them in the order the code does (parent,
search, simple id, status, priority, tags, assignee), sorts them by `updated_at` descending, and
returns one page of summaries. Its status map, its tag candidates and its two per-issue filters
are named stages.
-/

namespace AgentKanban.Mcp

/-! ## `create_issue` -/

/-- `McpCreateIssueRequest`. -/
structure McpCreateIssueRequest where
  projectId : Option Uuid
  title : String
  description : Option String
  priority : Option String
  parentIssueId : Option Uuid
  deriving DecidableEq, Repr

/-- `McpCreateIssueResponse`. -/
structure McpCreateIssueResponse where
  issueId : String
  deriving DecidableEq, Repr

/-- `create_issue`: resolve the project, expand the description, find the default status, parse
the priority, then post the issue. -/
def TaskServer.createIssue (s : TaskServer) (req : McpCreateIssueRequest) :
    VkM (CallToolResult McpCreateIssueResponse) :=
  toolResult do
    let projectId ← ofExcept (s.resolveProjectId req.projectId)
    let expandedDescription ← (match req.description with
      | some desc => some <$> expandTags desc
      | none => pure none : VkM (Option String))
    let statusId ← defaultStatusId projectId
    let priority ← (match req.priority with
      | some p => some <$> ofExcept (parseIssuePriority p)
      | none => pure none : ToolM (Option IssuePriority))
    let response : Issue ← sendJson (.createIssue
      ⟨projectId, statusId, req.title, expandedDescription, priority, req.parentIssueId⟩)
    pure ⟨response.id.toString⟩

/-! ## `list_issues` -/

/-- `McpListIssuesRequest`; `limit` and `offset` are `i32`. -/
structure McpListIssuesRequest where
  projectId : Option Uuid
  limit : Option Int
  offset : Option Int
  status : Option String
  priority : Option String
  parentIssueId : Option Uuid
  search : Option String
  simpleId : Option String
  assigneeUserId : Option Uuid
  tagId : Option Uuid
  tagName : Option String
  deriving DecidableEq, Repr

/-- `McpListIssuesResponse`. -/
structure McpListIssuesResponse where
  issues : List IssueSummary
  totalCount : Nat
  returnedCount : Nat
  limit : Nat
  offset : Nat
  projectId : String
  deriving DecidableEq, Repr

/-- The search filter: the lower-cased search in the lower-cased title or description. -/
def matchesSearch (search : String) (issue : Issue) : Bool :=
  let search := toAsciiLowercase search
  strContains (toAsciiLowercase issue.title) search ||
    (issue.description.map fun d => strContains (toAsciiLowercase d) search).getD false

/-- The status filter: the issue's name in the status map (empty if none) or its status id
equals `status` ignoring ASCII case. -/
def matchesStatus (statusNamesById : Option (List (Uuid × String))) (status : String)
    (issue : Issue) : Bool :=
  eqIgnoreAsciiCase ((statusNamesById.bind fun m => collectGet m issue.statusId).getD "") status ||
    eqIgnoreAsciiCase issue.statusId.toString status

/-- `status_names_by_id`: the statuses as a map; a failed request is an error only when a status
filter needs it. -/
def statusNamesById (projectId : Uuid) (status : Option String) :
    ToolM (Option (List (Uuid × String))) := do
  match ← ExceptT.lift (fetchProjectStatuses projectId).run with
  | .ok statuses => pure (some (statuses.map fun s => (s.id, s.name)))
  | .error e => if status.isSome then throw e else pure none

/-- `candidate_tag_ids`: `tag_id`, and with a tag name the ids of the tags of that name; when
both are given, `tag_id` only if it is one of them. -/
def candidateTagIds (tagId : Option Uuid) (matching : Option (List Uuid)) : List Uuid :=
  match matching with
  | none => tagId.toList
  | some m => if tagId.toList = [] then m else tagId.toList.filter (· ∈ m)

/-- The tag stage of `list_issues`. -/
def filterByTags (projectId : Uuid) (tagId : Option Uuid) (tagName : Option String)
    (issues : List Issue) : ToolM (List Issue) :=
  if tagId.isSome || tagName.isSome then do
    let matching ← (match tagName with
      | some name => do
        let tags : List Tag ← sendJson (.listTags projectId)
        pure (some ((tags.filter fun t => eqIgnoreAsciiCase t.name name).map (·.id)))
      | none => pure none : ToolM (Option (List Uuid)))
    let candidates := candidateTagIds tagId matching
    if candidates = [] then pure [] else filterIssuesByTagIds candidates issues
  else pure issues

/-- The priority stage of `list_issues`: an unknown priority is an error. -/
def filterByPriority (priority : Option String) (issues : List Issue) : ToolM (List Issue) :=
  match priority with
  | some p => do
    let priority ← ofExcept (parseIssuePriority p)
    pure (issues.filter (·.priority == some priority))
  | none => pure issues

/-- The assignee stage of `list_issues`. -/
def filterByAssignee (assigneeUserId : Option Uuid) (issues : List Issue) : ToolM (List Issue) :=
  match assigneeUserId with
  | some u => filterIssuesByAssignee u issues
  | none => pure issues

/-- `sort_by(|a, b| b.updated_at.cmp(&a.updated_at))`. The sort is stable, and a stable sort by
this order has one result, which `insertionSort` computes. -/
def sortByUpdatedAtDesc (issues : List Issue) : List Issue :=
  issues.insertionSort fun a b => b.updatedAt ≤ a.updatedAt

/-- The summaries of a page: one `fetch_pull_requests` per issue, in order. -/
def summarizePage (statusNames : Option (List (Uuid × String))) :
    List Issue → VkM (List IssueSummary)
  | [] => .pure []
  | issue :: rest =>
    VkM.bind (fetchPullRequests issue.id) fun prs =>
      VkM.bind (summarizePage statusNames rest) fun summaries =>
        .pure (issueToSummary issue statusNames prs :: summaries)

/-- `list_issues`. -/
def TaskServer.listIssues (s : TaskServer) (req : McpListIssuesRequest) :
    VkM (CallToolResult McpListIssuesResponse) :=
  toolResult do
    let projectId ← ofExcept (s.resolveProjectId req.projectId)
    let issues : List Issue ← sendJson (.listIssues projectId)
    let issues := retainIf req.parentIssueId (fun p i => i.parentIssueId == some p) issues
    let issues := retainIf req.search matchesSearch issues
    let issues := retainIf req.simpleId (fun sid i => eqIgnoreAsciiCase i.simpleId sid) issues
    let statusNames ← statusNamesById projectId req.status
    let issues := retainIf req.status (matchesStatus statusNames) issues
    let issues ← filterByPriority req.priority issues
    let issues ← filterByTags projectId req.tagId req.tagName issues
    let issues ← filterByAssignee req.assigneeUserId issues
    let issues := sortByUpdatedAtDesc issues
    let offset := (req.offset.getD 0).toNat
    let limit := (req.limit.getD 50).toNat
    let summaries ← (summarizePage statusNames ((issues.drop offset).take limit) : VkM _)
    pure ⟨summaries, issues.length, summaries.length, limit, offset, projectId.toString⟩

/-! ## `get_issue`, `update_issue`, `list_issue_priorities`, `delete_issue` -/

/-- `McpGetIssueResponse` and `McpUpdateIssueResponse`. -/
structure McpIssueResponse where
  issue : IssueDetails
  deriving DecidableEq, Repr

/-- `get_issue`. -/
def getIssue (issueId : Uuid) : VkM (CallToolResult McpIssueResponse) :=
  toolResult do
    let issue : Issue ← sendJson (.getIssue issueId)
    let pullRequests ← (fetchPullRequests issueId : VkM _)
    let details ← (issueToDetails issue pullRequests : VkM _)
    pure ⟨details⟩

/-- `McpUpdateIssueRequest`. -/
structure McpUpdateIssueRequest where
  issueId : Uuid
  title : Option String
  description : Option String
  status : Option String
  priority : Option String
  deriving DecidableEq, Repr

/-- `update_issue`: read the issue, resolve the status, expand the description, parse the
priority, then patch the issue. -/
def updateIssue (req : McpUpdateIssueRequest) : VkM (CallToolResult McpIssueResponse) :=
  toolResult do
    let existingIssue : Issue ← sendJson (.getIssue req.issueId)
    let statusId ← (match req.status with
      | some statusName => some <$> resolveStatusId existingIssue.projectId statusName
      | none => pure none : ToolM (Option Uuid))
    let expandedDescription ← (match req.description with
      | some desc => some <$> some <$> expandTags desc
      | none => pure none : VkM (Option (Option String)))
    let priority ← (match req.priority with
      | some p => (some ∘ some) <$> ofExcept (parseIssuePriority p)
      | none => pure none : ToolM (Option (Option IssuePriority)))
    let response : Issue ← sendJson (.updateIssue req.issueId
      ⟨statusId, req.title, expandedDescription, priority⟩)
    let pullRequests ← (fetchPullRequests req.issueId : VkM _)
    let details ← (issueToDetails response pullRequests : VkM _)
    pure ⟨details⟩

/-- `McpListIssuePrioritiesResponse`. -/
structure McpListIssuePrioritiesResponse where
  priorities : List String
  deriving DecidableEq, Repr

/-- `list_issue_priorities`. -/
def listIssuePriorities : VkM (CallToolResult McpListIssuePrioritiesResponse) :=
  toolResult (pure ⟨["urgent", "high", "medium", "low"]⟩)

/-- `McpDeleteIssueResponse`. -/
structure McpDeleteIssueResponse where
  deletedIssueId : Option String
  deriving DecidableEq, Repr

/-- `delete_issue`. -/
def deleteIssue (issueId : Uuid) : VkM (CallToolResult McpDeleteIssueResponse) :=
  toolResult do
    sendEmptyJson (.deleteIssue issueId)
    pure ⟨some issueId.toString⟩

end AgentKanban.Mcp
