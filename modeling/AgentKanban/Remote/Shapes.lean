import AgentKanban.Basic

/-!
# The shapes

A shape is one fixed row set: a table, a predicate over `$1, $2, …` placeholders, the URL of
its stream route, and the names of its parameters in binding order (`ShapeDefinition<T>`; the
row type `T` only drives code generation and is left out). The sixteen constants of
`shapes.rs` follow.

`placeholdersMatch` is the registry's well-formedness: the placeholders of the predicate are
exactly `$1 … $n` for `n` parameters (`placeholdersMatch_iff`).
-/

namespace AgentKanban.Remote

/-- `ShapeDefinition`: what `ShapeExport` exposes. -/
structure ShapeDefinition where
  name : String
  table : String
  whereClause : String
  url : String
  params : List String
  deriving DecidableEq, Repr

/-! ## Placeholders -/

/-- The decimal digits at the front of `cs`. -/
def leadingDigits (cs : List Char) : List Char := cs.takeWhile Char.isDigit

/-- The value of a string of decimal digits. -/
def digitsValue (ds : List Char) : Nat := ds.foldl (fun n d => 10 * n + (d.toNat - '0'.toNat)) 0

/-- The ordinals of the `$n` placeholders of a predicate, in order of appearance. -/
def placeholders : List Char → List Nat
  | [] => []
  | c :: cs =>
    (if c = '$' ∧ leadingDigits cs ≠ [] then [digitsValue (leadingDigits cs)] else []) ++
      placeholders cs

/-- Every placeholder is one of `$1 … $n`, and each of them occurs. -/
def ShapeDefinition.placeholdersMatch (s : ShapeDefinition) : Bool :=
  (placeholders s.whereClause.data).all (fun i => 1 ≤ i && i ≤ s.params.length) &&
    (List.range' 1 s.params.length).all (· ∈ placeholders s.whereClause.data)

theorem ShapeDefinition.placeholdersMatch_iff (s : ShapeDefinition) :
    s.placeholdersMatch = true ↔
      ∀ i, i ∈ placeholders s.whereClause.data ↔ 1 ≤ i ∧ i ≤ s.params.length := by
  simp only [placeholdersMatch, Bool.and_eq_true, List.all_eq_true, decide_eq_true_eq,
    List.mem_range'_1, Bool.and_eq_true]
  constructor
  · rintro ⟨h1, h2⟩ i
    exact ⟨fun hi => h1 i hi, fun hi => h2 i ⟨hi.1, by omega⟩⟩
  · intro h
    exact ⟨fun i hi => (h i).1 hi, fun i hi => (h i).2 ⟨hi.1, by omega⟩⟩

/-! ## Organization-scoped shapes -/

/-- `PROJECTS_SHAPE`. -/
def projectsShape : ShapeDefinition :=
  ⟨"PROJECTS_SHAPE", "projects", "\"organization_id\" = $1", "/shape/projects",
    ["organization_id"]⟩

/-- `NOTIFICATIONS_SHAPE`. -/
def notificationsShape : ShapeDefinition :=
  ⟨"NOTIFICATIONS_SHAPE", "notifications", "\"organization_id\" = $1 AND \"user_id\" = $2",
    "/shape/notifications", ["organization_id", "user_id"]⟩

/-- `ORGANIZATION_MEMBERS_SHAPE`. -/
def organizationMembersShape : ShapeDefinition :=
  ⟨"ORGANIZATION_MEMBERS_SHAPE", "organization_member_metadata", "\"organization_id\" = $1",
    "/shape/organization_members", ["organization_id"]⟩

/-- `USERS_SHAPE`. -/
def usersShape : ShapeDefinition :=
  ⟨"USERS_SHAPE", "users",
    "\"id\" IN (SELECT user_id FROM organization_member_metadata WHERE \"organization_id\" = $1)",
    "/shape/users", ["organization_id"]⟩

/-! ## Project-scoped shapes -/

/-- `PROJECT_TAGS_SHAPE`. -/
def projectTagsShape : ShapeDefinition :=
  ⟨"PROJECT_TAGS_SHAPE", "tags", "\"project_id\" = $1", "/shape/project/{project_id}/tags",
    ["project_id"]⟩

/-- `PROJECT_PROJECT_STATUSES_SHAPE`. -/
def projectProjectStatusesShape : ShapeDefinition :=
  ⟨"PROJECT_PROJECT_STATUSES_SHAPE", "project_statuses", "\"project_id\" = $1",
    "/shape/project/{project_id}/project_statuses", ["project_id"]⟩

/-- `PROJECT_ISSUES_SHAPE`. -/
def projectIssuesShape : ShapeDefinition :=
  ⟨"PROJECT_ISSUES_SHAPE", "issues", "\"project_id\" = $1", "/shape/project/{project_id}/issues",
    ["project_id"]⟩

/-- `USER_WORKSPACES_SHAPE`. -/
def userWorkspacesShape : ShapeDefinition :=
  ⟨"USER_WORKSPACES_SHAPE", "workspaces", "\"owner_user_id\" = $1", "/shape/user/workspaces",
    ["owner_user_id"]⟩

/-- `PROJECT_WORKSPACES_SHAPE`. -/
def projectWorkspacesShape : ShapeDefinition :=
  ⟨"PROJECT_WORKSPACES_SHAPE", "workspaces", "\"project_id\" = $1",
    "/shape/project/{project_id}/workspaces", ["project_id"]⟩

/-! ## Issue-related shapes, streamed at project level -/

/-- `PROJECT_ISSUE_ASSIGNEES_SHAPE`. -/
def projectIssueAssigneesShape : ShapeDefinition :=
  ⟨"PROJECT_ISSUE_ASSIGNEES_SHAPE", "issue_assignees",
    "\"issue_id\" IN (SELECT id FROM issues WHERE \"project_id\" = $1)",
    "/shape/project/{project_id}/issue_assignees", ["project_id"]⟩

/-- `PROJECT_ISSUE_FOLLOWERS_SHAPE`. -/
def projectIssueFollowersShape : ShapeDefinition :=
  ⟨"PROJECT_ISSUE_FOLLOWERS_SHAPE", "issue_followers",
    "\"issue_id\" IN (SELECT id FROM issues WHERE \"project_id\" = $1)",
    "/shape/project/{project_id}/issue_followers", ["project_id"]⟩

/-- `PROJECT_ISSUE_TAGS_SHAPE`. -/
def projectIssueTagsShape : ShapeDefinition :=
  ⟨"PROJECT_ISSUE_TAGS_SHAPE", "issue_tags",
    "\"issue_id\" IN (SELECT id FROM issues WHERE \"project_id\" = $1)",
    "/shape/project/{project_id}/issue_tags", ["project_id"]⟩

/-- `PROJECT_ISSUE_RELATIONSHIPS_SHAPE`. -/
def projectIssueRelationshipsShape : ShapeDefinition :=
  ⟨"PROJECT_ISSUE_RELATIONSHIPS_SHAPE", "issue_relationships",
    "\"issue_id\" IN (SELECT id FROM issues WHERE \"project_id\" = $1)",
    "/shape/project/{project_id}/issue_relationships", ["project_id"]⟩

/-- `PROJECT_PULL_REQUESTS_SHAPE`. -/
def projectPullRequestsShape : ShapeDefinition :=
  ⟨"PROJECT_PULL_REQUESTS_SHAPE", "pull_requests",
    "\"issue_id\" IN (SELECT id FROM issues WHERE \"project_id\" = $1)",
    "/shape/project/{project_id}/pull_requests", ["project_id"]⟩

/-! ## Issue-scoped shapes -/

/-- `ISSUE_COMMENTS_SHAPE`. -/
def issueCommentsShape : ShapeDefinition :=
  ⟨"ISSUE_COMMENTS_SHAPE", "issue_comments", "\"issue_id\" = $1",
    "/shape/issue/{issue_id}/comments", ["issue_id"]⟩

/-- `ISSUE_REACTIONS_SHAPE`. -/
def issueReactionsShape : ShapeDefinition :=
  ⟨"ISSUE_REACTIONS_SHAPE", "issue_comment_reactions",
    "\"comment_id\" IN (SELECT id FROM issue_comments WHERE \"issue_id\" = $1)",
    "/shape/issue/{issue_id}/reactions", ["issue_id"]⟩

end AgentKanban.Remote
