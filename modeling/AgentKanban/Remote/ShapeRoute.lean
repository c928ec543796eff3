import AgentKanban.Remote.ElectricProxy

/-!
# Shape routes: the stream handler and its fallback

`ShapeRoute::new` pairs a shape with an authorization scope and a REST fallback and registers
both routes; `all_shape_routes` registers the sixteen shapes.

The database is the data store the two paths share: the access relations it decides, and the
rows each repository query returns. The db-level checks `assert_*` (stream path) and the
route-level checks `ensure_*` (fallback path) are not among the repository's files; both are
modelled from the spec as deciding one access relation per scope. A fallback handler is a
program over the database (`RepoM`): it can read the store only through the queries it makes.

`shape_routes_authorize_alike`: for every route, user, scope key and store, the stream handler
calls `proxy_table` with the ids the scope binds exactly when the scope's relation holds (else
403, nothing sent upstream); the fallback then makes one query, with those ids, to the
repository function that lists the shape's table by the scope's kind of ids (`RepoFn.table`,
`RepoFn.scope`, which determine it), and answers the store's rows for it under the table's name
(else the check's error, nothing queried).
-/

namespace AgentKanban.Remote

/-! ## The data store -/

/-- Modelled from the spec: the authorization collaborator behind
`organization_members::assert_membership`, `assert_project_access`, `assert_issue_access` and
the route-level `ensure_member_access`, `ensure_project_access`, `ensure_issue_access`. One
relation per scope kind; `dbDenial` is the text of the db-level error (only logged), and
`routeDenial` the answer of the route-level check. -/
structure AccessPolicy where
  isMember : Uuid → Uuid → Bool
  hasProjectAccess : Uuid → Uuid → Bool
  hasIssueAccess : Uuid → Uuid → Bool
  dbDenial : String
  routeDenial : ErrorResponse

/-- The repository functions the fallback handlers call. -/
inductive RepoFn
  | projectListByOrganization
  | notificationListByOrganizationAndUser
  | organizationMembersListByOrganization
  | organizationMembersListUsersByOrganization
  | tagListByProject
  | projectStatusListByProject
  | issueListByProject
  | workspaceListByProject
  | workspaceListByOwner
  | issueAssigneeListByProject
  | issueFollowerListByProject
  | issueTagListByProject
  | issueRelationshipListByProject
  | pullRequestListByProject
  | issueCommentListByIssue
  | issueCommentReactionListByIssue
  deriving DecidableEq, Repr

/-- A repository query: the function and the ids it is called with, in order. -/
structure RepoCall where
  fn : RepoFn
  args : List Uuid
  deriving DecidableEq, Repr

/-- The database behind `state.pool()`: its access relations, and what each repository query
returns (rows, or a database error). -/
structure DataStore (Row : Type) where
  access : AccessPolicy
  list : RepoCall → Except String (List Row)

/-- An authorization check: pass, or fail with `err`. -/
def check {ε : Type} (allowed : Bool) (err : ε) : Except ε Unit :=
  if allowed then .ok () else .error err

/-- Modelled from the spec: `organization_members::assert_membership`. -/
def assertMembership (p : AccessPolicy) (organizationId userId : Uuid) : Except String Unit :=
  check (p.isMember organizationId userId) p.dbDenial

/-- Modelled from the spec: `organization_members::assert_project_access`. -/
def assertProjectAccess (p : AccessPolicy) (projectId userId : Uuid) : Except String Unit :=
  check (p.hasProjectAccess projectId userId) p.dbDenial

/-- Modelled from the spec: `organization_members::assert_issue_access`. -/
def assertIssueAccess (p : AccessPolicy) (issueId userId : Uuid) : Except String Unit :=
  check (p.hasIssueAccess issueId userId) p.dbDenial

/-- Modelled from the spec: `ensure_member_access`. -/
def ensureMemberAccess (p : AccessPolicy) (organizationId userId : Uuid) :
    Except ErrorResponse Unit :=
  check (p.isMember organizationId userId) p.routeDenial

/-- Modelled from the spec: `ensure_project_access` (the user first). -/
def ensureProjectAccess (p : AccessPolicy) (userId projectId : Uuid) : Except ErrorResponse Unit :=
  check (p.hasProjectAccess projectId userId) p.routeDenial

/-- Modelled from the spec: `ensure_issue_access` (the user first). -/
def ensureIssueAccess (p : AccessPolicy) (userId issueId : Uuid) : Except ErrorResponse Unit :=
  check (p.hasIssueAccess issueId userId) p.routeDenial

/-! ## Scopes and the stream handler -/

/-- `ShapeScope`. -/
inductive ShapeScope
  | org
  | orgWithUser
  | project
  | issue
  | user
  deriving DecidableEq, Repr

/-- The user a request is authenticated as. -/
structure User where
  id : Uuid

/-- `RequestContext`. -/
structure RequestContext where
  user : User

/-- The relation a scope's check decides, for a user and a scope key. -/
def ShapeScope.allows (p : AccessPolicy) (userId key : Uuid) : ShapeScope → Bool
  | .org | .orgWithUser => p.isMember key userId
  | .project => p.hasProjectAccess key userId
  | .issue => p.hasIssueAccess key userId
  | .user => true

/-- The ids a scope binds to the placeholders, in order. -/
def ShapeScope.boundIds (userId key : Uuid) : ShapeScope → List Uuid
  | .org | .project | .issue => [key]
  | .orgWithUser => [key, userId]
  | .user => [userId]

/-- Modelled from the repository functions' names: the table whose rows each one lists. -/
def RepoFn.table : RepoFn → String
  | .projectListByOrganization => "projects"
  | .notificationListByOrganizationAndUser => "notifications"
  | .organizationMembersListByOrganization => "organization_member_metadata"
  | .organizationMembersListUsersByOrganization => "users"
  | .tagListByProject => "tags"
  | .projectStatusListByProject => "project_statuses"
  | .issueListByProject => "issues"
  | .workspaceListByProject | .workspaceListByOwner => "workspaces"
  | .issueAssigneeListByProject => "issue_assignees"
  | .issueFollowerListByProject => "issue_followers"
  | .issueTagListByProject => "issue_tags"
  | .issueRelationshipListByProject => "issue_relationships"
  | .pullRequestListByProject => "pull_requests"
  | .issueCommentListByIssue => "issue_comments"
  | .issueCommentReactionListByIssue => "issue_comment_reactions"

/-- Modelled from the repository functions' names: the kind of ids each one lists by
(`list_by_organization_and_user` by an organization and a user, `list_by_owner` by a user). -/
def RepoFn.scope : RepoFn → ShapeScope
  | .projectListByOrganization | .organizationMembersListByOrganization
  | .organizationMembersListUsersByOrganization => .org
  | .notificationListByOrganizationAndUser => .orgWithUser
  | .workspaceListByOwner => .user
  | .issueCommentListByIssue | .issueCommentReactionListByIssue => .issue
  | .tagListByProject | .projectStatusListByProject | .issueListByProject
  | .workspaceListByProject | .issueAssigneeListByProject | .issueFollowerListByProject
  | .issueTagListByProject | .issueRelationshipListByProject | .pullRequestListByProject => .project

/-- A repository function is the one that lists its table by its kind of ids. -/
theorem RepoFn.eq_of_table_scope {f g : RepoFn} (ht : f.table = g.table)
    (hs : f.scope = g.scope) : f = g := by
  cases f <;> cases g <;> first | rfl | exact absurd ht (by decide) | exact absurd hs (by decide)

section Handlers

variable {Row : Type} (parseUrl : String → Except String Url)

/-- `build_proxy_handler`: the GET handler of a shape's URL. Its extracted inputs are the
request context, the scope key (the `organization_id` of the `OrgShapeQuery`, or the
`project_id` or `issue_id` of the path; unused for `User`) and the other query parameters. -/
def buildProxyHandler (shape : ShapeDefinition) :
    ShapeScope → AppState (DataStore Row) → RequestContext → Uuid → HashMap String String →
      Proxied
  | .org, state, ctx, key, params =>
    match assertMembership state.pool.access key ctx.user.id with
    | .error e => ⟨[], .error (.authorization e)⟩
    | .ok () => proxyTable parseUrl state shape params [key.toString]
  | .orgWithUser, state, ctx, key, params =>
    match assertMembership state.pool.access key ctx.user.id with
    | .error e => ⟨[], .error (.authorization e)⟩
    | .ok () => proxyTable parseUrl state shape params [key.toString, ctx.user.id.toString]
  | .project, state, ctx, key, params =>
    match assertProjectAccess state.pool.access key ctx.user.id with
    | .error e => ⟨[], .error (.authorization e)⟩
    | .ok () => proxyTable parseUrl state shape params [key.toString]
  | .issue, state, ctx, key, params =>
    match assertIssueAccess state.pool.access key ctx.user.id with
    | .error e => ⟨[], .error (.authorization e)⟩
    | .ok () => proxyTable parseUrl state shape params [key.toString]
  | .user, state, ctx, _, params => proxyTable parseUrl state shape params [ctx.user.id.toString]

/-- The stream handler: the scope's check, then `proxy_table` with the scope's bound ids. -/
theorem buildProxyHandler_eq (shape : ShapeDefinition) (scope : ShapeScope)
    (state : AppState (DataStore Row)) (ctx : RequestContext) (key : Uuid)
    (params : HashMap String String) :
    buildProxyHandler parseUrl shape scope state ctx key params =
      if scope.allows state.pool.access ctx.user.id key then
        proxyTable parseUrl state shape params
          ((scope.boundIds ctx.user.id key).map Uuid.toString)
      else ⟨[], .error (.authorization state.pool.access.dbDenial)⟩ := by
  cases scope <;>
    simp only [buildProxyHandler, ShapeScope.allows, ShapeScope.boundIds, assertMembership,
      assertProjectAccess, assertIssueAccess, check, List.map_cons, List.map_nil, if_true] <;>
    split_ifs <;> rfl

/-! ## The fallback handlers -/

/-- `OrgFallbackQuery`. -/
structure OrgFallbackQuery where
  organizationId : Uuid

/-- `ProjectFallbackQuery`. -/
structure ProjectFallbackQuery where
  projectId : Uuid

/-- `IssueFallbackQuery`. -/
structure IssueFallbackQuery where
  issueId : Uuid

/-- The JSON envelope `{ "<field>": [rows] }` of a fallback answer. -/
structure Envelope (Row : Type) where
  field : String
  rows : List Row

/-- A fallback handler as a program over the database: it is done with its answer, or it makes
a repository query and goes on with what the store returns (rows, or a database error). -/
inductive RepoM (Row α : Type)
  | done (a : α)
  | query (call : RepoCall) (k : Except String (List Row) → RepoM Row α)

/-- A handler's run against the store: its answer, and the queries it made, in order. -/
def RepoM.run (store : DataStore Row) {α : Type} : RepoM Row α → α × List RepoCall
  | .done a => (a, [])
  | .query call k =>
    let rest := (k (store.list call)).run store
    (rest.1, call :: rest.2)

/-- A fallback handler: a JSON envelope of rows, or an `ErrorResponse`. -/
abbrev Fallback (Row : Type) := RepoM Row (Except ErrorResponse (Envelope Row))

/-- One repository query and the `map_err` after it: the rows under `field`, or a 500 with
`message` when the database fails. -/
def listQuery (call : RepoCall) (field message : String) : Fallback Row :=
  .query call fun
    | .error _ => .done (.error ⟨500, message⟩)
    | .ok rows => .done (.ok ⟨field, rows⟩)

/-- The shape of every checked fallback handler: the route-level check (its error returned by
`?`), then one repository query. -/
def fallbackList (auth : Except ErrorResponse Unit) (call : RepoCall) (field message : String) :
    Fallback Row :=
  match auth with
  | .error e => .done (.error e)
  | .ok () => listQuery call field message

/-- `fallback_list_projects`. -/
def fallbackListProjects (state : AppState (DataStore Row)) (ctx : RequestContext)
    (query : OrgFallbackQuery) : Fallback Row :=
  fallbackList (ensureMemberAccess state.pool.access query.organizationId ctx.user.id)
    ⟨.projectListByOrganization, [query.organizationId]⟩ "projects" "failed to list projects"

/-- `fallback_list_notifications`. -/
def fallbackListNotifications (state : AppState (DataStore Row)) (ctx : RequestContext)
    (query : OrgFallbackQuery) : Fallback Row :=
  fallbackList (ensureMemberAccess state.pool.access query.organizationId ctx.user.id)
    ⟨.notificationListByOrganizationAndUser, [query.organizationId, ctx.user.id]⟩ "notifications"
    "failed to list notifications"

/-- `fallback_list_organization_members`. -/
def fallbackListOrganizationMembers (state : AppState (DataStore Row)) (ctx : RequestContext)
    (query : OrgFallbackQuery) : Fallback Row :=
  fallbackList (ensureMemberAccess state.pool.access query.organizationId ctx.user.id)
    ⟨.organizationMembersListByOrganization, [query.organizationId]⟩
    "organization_member_metadata" "failed to list organization members"

/-- `fallback_list_users`. -/
def fallbackListUsers (state : AppState (DataStore Row)) (ctx : RequestContext)
    (query : OrgFallbackQuery) : Fallback Row :=
  fallbackList (ensureMemberAccess state.pool.access query.organizationId ctx.user.id)
    ⟨.organizationMembersListUsersByOrganization, [query.organizationId]⟩ "users"
    "failed to list users"

/-- `fallback_list_tags`. -/
def fallbackListTags (state : AppState (DataStore Row)) (ctx : RequestContext)
    (query : ProjectFallbackQuery) : Fallback Row :=
  fallbackList (ensureProjectAccess state.pool.access ctx.user.id query.projectId)
    ⟨.tagListByProject, [query.projectId]⟩ "tags" "failed to list tags"

/-- `fallback_list_project_statuses`. -/
def fallbackListProjectStatuses (state : AppState (DataStore Row)) (ctx : RequestContext)
    (query : ProjectFallbackQuery) : Fallback Row :=
  fallbackList (ensureProjectAccess state.pool.access ctx.user.id query.projectId)
    ⟨.projectStatusListByProject, [query.projectId]⟩ "project_statuses"
    "failed to list project statuses"

/-- `fallback_list_issues`. -/
def fallbackListIssues (state : AppState (DataStore Row)) (ctx : RequestContext)
    (query : ProjectFallbackQuery) : Fallback Row :=
  fallbackList (ensureProjectAccess state.pool.access ctx.user.id query.projectId)
    ⟨.issueListByProject, [query.projectId]⟩ "issues" "failed to list issues"

/-- `fallback_list_project_workspaces`. -/
def fallbackListProjectWorkspaces (state : AppState (DataStore Row)) (ctx : RequestContext)
    (query : ProjectFallbackQuery) : Fallback Row :=
  fallbackList (ensureProjectAccess state.pool.access ctx.user.id query.projectId)
    ⟨.workspaceListByProject, [query.projectId]⟩ "workspaces" "failed to list workspaces"

/-- `fallback_list_issue_assignees`. -/
def fallbackListIssueAssignees (state : AppState (DataStore Row)) (ctx : RequestContext)
    (query : ProjectFallbackQuery) : Fallback Row :=
  fallbackList (ensureProjectAccess state.pool.access ctx.user.id query.projectId)
    ⟨.issueAssigneeListByProject, [query.projectId]⟩ "issue_assignees"
    "failed to list issue assignees"

/-- `fallback_list_issue_followers`. -/
def fallbackListIssueFollowers (state : AppState (DataStore Row)) (ctx : RequestContext)
    (query : ProjectFallbackQuery) : Fallback Row :=
  fallbackList (ensureProjectAccess state.pool.access ctx.user.id query.projectId)
    ⟨.issueFollowerListByProject, [query.projectId]⟩ "issue_followers"
    "failed to list issue followers"

/-- `fallback_list_issue_tags`. -/
def fallbackListIssueTags (state : AppState (DataStore Row)) (ctx : RequestContext)
    (query : ProjectFallbackQuery) : Fallback Row :=
  fallbackList (ensureProjectAccess state.pool.access ctx.user.id query.projectId)
    ⟨.issueTagListByProject, [query.projectId]⟩ "issue_tags" "failed to list issue tags"

/-- `fallback_list_issue_relationships`. -/
def fallbackListIssueRelationships (state : AppState (DataStore Row)) (ctx : RequestContext)
    (query : ProjectFallbackQuery) : Fallback Row :=
  fallbackList (ensureProjectAccess state.pool.access ctx.user.id query.projectId)
    ⟨.issueRelationshipListByProject, [query.projectId]⟩ "issue_relationships"
    "failed to list issue relationships"

/-- `fallback_list_pull_requests`. -/
def fallbackListPullRequests (state : AppState (DataStore Row)) (ctx : RequestContext)
    (query : ProjectFallbackQuery) : Fallback Row :=
  fallbackList (ensureProjectAccess state.pool.access ctx.user.id query.projectId)
    ⟨.pullRequestListByProject, [query.projectId]⟩ "pull_requests" "failed to list pull requests"

/-- `fallback_list_user_workspaces`: no check, the user's own workspaces. -/
def fallbackListUserWorkspaces (ctx : RequestContext) : Fallback Row :=
  listQuery ⟨.workspaceListByOwner, [ctx.user.id]⟩ "workspaces" "failed to list workspaces"

/-- `fallback_list_issue_comments`. -/
def fallbackListIssueComments (state : AppState (DataStore Row)) (ctx : RequestContext)
    (query : IssueFallbackQuery) : Fallback Row :=
  fallbackList (ensureIssueAccess state.pool.access ctx.user.id query.issueId)
    ⟨.issueCommentListByIssue, [query.issueId]⟩ "issue_comments" "failed to list issue comments"

/-- `fallback_list_issue_comment_reactions`. -/
def fallbackListIssueCommentReactions (state : AppState (DataStore Row)) (ctx : RequestContext)
    (query : IssueFallbackQuery) : Fallback Row :=
  fallbackList (ensureIssueAccess state.pool.access ctx.user.id query.issueId)
    ⟨.issueCommentReactionListByIssue, [query.issueId]⟩ "issue_comment_reactions"
    "failed to list issue comment reactions"

/-! ## The registry -/

/-- A `ShapeRoute`: the shape, its scope, the fallback URL, and the fallback handler given the
scope key its query carries (`organization_id`, `project_id` or `issue_id`; none is read for
`NoQueryParams`). -/
structure ShapeRoute (Row : Type) where
  shape : ShapeDefinition
  scope : ShapeScope
  fallbackUrl : String
  fallback : AppState (DataStore Row) → RequestContext → Uuid → Fallback Row

/-- The GET handler `ShapeRoute::new` installs on the shape's URL. -/
def ShapeRoute.proxyHandler (r : ShapeRoute Row) :
    AppState (DataStore Row) → RequestContext → Uuid → HashMap String String → Proxied :=
  buildProxyHandler parseUrl r.shape r.scope

/-- The paths `ShapeRoute::new` registers: the shape's URL, then the fallback URL. -/
def ShapeRoute.router (r : ShapeRoute Row) : List String := [r.shape.url, r.fallbackUrl]

/-- `all_shape_routes`. -/
def allShapeRoutes : List (ShapeRoute Row) :=
  [⟨projectsShape, .org, "/fallback/projects", fun s c k => fallbackListProjects s c ⟨k⟩⟩,
   ⟨notificationsShape, .orgWithUser, "/fallback/notifications",
     fun s c k => fallbackListNotifications s c ⟨k⟩⟩,
   ⟨organizationMembersShape, .org, "/fallback/organization_members",
     fun s c k => fallbackListOrganizationMembers s c ⟨k⟩⟩,
   ⟨usersShape, .org, "/fallback/users", fun s c k => fallbackListUsers s c ⟨k⟩⟩,
   ⟨projectTagsShape, .project, "/fallback/tags", fun s c k => fallbackListTags s c ⟨k⟩⟩,
   ⟨projectProjectStatusesShape, .project, "/fallback/project_statuses",
     fun s c k => fallbackListProjectStatuses s c ⟨k⟩⟩,
   ⟨projectIssuesShape, .project, "/fallback/issues", fun s c k => fallbackListIssues s c ⟨k⟩⟩,
   ⟨userWorkspacesShape, .user, "/fallback/user_workspaces",
     fun _ c _ => fallbackListUserWorkspaces c⟩,
   ⟨projectWorkspacesShape, .project, "/fallback/project_workspaces",
     fun s c k => fallbackListProjectWorkspaces s c ⟨k⟩⟩,
   ⟨projectIssueAssigneesShape, .project, "/fallback/issue_assignees",
     fun s c k => fallbackListIssueAssignees s c ⟨k⟩⟩,
   ⟨projectIssueFollowersShape, .project, "/fallback/issue_followers",
     fun s c k => fallbackListIssueFollowers s c ⟨k⟩⟩,
   ⟨projectIssueTagsShape, .project, "/fallback/issue_tags",
     fun s c k => fallbackListIssueTags s c ⟨k⟩⟩,
   ⟨projectIssueRelationshipsShape, .project, "/fallback/issue_relationships",
     fun s c k => fallbackListIssueRelationships s c ⟨k⟩⟩,
   ⟨projectPullRequestsShape, .project, "/fallback/pull_requests",
     fun s c k => fallbackListPullRequests s c ⟨k⟩⟩,
   ⟨issueCommentsShape, .issue, "/fallback/issue_comments",
     fun s c k => fallbackListIssueComments s c ⟨k⟩⟩,
   ⟨issueReactionsShape, .issue, "/fallback/issue_comment_reactions",
     fun s c k => fallbackListIssueCommentReactions s c ⟨k⟩⟩]

/-! ## Both paths authorize alike -/

/-- A route is wired when its fallback is the scope's relation as a route-level check, then one
query, to the repository function that lists the shape's table by the scope's kind of ids, with
the ids the scope binds, answered under the table's name. -/
def ShapeRoute.Wired (r : ShapeRoute Row) : Prop :=
  ∀ state ctx key, ∃ (fn : RepoFn) (message : String),
    fn.table = r.shape.table ∧ fn.scope = r.scope ∧
      r.fallback state ctx key =
        fallbackList
          (check (r.scope.allows state.pool.access ctx.user.id key) state.pool.access.routeDenial)
          ⟨fn, r.scope.boundIds ctx.user.id key⟩ r.shape.table message

theorem allShapeRoutes_wired : ∀ r ∈ (allShapeRoutes : List (ShapeRoute Row)), r.Wired := by
  simp only [allShapeRoutes, List.forall_mem_cons, List.mem_nil_iff, false_implies, implies_true,
    and_true]
  refine ⟨?_, ?_, ?_, ?_, ?_, ?_, ?_, ?_, ?_, ?_, ?_, ?_, ?_, ?_, ?_, ?_⟩ <;>
    exact fun _ _ _ => ⟨_, _, by rfl, by rfl, rfl⟩

/-- A checked handler's run: with the check passed, one query and the store's rows for it (a
500 when the database fails); otherwise the check's error, nothing queried. -/
theorem run_fallbackList (store : DataStore Row) (allowed : Bool) (e : ErrorResponse)
    (call : RepoCall) (field message : String) :
    (fallbackList (check allowed e) call field message).run store =
      if allowed then
        (((store.list call).map fun rows => ⟨field, rows⟩).mapError fun _ => ⟨500, message⟩,
          [call])
      else (.error e, []) := by
  cases allowed
  · rfl
  · show ((listQuery call field message).run store) = _
    simp only [listQuery, RepoM.run, if_true]
    cases store.list call <;> rfl

/-- The two paths of a route decide alike, and the fallback lists what the stream serves. For
every request, the stream handler runs `proxy_table` with the ids the scope binds exactly when
the scope's relation holds, and otherwise fails with `ProxyError::Authorization` (a 403) having
sent nothing upstream. The fallback then makes one query, with those same ids, to the
repository function that lists the shape's table by the scope's kind of ids, and answers the
store's rows for it under the table's name (a 500 when the database fails); otherwise it
returns the check's error having queried nothing. -/
def ShapeRoute.AuthorizesAlike (r : ShapeRoute Row) : Prop :=
  ∀ (state : AppState (DataStore Row)) (ctx : RequestContext) (key : Uuid)
    (params : HashMap String String),
    r.proxyHandler parseUrl state ctx key params =
        (if r.scope.allows state.pool.access ctx.user.id key then
          proxyTable parseUrl state r.shape params
            ((r.scope.boundIds ctx.user.id key).map Uuid.toString)
        else ⟨[], .error (.authorization state.pool.access.dbDenial)⟩) ∧
      ∃ (fn : RepoFn) (message : String), fn.table = r.shape.table ∧ fn.scope = r.scope ∧
        (r.fallback state ctx key).run state.pool =
          if r.scope.allows state.pool.access ctx.user.id key then
            ((((state.pool.list ⟨fn, r.scope.boundIds ctx.user.id key⟩).map fun rows =>
                ⟨r.shape.table, rows⟩).mapError fun _ => ⟨500, message⟩),
              [⟨fn, r.scope.boundIds ctx.user.id key⟩])
          else (.error state.pool.access.routeDenial, [])

theorem shape_routes_authorize_alike :
    ∀ r ∈ (allShapeRoutes : List (ShapeRoute Row)), r.AuthorizesAlike parseUrl := by
  intro r hr state ctx key params
  obtain ⟨fn, message, htable, hscope, hfb⟩ := allShapeRoutes_wired r hr state ctx key
  exact ⟨buildProxyHandler_eq .., fn, message, htable, hscope, by rw [hfb, run_fallbackList]⟩

/-! ## The registry is well formed -/

/-- Every registered shape's predicate has the placeholders `$1 … $n`, and its scope binds
exactly `n` ids. -/
theorem registered_shapes_bind_every_placeholder :
    ∀ r ∈ (allShapeRoutes : List (ShapeRoute Row)), r.shape.placeholdersMatch = true ∧
      ∀ userId key, (r.scope.boundIds userId key).length = r.shape.params.length := by
  simp only [allShapeRoutes, List.forall_mem_cons, List.mem_nil_iff, false_implies, implies_true,
    and_true]
  refine ⟨?_, ?_, ?_, ?_, ?_, ?_, ?_, ?_, ?_, ?_, ?_, ?_, ?_, ?_, ?_, ?_⟩ <;>
    exact ⟨by decide, fun _ _ => rfl⟩

/-- Every fallback answers its rows under the name of its shape's table. -/
theorem fallback_field_is_shape_table :
    ∀ r ∈ (allShapeRoutes : List (ShapeRoute Row)), ∀ state ctx key (env : Envelope Row),
      ((r.fallback state ctx key).run state.pool).1 = .ok env → env.field = r.shape.table := by
  intro r hr state ctx key env h
  obtain ⟨fn, message, -, -, hfb⟩ := allShapeRoutes_wired r hr state ctx key
  rw [hfb, run_fallbackList] at h
  split at h
  · revert h
    cases state.pool.list ⟨fn, _⟩ <;> intro h <;> cases h
    rfl
  · cases h

/-- The paths the sixteen routes register are pairwise distinct. -/
theorem registered_paths_nodup :
    ((allShapeRoutes : List (ShapeRoute Row)).flatMap ShapeRoute.router).Nodup := by
  have paths : (allShapeRoutes : List (ShapeRoute Row)).flatMap ShapeRoute.router =
      (allShapeRoutes : List (ShapeRoute Unit)).flatMap ShapeRoute.router := rfl
  rw [paths]
  decide

end Handlers

/-- The projects route, behind an Electric URL that parses. -/
theorem projects_route_authorizes_alike :
    ∃ r ∈ (allShapeRoutes : List (ShapeRoute Unit)), r.shape = projectsShape ∧
      r.AuthorizesAlike fun url => .ok ⟨url, "/", none, none⟩ :=
  ⟨_, List.mem_cons_self _ _, rfl, shape_routes_authorize_alike _ _ (List.mem_cons_self _ _)⟩

end AgentKanban.Remote
