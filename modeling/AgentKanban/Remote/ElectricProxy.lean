import AgentKanban.Remote.Http
import AgentKanban.Remote.Shapes

/-!
# The Electric proxy

`proxy_table` builds the upstream URL from the shape, the bound values and the allow-listed
client parameters, sends it, and relays the answer with its headers filtered.

1. The upstream query is the configured URL's query followed by one `append_pair` per pair of
   `upstreamPairs` (`originUrl_query`); by the form-urlencoded round trip it decodes to exactly
   those pairs (`proxy_table_upstream_query`).
2. The client pairs forwarded are the allow-listed entries of the map in its iteration order:
   a permutation of the allow-list's entries (`filter_electricParams_perm`).
3. The header loop `insert`s every upstream value in turn, so a name keeps only its last value
   (`copyHeaders_getAll`).
-/

namespace AgentKanban.Remote

open FormUrlencoded Utf8

/-- `ELECTRIC_PARAMS`: the client parameters forwarded to Electric. -/
def electricParams : List String := ["offset", "handle", "live", "cursor", "columns"]

/-- `OrgShapeQuery`: the organization id, and the other query parameters. -/
structure OrgShapeQuery where
  organizationId : Uuid
  params : HashMap String String

/-- `ShapeQuery`. -/
structure ShapeQuery where
  params : HashMap String String

/-- The configuration `proxy_table` reads. -/
structure ElectricConfig where
  electricUrl : String
  electricSecret : Option String

/-- What Electric answers a request with. -/
structure UpstreamResponse where
  status : Nat
  headers : HeaderMap
  body : List UInt8

/-- `AppState`: the configuration, the HTTP client (which answers a request or fails to
connect), and the database pool. -/
structure AppState (Pool : Type) where
  config : ElectricConfig
  httpClient : Url → Except String UpstreamResponse
  pool : Pool

/-- `ProxyError`. -/
inductive ProxyError
  | connection (err : String)
  | invalidConfig (msg : String)
  | authorization (msg : String)
  deriving DecidableEq, Repr

/-- `ProxyError::into_response`. -/
def ProxyError.intoResponse : ProxyError → Response
  | .connection _ => textResponse 502 "failed to connect to Electric service"
  | .invalidConfig _ => textResponse 500 "internal server error"
  | .authorization _ => textResponse 403 "forbidden"

/-- A proxy handler's run: the requests it sent upstream, and what it returned. -/
structure Proxied where
  sent : List Url
  result : Except ProxyError Response

/-- The response the client gets. -/
def Proxied.response (p : Proxied) : Response :=
  match p.result with
  | .ok r => r
  | .error e => e.intoResponse

/-! ## The upstream URL -/

/-- The Electric URL `proxy_table` builds from the configured one: the path `/v1/shape`, then
`table`, `where`, one `params[i]` per bound value, the allow-listed client parameters in the
map's iteration order, and the secret if one is configured. -/
def originUrl (u : Url) (shape : ShapeDefinition) (clientParams : HashMap String String)
    (params : List String) (secret : Option String) : Url :=
  let u := ((u.setPath "/v1/shape").appendPair "table" shape.table).appendPair "where"
    shape.whereClause
  let u := params.enum.foldl (fun u (i, p) => u.appendPair s!"params[{i + 1}]" p) u
  let u := clientParams.entries.foldl
    (fun u (k, v) => if k ∈ electricParams then u.appendPair k v else u) u
  match secret with
  | some s => u.appendPair "secret" s
  | none => u

/-- One turn of the header loop of `proxy_table`: `content-encoding` and `content-length` are
skipped, every other header is `insert`ed. -/
def copyHeader (m : HeaderMap) (kv : String × String) : HeaderMap :=
  if kv.1 = "content-encoding" ∨ kv.1 = "content-length" then m else m.insert kv.1 kv.2

/-- The header loop of `proxy_table`, then `vary: Authorization`. -/
def copyHeaders (upstream : HeaderMap) : HeaderMap :=
  (upstream.iter.foldl copyHeader HeaderMap.new).insert "vary" "Authorization"

/-- `proxy_table`. `parseUrl` is `Url::parse`. -/
def proxyTable {Pool : Type} (parseUrl : String → Except String Url) (state : AppState Pool)
    (shape : ShapeDefinition) (clientParams : HashMap String String) (params : List String) :
    Proxied :=
  match parseUrl state.config.electricUrl with
  | .error e => ⟨[], .error (.invalidConfig s!"invalid electric_url: {e}")⟩
  | .ok u =>
    let url := originUrl u shape clientParams params state.config.electricSecret
    match state.httpClient url with
    | .error e => ⟨[url], .error (.connection e)⟩
    | .ok response => ⟨[url], .ok ⟨response.status, copyHeaders response.headers,
        .stream response.body⟩⟩

/-- The pairs `proxy_table` appends to the query, in order. -/
def upstreamPairs (shape : ShapeDefinition) (clientParams : HashMap String String)
    (params : List String) (secret : Option String) : List (String × String) :=
  ("table", shape.table) :: ("where", shape.whereClause) ::
    params.enum.map (fun (i, p) => (s!"params[{i + 1}]", p)) ++
    clientParams.entries.filter (fun e => e.1 ∈ electricParams) ++
    (secret.map ("secret", ·)).toList

theorem query_foldl_map {α : Type} (f g : α → String) (l : List α) (u : Url) :
    (l.foldl (fun u x => u.appendPair (f x) (g x)) u).query.getD "" =
      appendPairs (u.query.getD "") (l.map fun x => (f x, g x)) := by
  induction l generalizing u with
  | nil => rfl
  | cons x l ih => rw [List.foldl_cons, ih]; rfl

theorem query_foldl_filter (P : String × String → Prop) [DecidablePred P]
    (l : List (String × String)) (u : Url) :
    (l.foldl (fun u x => if P x then u.appendPair x.1 x.2 else u) u).query.getD "" =
      appendPairs (u.query.getD "") (l.filter P) := by
  induction l generalizing u with
  | nil => rfl
  | cons x l ih =>
    by_cases h : P x
    · rw [List.foldl_cons, if_pos h, ih, List.filter_cons_of_pos (by simpa using h)]; rfl
    · rw [List.foldl_cons, if_neg h, ih, List.filter_cons_of_neg (by simpa using h)]

/-- The upstream query: one `append_pair` per pair of `upstreamPairs`, after the configured
query. -/
theorem originUrl_query (u : Url) (shape : ShapeDefinition) (clientParams : HashMap String String)
    (params : List String) (secret : Option String) :
    (originUrl u shape clientParams params secret).query.getD "" =
      appendPairs (u.query.getD "") (upstreamPairs shape clientParams params secret) := by
  simp only [originUrl, upstreamPairs]
  cases secret <;>
    simp only [query_foldl_filter, query_foldl_map, Url.query_appendPair, Url.query_setPath,
      Option.getD_some, appendPairs_append, Option.map_none', Option.map_some', Option.toList_none,
      Option.toList_some, List.append_nil, appendPairs_cons, appendPairs_nil]

/-- The client pairs forwarded, in the map's iteration order, are the allow-listed entries of
the map in any other order. -/
theorem filter_electricParams_perm (clientParams : HashMap String String) :
    (clientParams.entries.filter fun e => e.1 ∈ electricParams).Perm
      (electricParams.filterMap fun k => (clientParams.get? k).map (k, ·)) := by
  refine (List.perm_ext_iff_of_nodup ((HashMap.entries_nodup _).filter _) ?_).mpr ?_
  · refine List.Nodup.filterMap (fun a a' b ha ha' => ?_) (by decide)
    simp only [Option.mem_def, Option.map_eq_some'] at ha ha'
    obtain ⟨_, -, rfl⟩ := ha
    obtain ⟨_, -, h⟩ := ha'
    exact (Prod.mk.inj h).1.symm
  · rintro ⟨k, v⟩
    simp only [List.mem_filter, decide_eq_true_eq, List.mem_filterMap, Option.map_eq_some',
      Prod.mk.injEq, HashMap.mem_entries_iff]
    constructor
    · rintro ⟨h, hk⟩
      exact ⟨k, hk, v, h, rfl, rfl⟩
    · rintro ⟨k', hk', v', h, rfl, rfl⟩
      exact ⟨h, hk'⟩

theorem proxyTable_sent {Pool : Type} {parseUrl : String → Except String Url}
    {state : AppState Pool} {u : Url} (hu : parseUrl state.config.electricUrl = .ok u)
    (shape : ShapeDefinition) (clientParams : HashMap String String) (params : List String) :
    (proxyTable parseUrl state shape clientParams params).sent =
      [originUrl u shape clientParams params state.config.electricSecret] := by
  simp only [proxyTable, hu]
  split <;> rfl

/-- **The upstream query.** Whatever the client sends, the query of the one request
`proxy_table` makes decodes to the configured query's pairs, then `table`, `where`, the bound
values as `params[1]`, `params[2]`, …, the allow-listed client parameters (in some order), and
the secret if there is one. -/
theorem proxy_table_upstream_query {Pool : Type} (parseUrl : String → Except String Url)
    (state : AppState Pool) (shape : ShapeDefinition) (clientParams : HashMap String String)
    (params : List String) (u : Url) (hu : parseUrl state.config.electricUrl = .ok u) :
    ∃ forwarded : List (String × String),
      forwarded.Perm (["offset", "handle", "live", "cursor", "columns"].filterMap fun k =>
        (clientParams.get? k).map (k, ·)) ∧
      (∀ p ∈ forwarded, p.1 ∈ ["offset", "handle", "live", "cursor", "columns"]) ∧
      (proxyTable parseUrl state shape clientParams params).sent.map
          (fun v => parse (encode (v.query.getD ""))) =
        [parse (encode (u.query.getD "")) ++
          (("table", shape.table) :: ("where", shape.whereClause) ::
            params.enum.map (fun (i, p) => (s!"params[{i + 1}]", p)) ++ forwarded ++
            (state.config.electricSecret.map ("secret", ·)).toList)] := by
  refine ⟨_, filter_electricParams_perm clientParams, fun p hp => ?_, ?_⟩
  · exact of_decide_eq_true (List.mem_filter.mp hp).2
  · rw [proxyTable_sent hu, List.map_singleton, originUrl_query, parse_appendPairs]
    rfl

theorem proxyTable_response {Pool : Type} {parseUrl : String → Except String Url}
    {state : AppState Pool} {u : Url} (hu : parseUrl state.config.electricUrl = .ok u)
    {shape : ShapeDefinition} {clientParams : HashMap String String} {params : List String}
    {response : UpstreamResponse}
    (hc : state.httpClient (originUrl u shape clientParams params state.config.electricSecret) =
      .ok response) :
    (proxyTable parseUrl state shape clientParams params).response =
      ⟨response.status, copyHeaders response.headers, .stream response.body⟩ := by
  simp only [proxyTable, hu, hc]
  rfl

/-- A client that sends `table=users`, and an offset that smuggles `&table=users`. -/
theorem upstream_query_ignores_injected_table :
    let parseUrl : String → Except String Url :=
      fun _ => .ok ⟨"http://electric:3000", "/", none, none⟩
    let state : AppState Unit := ⟨⟨"http://electric:3000", some "k"⟩, fun _ => .error "down", ()⟩
    let client : HashMap String String :=
      ⟨[("table", "users"), ("offset", "0&table=users")], by decide⟩
    parseUrl state.config.electricUrl = .ok ⟨"http://electric:3000", "/", none, none⟩ ∧
      ∃ forwarded : List (String × String),
        forwarded.Perm (["offset", "handle", "live", "cursor", "columns"].filterMap fun k =>
          (client.get? k).map (k, ·)) ∧
        (∀ p ∈ forwarded, p.1 ∈ ["offset", "handle", "live", "cursor", "columns"]) ∧
        (proxyTable parseUrl state projectsShape client ["7"]).sent.map
            (fun v => parse (encode (v.query.getD ""))) =
          [parse (encode "") ++
            (("table", projectsShape.table) :: ("where", projectsShape.whereClause) ::
              ["7"].enum.map (fun (i, p) => (s!"params[{i + 1}]", p)) ++ forwarded ++
              (state.config.electricSecret.map ("secret", ·)).toList)] := by
  intro parseUrl state client
  exact ⟨rfl, proxy_table_upstream_query parseUrl state projectsShape client ["7"] _ rfl⟩

/-! ## The response headers -/

/-- The values of `n` in a list of headers, in order. -/
def valuesIn (n : String) (l : List (String × String)) : List String :=
  (l.filter fun kv => kv.1 = n).map Prod.snd

theorem getAll_copyHeader (m : HeaderMap) (kv : String × String) {n : String}
    (hn : ¬(n = "content-encoding" ∨ n = "content-length")) :
    (copyHeader m kv).getAll n = if kv.1 = n then [kv.2] else m.getAll n := by
  unfold copyHeader
  by_cases hk : kv.1 = n
  · subst hk; simp [hn, HeaderMap.getAll_insert]
  · split <;> simp [HeaderMap.getAll_insert, hk, Ne.symm hk]

/-- The loop leaves a name with the last value the upstream gave it, or as it was. -/
theorem getAll_foldl_copyHeader (l : List (String × String)) (m : HeaderMap) {n : String}
    (hn : ¬(n = "content-encoding" ∨ n = "content-length")) :
    (l.foldl copyHeader m).getAll n = ((valuesIn n l).getLast?.map ([·])).getD (m.getAll n) := by
  induction l generalizing m with
  | nil => rfl
  | cons kv l ih =>
    rw [List.foldl_cons, ih, getAll_copyHeader _ _ hn]
    by_cases hk : kv.1 = n
    · rw [show valuesIn n (kv :: l) = kv.2 :: valuesIn n l by simp [valuesIn, hk],
        List.getLast?_cons, if_pos hk]
      cases (valuesIn n l).getLast? <;> rfl
    · rw [show valuesIn n (kv :: l) = valuesIn n l by simp [valuesIn, hk], if_neg hk]

theorem getAll_foldl_copyHeader_of_skipped (l : List (String × String)) {n : String}
    (hn : n = "content-encoding" ∨ n = "content-length") :
    (l.foldl copyHeader HeaderMap.new).getAll n = [] := by
  suffices ∀ m : HeaderMap, m.getAll n = [] → (l.foldl copyHeader m).getAll n = [] from
    this _ rfl
  induction l with
  | nil => exact fun m h => h
  | cons kv l ih =>
    intro m h
    refine ih _ ?_
    unfold copyHeader
    split
    · exact h
    · rw [HeaderMap.getAll_insert, if_neg (fun e => by simp_all), h]

/-- **The headers `proxy_table` answers with.** No `content-encoding` or `content-length`,
`vary` is exactly `Authorization`, and every other name has the last value upstream gave it. -/
theorem copyHeaders_getAll (upstream : HeaderMap) (n : String) :
    (copyHeaders upstream).getAll n =
      if n = "vary" then ["Authorization"]
      else if n = "content-encoding" ∨ n = "content-length" then []
      else (valuesIn n upstream.iter).getLast?.toList := by
  rw [copyHeaders, HeaderMap.getAll_insert]
  split
  · rfl
  · split
    · exact getAll_foldl_copyHeader_of_skipped _ ‹_›
    · rw [getAll_foldl_copyHeader _ _ ‹_›]
      cases (valuesIn n upstream.iter).getLast? <;> rfl

/-- When Electric answers, the client gets its status and its body, and for each header name
the last value Electric sent, except that `content-encoding` and `content-length` are dropped
and `vary` is `Authorization`. -/
theorem proxy_table_relays_upstream_response {Pool : Type}
    (parseUrl : String → Except String Url) (state : AppState Pool) (shape : ShapeDefinition)
    (clientParams : HashMap String String) (params : List String) (u : Url)
    (response : UpstreamResponse) (hu : parseUrl state.config.electricUrl = .ok u)
    (hc : state.httpClient (originUrl u shape clientParams params state.config.electricSecret) =
      .ok response) :
    (proxyTable parseUrl state shape clientParams params).response =
        ⟨response.status, copyHeaders response.headers, .stream response.body⟩ ∧
      ∀ n, (copyHeaders response.headers).getAll n =
        if n = "vary" then ["Authorization"]
        else if n = "content-encoding" ∨ n = "content-length" then []
        else (valuesIn n response.headers.iter).getLast?.toList :=
  ⟨proxyTable_response hu hc, copyHeaders_getAll response.headers⟩

/-- Electric answering 200 with one `etag`. -/
theorem proxy_table_relays_etag :
    let state : AppState Unit :=
      ⟨⟨"http://electric:3000", none⟩,
        fun _ => .ok ⟨200, ⟨[("etag", ["v1"])], by decide⟩, []⟩, ()⟩
    let parseUrl : String → Except String Url :=
      fun _ => .ok ⟨"http://electric:3000", "/", none, none⟩
    (parseUrl state.config.electricUrl = .ok ⟨"http://electric:3000", "/", none, none⟩ ∧
      state.httpClient (originUrl ⟨"http://electric:3000", "/", none, none⟩ projectsShape
        ⟨[], List.nodup_nil⟩ ["0"] state.config.electricSecret) =
        .ok ⟨200, ⟨[("etag", ["v1"])], by decide⟩, []⟩) ∧
      (proxyTable parseUrl state projectsShape ⟨[], List.nodup_nil⟩ ["0"]).response =
        ⟨200, copyHeaders ⟨[("etag", ["v1"])], by decide⟩, .stream []⟩ ∧
      ∀ n, (copyHeaders ⟨[("etag", ["v1"])], by decide⟩).getAll n =
        if n = "vary" then ["Authorization"]
        else if n = "content-encoding" ∨ n = "content-length" then []
        else (valuesIn n (HeaderMap.iter ⟨[("etag", ["v1"])], by decide⟩)).getLast?.toList := by
  intro state parseUrl
  exact ⟨⟨rfl, rfl⟩, proxy_table_relays_upstream_response parseUrl state projectsShape
    ⟨[], List.nodup_nil⟩ ["0"] _ _ rfl rfl⟩

/-- An upstream answer with two `set-cookie` values reaches the client with only the second. -/
theorem proxy_table_drops_repeated_header_value :
    let upstream : HeaderMap := ⟨[("set-cookie", ["a=1", "b=2"])], by decide⟩
    let state : AppState Unit :=
      ⟨⟨"http://electric:3000", none⟩, fun _ => .ok ⟨200, upstream, []⟩, ()⟩
    valuesIn "set-cookie" upstream.iter = ["a=1", "b=2"] ∧
      (proxyTable (fun _ => .ok ⟨"http://electric:3000", "/", none, none⟩) state projectsShape
        ⟨[], List.nodup_nil⟩ ["0"]).response.headers.getAll "set-cookie" = ["b=2"] := by
  decide

end AgentKanban.Remote
