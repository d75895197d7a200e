import ShoppingWeb.Access.BearerTokens

/-!
# Through the gateway

`GatewayApplication` opens everything below `/api/catalog` and leaves the rest
to authenticated callers.  Its routes rewrite the raw path of a request for the
catalog service, and the service decides about the rewritten path.
-/

namespace ShoppingWeb.Access

open ShoppingWeb.Utf16
open ShoppingWeb.PercentDecoding
open ShoppingWeb.AccessRules
open ShoppingWeb.CatalogService

/-- `GatewayApplication.springSecurityFilterChain` -/
def gatewayRules : List (AccessRule Target Caller) :=
  [requestMatchers none ["/api/catalog/**"] .permitAll,
    requestMatchers none ["/actuator/**"] .permitAll,
    anyRequest .authenticated]

/-- `StripPrefix`: empty parts count for nothing and do not come back. -/
def stripPrefix (parts : ℕ) (rawPath : JString) : JString :=
  let originalParts := (rawPath.splitOn 47).filter (· ≠ [])
  let newPath := 47 :: [47].intercalate (originalParts.drop parts)
  if 1 < newPath.length ∧ rawPath.getLast? = some 47 then newPath ++ [47] else newPath

/-- `PrefixPath` -/
def prefixPath (start : String) (rawPath : JString) : JString := js start ++ rawPath

structure Route where
  path : String
  service : Service
  filters : JString → JString

/-- The routes of `application.yml`. -/
def routes : List Route :=
  [{ path := "/api/catalog/**"
     service := .catalog
     filters := fun rawPath => prefixPath "/api" (stripPrefix 2 rawPath) },
    { path := "/api/cart/**", service := .cart, filters := id },
    { path := "/api/orders/**", service := .order, filters := id },
    { path := "/api/payments/**", service := .payment, filters := id }]

def routeOf (path : List JString) : Option Route :=
  routes.find? fun route => (pathPattern route.path).covers path

/-- A request through the gateway, which authenticates its token as `outer`; the
service takes the caller for `inner`. -/
def throughGateway (method : HttpMethod) (uri : JString) (outer : Authentication)
    (inner : Caller) : Option Endpoint := do
  let path ← matchedPath uri
  let caller ← outer.caller?
  if admitted gatewayRules ⟨method, path⟩ caller then
    let route ← routeOf path
    call route.service method (route.filters uri) inner
  else none

theorem splitOn_prefixPath (start : String) (rest : JString) :
    (prefixPath start (47 :: rest)).splitOn 47 = (js start).splitOn 47 ++ rest.splitOn 47 :=
  List.splitOn_append_cons_self _ _

theorem matchedPath_prefixPath {start : String} {segments : List JString}
    (hstart : matchedPath (js start) = some segments) (rest : JString) :
    matchedPath (prefixPath start (47 :: rest)) = (matchedPath rest).map (segments ++ ·) := by
  rw [matchedPath] at hstart
  rw [matchedPath, splitOn_prefixPath, List.mapM_append, hstart, matchedPath]
  cases (rest.splitOn 47).mapM matchedSegment <;> rfl

/-- What the gateway forwards to the catalog service lies below `/api`. -/
theorem exists_stripPrefix (parts : ℕ) (rawPath : JString) :
    ∃ rest, stripPrefix parts rawPath = 47 :: rest := by
  rw [stripPrefix]
  split
  · exact ⟨_, rfl⟩
  · exact ⟨_, rfl⟩

/-- No documentation lies below `/api`. -/
theorem isDocumentation_prefixPath (rest : JString) :
    isDocumentation (prefixPath "/api" (47 :: rest)) = false := by
  have hstart : ((js "/api").splitOn 47).mapM decodeSegment = some [[], js "api"] := by decide
  rw [isDocumentation, decodePath, splitOn_prefixPath, List.mapM_append, hstart]
  cases (rest.splitOn 47).mapM decodeSegment <;> rfl

/-- `StripPrefix=2` takes `/api/catalog` away. -/
theorem stripPrefix_catalog {rest : JString} (hrest : ∀ segment ∈ rest.splitOn 47, segment ≠ []) :
    stripPrefix 2 (prefixPath "/api/catalog" (47 :: rest)) = 47 :: rest := by
  have hstart : ((js "/api/catalog").splitOn 47).filter (· ≠ []) = [js "api", js "catalog"] := by
    decide
  have hkept : (rest.splitOn 47).filter (· ≠ []) = rest.splitOn 47 :=
    List.filter_eq_self.mpr fun segment hsegment => by simpa using hrest segment hsegment
  have hopen : (prefixPath "/api/catalog" (47 :: rest)).getLast? ≠ some 47 := by
    intro hlast
    rcases rest.eq_nil_or_concat with rfl | ⟨init, last, rfl⟩
    · exact hrest [] List.mem_cons_self rfl
    · have hconcat : prefixPath "/api/catalog" (47 :: init.concat last) =
          js "/api/catalog" ++ 47 :: init ++ [last] := by
        simp [prefixPath]
      rw [hconcat, List.getLast?_concat] at hlast
      rw [List.concat_eq_append, Option.some.inj hlast, List.splitOn_append_cons_self] at hrest
      exact hrest [] (List.mem_append_right _ List.mem_cons_self) rfl
  simp only [stripPrefix, splitOn_prefixPath, List.filter_append, hstart, hkept, hopen, and_false,
    if_false, List.cons_append, List.nil_append, List.drop_succ_cons, List.drop_zero,
    List.intercalate_splitOn]

section Routes

variable {method : HttpMethod} {uri : JString} {outer : Authentication} {caller inner : Caller}
  {endpoint : Endpoint} {path : List JString} {route : Route}

theorem exists_of_covers_below {segments : List JString}
    (hcovers : (PathPattern.below segments).covers path = true) :
    ∃ rest, path = segments ++ rest := by
  obtain ⟨rest, hrest⟩ := List.isPrefixOf_iff_prefix.mp hcovers
  exact ⟨rest, hrest.symm⟩

/-- Where a route leads elsewhere than to the catalog service, the gateway asks
for an authenticated caller. -/
theorem gateway_admits_iff (hroute : routeOf path = some route) :
    admitted gatewayRules ⟨method, path⟩ caller = true ↔
      route.service = .catalog ∨ caller ≠ none := by
  have hcovers := List.find?_some hroute
  have hmem := List.mem_of_find?_eq_some hroute
  simp only [routes, List.mem_cons, List.not_mem_nil, or_false] at hmem
  rcases hmem with rfl | rfl | rfl | rfl
  · obtain ⟨rest, rfl⟩ := exists_of_covers_below hcovers
    exact iff_of_true rfl (.inl rfl)
  · obtain ⟨rest, rfl⟩ := exists_of_covers_below hcovers
    rw [← authenticated_admits, or_iff_right (by decide)]
    exact Iff.rfl
  · obtain ⟨rest, rfl⟩ := exists_of_covers_below hcovers
    rw [← authenticated_admits, or_iff_right (by decide)]
    exact Iff.rfl
  · obtain ⟨rest, rfl⟩ := exists_of_covers_below hcovers
    rw [← authenticated_admits, or_iff_right (by decide)]
    exact Iff.rfl

theorem throughGateway_eq_some_iff :
    throughGateway method uri outer inner = some endpoint ↔
      ∃ path route, matchedPath uri = some path ∧ routeOf path = some route ∧
        (∃ caller, outer.caller? = some caller ∧ (route.service = .catalog ∨ caller ≠ none)) ∧
          call route.service method (route.filters uri) inner = some endpoint := by
  simp only [throughGateway, Option.bind_eq_bind, Option.bind_eq_some_iff,
    Option.ite_none_right_eq_some]
  apply exists_congr
  intro path
  rw [exists_and_left]
  apply and_congr_right'
  constructor
  · intro ⟨caller, hcaller, hadmitted, route, hroute, hcall⟩
    exact ⟨route, hroute, ⟨caller, hcaller, (gateway_admits_iff hroute).mp hadmitted⟩, hcall⟩
  · intro ⟨route, hroute, ⟨caller, hcaller, hopen⟩, hcall⟩
    exact ⟨caller, hcaller, (gateway_admits_iff hroute).mpr hopen, route, hroute, hcall⟩

theorem exists_jwt_of_caller (hcaller : outer.caller? = some caller) (hknown : caller ≠ none) :
    ∃ jwt, outer = .authenticated jwt := by
  cases outer with
  | anonymous => exact absurd (Option.some.inj hcaller).symm hknown
  | authenticated jwt => exact ⟨jwt, rfl⟩
  | refused => cases hcaller

/-- A catalog route is open to everyone whose token the gateway does not refuse. -/
theorem throughGateway_catalog (hpath : matchedPath uri = some path)
    (hroute : routeOf path = some route) (hservice : route.service = .catalog) :
    throughGateway method uri outer inner =
      if outer = .refused then none else call .catalog method (route.filters uri) inner := by
  have hadmitted (caller : Caller) : admitted gatewayRules ⟨method, path⟩ caller = true :=
    (gateway_admits_iff hroute).mpr (.inl hservice)
  cases outer with
  | anonymous =>
      simp [throughGateway, hpath, Authentication.caller?, hadmitted, hroute, hservice]
  | authenticated jwt =>
      simp [throughGateway, hpath, Authentication.caller?, hadmitted, hroute, hservice]
  | refused => simp [throughGateway, hpath, Authentication.caller?]

/-- What a catalog route reaches is an endpoint of the catalog service. -/
theorem exists_catalog_of_call (hcall : call .catalog method uri inner = some endpoint) :
    ∃ handler, endpoint = .catalog handler := by
  obtain ⟨path, -, hendpoint, -⟩ := call_eq_some_iff.mp hcall
  obtain ⟨handler, -, rfl⟩ := Option.map_eq_some_iff.mp hendpoint
  exact ⟨handler, rfl⟩

theorem filters_of_catalog (uri : JString) (hroute : routeOf path = some route)
    (hservice : route.service = .catalog) :
    ∃ rest, route.filters uri = prefixPath "/api" (47 :: rest) := by
  have hmem := List.mem_of_find?_eq_some hroute
  simp only [routes, List.mem_cons, List.not_mem_nil, or_false] at hmem
  rcases hmem with rfl | rfl | rfl | rfl
  · obtain ⟨rest, hrest⟩ := exists_stripPrefix 2 uri
    exact ⟨rest, congrArg (prefixPath "/api") hrest⟩
  all_goals cases hservice

end Routes

/-- Whatever the raw URI of a request through the gateway, the endpoint it
reaches is one its caller may call, outside the catalog service one whom the
gateway has authenticated, too; and no documentation is within its reach. -/
theorem gateway_guards (method : HttpMethod) (uri : JString) (outer : Authentication)
    (inner : Caller) :
    (∀ endpoint, throughGateway method uri outer inner = some endpoint →
      endpoint.MayBeCalled method inner ∧
        ((∃ handler, endpoint = .catalog handler) ∨ ∃ jwt, outer = .authenticated jwt)) ∧
    (∀ path route, matchedPath uri = some path → routeOf path = some route →
      route.service = .catalog → isDocumentation (route.filters uri) = false) := by
  constructor
  · intro endpoint hreached
    obtain ⟨path, route, -, -, ⟨caller, hcaller, hopen⟩, hcall⟩ :=
      throughGateway_eq_some_iff.mp hreached
    obtain ⟨-, -, -, hmay⟩ := call_eq_some_iff.mp hcall
    refine ⟨hmay, hopen.imp (fun hservice => ?_) (exists_jwt_of_caller hcaller)⟩
    rw [hservice] at hcall
    exact exists_catalog_of_call hcall
  · intro path route _ hroute hservice
    obtain ⟨rest, hfilters⟩ := filters_of_catalog uri hroute hservice
    rw [hfilters]
    exact isDocumentation_prefixPath rest

/-- The gateway adds nothing to the catalog service: below `/api/catalog` a
request without empty segments fares as it would at the service below `/api`,
unless the gateway refuses its token. -/
theorem gateway_forwards_catalog {rest : JString}
    (hrest : ∀ segment ∈ rest.splitOn 47, segment ≠ []) (method : HttpMethod)
    (outer : Authentication) (inner : Caller) :
    throughGateway method (prefixPath "/api/catalog" (47 :: rest)) outer inner =
      if outer = .refused then none
      else call .catalog method (prefixPath "/api" (47 :: rest)) inner := by
  have hcatalog : matchedPath (js "/api/catalog") = some [[], js "api", js "catalog"] := by decide
  have hapi : matchedPath (js "/api") = some [[], js "api"] := by decide
  have hpath := matchedPath_prefixPath hcatalog rest
  cases hmatched : matchedPath rest with
  | none =>
      rw [hmatched, Option.map_none] at hpath
      rw [throughGateway, hpath, call, matchedPath_prefixPath hapi, hmatched]
      exact (ite_self _).symm
  | some segments =>
      rw [hmatched, Option.map_some] at hpath
      obtain ⟨route, hroute, hservice, hfilters⟩ : ∃ route,
          routeOf ([[], js "api", js "catalog"] ++ segments) = some route ∧
            route.service = .catalog ∧
            ∀ rawPath, route.filters rawPath = prefixPath "/api" (stripPrefix 2 rawPath) :=
        ⟨_, rfl, rfl, fun _ => rfl⟩
      rw [throughGateway_catalog hpath hroute hservice, hfilters, stripPrefix_catalog hrest]

/-- The login of the shop. -/
theorem gateway_forwards_login :
    throughGateway .POST (js "/api/catalog/users/login") .anonymous none =
      call .catalog .POST (js "/api/users/login") none := by
  have hrest : ∀ segment ∈ (js "users/login").splitOn 47, segment ≠ [] := by decide
  exact gateway_forwards_catalog hrest .POST .anonymous none

end ShoppingWeb.Access
