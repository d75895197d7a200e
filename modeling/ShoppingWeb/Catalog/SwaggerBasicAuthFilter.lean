import ShoppingWeb.Catalog.Users
import ShoppingWeb.Lib.Delimited
import ShoppingWeb.Lib.PercentDecoding

/-!
# The filter in front of the API documentation

`SecurityConfig` opens the documentation to everyone and leaves it to
`SwaggerBasicAuthFilter` to ask for an administrator.  The filter looks at the
beginning of the raw URI, the configuration at the decoded path segments.
-/

namespace ShoppingWeb.CatalogService

open ShoppingWeb.Utf16
open ShoppingWeb.PercentDecoding

structure HttpServletRequest where
  requestUri : JString
  authorization : Option JString
  deriving DecidableEq, Repr

def guardedPrefixes : List JString :=
  [js "/api/swagger-ui", js "/swagger-ui", js "/v3/api-docs"]

def isGuarded (uri : JString) : Bool :=
  guardedPrefixes.any fun start => start.isPrefixOf uri

/-- `credentials.split(":", 2)`, when it gives two parts. -/
def splitCredentials (credentials : JString) : Option (JString × JString) :=
  if 58 ∈ credentials then some (Delimited.cutAt 58 credentials) else none

/-- The username and password of an `Authorization` header. -/
def basicCredentials (header : JString) : Option (JString × JString) :=
  if (js "Basic ").isPrefixOf header then
    (Base64.decode (Base64.trim (header.drop (js "Basic ").length))).bind fun credDecoded =>
      splitCredentials (newString credDecoded)
  else none

def isActiveAdmin (user : User) : Bool :=
  user.role == some (js "ROLE_ADMIN") && user.isActive != some false

/-- The administrator the filter finds behind a request.  Exceptions of the
decoder and of the query end in `none`, too. -/
def authenticatedAdmin (primitives : Primitives) (users : UserRepository)
    (request : HttpServletRequest) : Option User := do
  let header ← request.authorization
  let (username, password) ← basicCredentials header
  let user ← (findByUsername users username).join
  if isActiveAdmin user && equalsIgnoreCase (computedHash primitives password) user.passwordHash
  then some user else none

inductive FilterOutcome where
  /-- The request goes down the chain; a guarded one as an administrator. -/
  | passed (authenticatedAs : Option User)
  | answered (status : ℕ) (wwwAuthenticate body : JString)
  deriving DecidableEq, Repr

def unauthorized : FilterOutcome :=
  .answered 401 (js "Basic realm=\"Secure API Docs (Admin Only)\"")
    (js "Unauthorized: Admin credentials required.")

def doFilterInternal (primitives : Primitives) (users : UserRepository)
    (request : HttpServletRequest) : FilterOutcome :=
  if isGuarded request.requestUri then
    match authenticatedAdmin primitives users request with
    | some user => .passed (some user)
    | none => unauthorized
  else .passed none

/-- A pattern of `requestMatchers`, cut at its slashes. -/
inductive PathPattern where
  | exact (segments : List JString)
  /-- The pattern ends in `/**`. -/
  | below (segments : List JString)
  deriving DecidableEq, Repr

namespace PathPattern

def covers : PathPattern → List JString → Bool
  | .exact segments, path => segments == path
  | .below segments, path => segments.isPrefixOf path

/-- The pattern's text up to `/**`. -/
def text : PathPattern → JString
  | .exact segments => [47].intercalate segments
  | .below segments => [47].intercalate segments

end PathPattern

/-- The documentation paths `SecurityConfig` opens to everyone. -/
def documentationPatterns : List PathPattern :=
  [.below [[], js "swagger-ui"], .exact [[], js "swagger-ui.html"],
    .below [[], js "v3", js "api-docs"], .exact [[], js "v3", js "api-docs"],
    .below [[], js "swagger-resources"], .below [[], js "webjars"]]

/-- Spring matches the decoded path. -/
def isDocumentation (uri : JString) : Bool :=
  match decodePath uri with
  | some path => documentationPatterns.any fun pattern => pattern.covers path
  | none => false

/-- The request carries the username and password of this active administrator. -/
def ProvesAdmin (primitives : Primitives) (users : UserRepository) (request : HttpServletRequest)
    (user : User) : Prop :=
  user ∈ users.rows ∧ user.role = some (js "ROLE_ADMIN") ∧ user.isActive ≠ some false ∧
    ∃ header username password, request.authorization = some header ∧
      basicCredentials header = some (username, password) ∧ user.username = some username ∧
      equalsIgnoreCase (computedHash primitives password) user.passwordHash = true

/-- A documentation request that passes the filter was authenticated. -/
def PassesOnlyAdmins (primitives : Primitives) (users : UserRepository)
    (request : HttpServletRequest) : Prop :=
  isDocumentation request.requestUri = true →
    ∀ authenticatedAs, doFilterInternal primitives users request = .passed authenticatedAs →
      ∃ user, authenticatedAs = some user ∧ ProvesAdmin primitives users request user

theorem provesAdmin_of_authenticated {primitives : Primitives} {users : UserRepository}
    {request : HttpServletRequest} {user : User}
    (hadmin : authenticatedAdmin primitives users request = some user) :
    ProvesAdmin primitives users request user := by
  obtain ⟨header, hheader, hrest⟩ := Option.bind_eq_some_iff.mp hadmin
  obtain ⟨⟨username, password⟩, hcredentials, hrest⟩ := Option.bind_eq_some_iff.mp hrest
  obtain ⟨found, hfind, hrest⟩ := Option.bind_eq_some_iff.mp hrest
  obtain ⟨hmem, husername⟩ := mem_of_findByUsername (Option.join_eq_some_iff.mp hfind)
  split at hrest
  · rename_i hcheck
    obtain rfl := Option.some.inj hrest
    simp only [isActiveAdmin, Bool.and_eq_true, beq_iff_eq, bne_iff_ne] at hcheck
    obtain ⟨⟨hrole, hactive⟩, hhash⟩ := hcheck
    exact ⟨hmem, hrole, hactive, header, username, password, hheader, hcredentials, husername,
      hhash⟩
  · cases hrest

/-- Behind the guard only administrators pass. -/
theorem provesAdmin_of_guarded {primitives : Primitives} {users : UserRepository}
    {request : HttpServletRequest} (hguarded : isGuarded request.requestUri = true)
    {authenticatedAs : Option User}
    (hpassed : doFilterInternal primitives users request = .passed authenticatedAs) :
    ∃ user, authenticatedAs = some user ∧ ProvesAdmin primitives users request user := by
  rw [doFilterInternal, if_pos hguarded] at hpassed
  split at hpassed
  · rename_i user hadmin
    cases hpassed
    exact ⟨user, rfl, provesAdmin_of_authenticated hadmin⟩
  · cases hpassed

/-- Only administrators reach a documentation path exactly when the filter
guards the way its URI spells it. -/
theorem passesOnlyAdmins_iff (primitives : Primitives) (users : UserRepository)
    (request : HttpServletRequest) :
    PassesOnlyAdmins primitives users request ↔
      (isDocumentation request.requestUri = true → isGuarded request.requestUri = true) := by
  constructor
  · intro honly hdocumentation
    by_contra hopen
    have hpassed : doFilterInternal primitives users request = .passed none := by
      rw [doFilterInternal, if_neg hopen]
    obtain ⟨user, hnone, -⟩ := honly hdocumentation none hpassed
    cases hnone
  · intro hguarded hdocumentation authenticatedAs hpassed
    exact provesAdmin_of_guarded (hguarded hdocumentation) hpassed

/-- A beginning of the URI decides whether it is guarded, unless it ends inside
a guarded prefix. -/
theorem isGuarded_of_prefix {start uri : JString} (hstart : start <+: uri)
    (hinside : ∀ guard ∈ guardedPrefixes, start <+: guard → guard = start) :
    isGuarded uri = isGuarded start := by
  rw [Bool.eq_iff_iff]
  simp only [isGuarded, List.any_eq_true, List.isPrefixOf_iff_prefix]
  constructor
  · intro ⟨guard, hguard, hprefix⟩
    refine ⟨guard, hguard, ?_⟩
    rcases List.prefix_or_prefix_of_prefix hprefix hstart with hshort | hlong
    · exact hshort
    · rw [hinside guard hguard hlong]
  · intro ⟨guard, hguard, hprefix⟩
    exact ⟨guard, hguard, hprefix.trans hstart⟩

/-- Without escapes a documentation path is guarded exactly when the pattern it
falls under is. -/
theorem isGuarded_of_covers {uri : JString} {path : List JString} {pattern : PathPattern}
    (hplain : (37 : CodeUnit) ∉ uri) (hdecode : decodePath uri = some path)
    (hpattern : pattern ∈ documentationPatterns) (hcovers : pattern.covers path = true) :
    isGuarded uri = isGuarded pattern.text := by
  have hstart : pattern.text <+: uri := by
    rw [eq_intercalate_of_decodePath hplain hdecode]
    cases pattern with
    | exact segments =>
        have hsegments : segments = path := by simpa [PathPattern.covers] using hcovers
        rw [PathPattern.text, hsegments]
    | below segments => exact intercalate_prefix (List.isPrefixOf_iff_prefix.mp hcovers)
  have hinside : ∀ pattern ∈ documentationPatterns, ∀ guard ∈ guardedPrefixes,
      pattern.text <+: guard → guard = pattern.text := by decide
  exact isGuarded_of_prefix hstart (hinside pattern hpattern)

/-- The patterns the filter does not know. -/
example : (documentationPatterns.filter fun pattern => !isGuarded pattern.text) =
    [.below [[], js "swagger-resources"], .below [[], js "webjars"]] := by
  decide

/-- The script of the documentation page, asked for by nobody in particular. -/
def webjarsRequest : HttpServletRequest where
  requestUri := js "/webjars/swagger-ui/index.html"
  authorization := none

theorem webjarsRequest_passes :
    ¬ ∀ (primitives : Primitives) (users : UserRepository) (request : HttpServletRequest),
      PassesOnlyAdmins primitives users request := by
  intro honly
  have hpassed : doFilterInternal ⟨fun message => message, fun _ claims => claims.subject⟩ .empty
      webjarsRequest = .passed none := by decide
  obtain ⟨user, hnone, -⟩ := honly _ _ webjarsRequest (by decide) none hpassed
  cases hnone

/-- The page itself, with its first letter escaped. -/
example : isDocumentation (js "/%73wagger-ui/index.html") = true ∧
    isGuarded (js "/%73wagger-ui/index.html") = false := by
  decide

end ShoppingWeb.CatalogService
