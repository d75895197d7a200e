import ShoppingWeb.Access.BearerTokens
import ShoppingWeb.Catalog.ProductController
import ShoppingWeb.Catalog.UserRegistration

/-!
# Runs of the catalog service

Requests of any method and raw URI, with any header, while time passes.  A
request gets past its token and the rules to its handler, or changes nothing.
A ledger follows the tokens that logins have answered.
-/

namespace ShoppingWeb.Access

open ShoppingWeb.Utf16
open ShoppingWeb.DecimalText
open ShoppingWeb.Shared
open ShoppingWeb.CatalogService
open ShoppingWeb.TransitionSystem

structure Platform extends JwtLibrary where
  /-- The conversion of a path variable, as far as it succeeds. -/
  toLong : JString → Option ℤ
  /-- What the firewall in front of the filters lets through; the rest, such as a
  semicolon or an escaped slash, is answered 400. -/
  passesFirewall : (requestUri : JString) → Bool

/-- A body as each handler would read it; `none` where it cannot be read. -/
structure RequestBody where
  login : Option LoginPayload
  register : Option RegisterPayload
  product : Option ProductBody
  deriving DecidableEq, Repr

structure CatalogRequest where
  method : HttpMethod
  requestUri : JString
  authorization : Option JString
  body : RequestBody
  deriving DecidableEq, Repr

/-- A login that has been answered with a token. -/
structure Issue where
  user : User
  password : JString
  issuedAt : ℤ
  deriving DecidableEq, Repr

def Issue.token (platform : Platform) (issue : Issue) : JString :=
  loginToken platform.toPrimitives issue.issuedAt issue.user

structure CatalogWorld where
  registration : RegistrationWorld
  products : ProductRepository
  now : ℤ
  /-- No handler reads it. -/
  issued : List Issue

inductive CatalogEvent where
  | elapse (millis : ℕ)
  | request (request : CatalogRequest)
  /-- A registration that has passed its check saves its user. -/
  | saveUser (registration : ℕ) (uuid : JString)
  | failSaveUser (registration : ℕ)
  deriving DecidableEq, Repr

/-- What a request with the header reaches at the catalog service at that time. -/
def openedBy (platform : Platform) (now : ℤ) (authorization : Option JString)
    (method : HttpMethod) (uri : JString) : Option Endpoint :=
  if platform.passesFirewall uri then
    match (authenticateBearer platform.toJwtLibrary now authorization).caller? with
    | none => none
    | some caller => call .catalog method uri caller
  else none

theorem openedBy_eq_some_iff {platform : Platform} {now : ℤ} {authorization : Option JString}
    {method : HttpMethod} {uri : JString} {endpoint : Endpoint} :
    openedBy platform now authorization method uri = some endpoint ↔
      platform.passesFirewall uri = true ∧
        ∃ caller, (authenticateBearer platform.toJwtLibrary now authorization).caller? =
          some caller ∧ call .catalog method uri caller = some endpoint := by
  rw [openedBy, Option.ite_none_right_eq_some]
  apply and_congr_right'
  split
  · rename_i hnone
    simp [hnone]
  · rename_i caller hcaller
    simp [hcaller]

namespace CatalogWorld

def start (users : UserRepository) (products : ProductRepository) (now : ℤ) : CatalogWorld :=
  ⟨⟨users, [], fun _ => none⟩, products, now, []⟩

def users (world : CatalogWorld) : UserRepository := world.registration.users

def newIssue (platform : Platform) (world : CatalogWorld) (payload : LoginPayload) :
    Option Issue := do
  let username ← payload.username
  let password ← payload.password
  let user ← (findByUsername world.users username).join
  match authenticate platform.toPrimitives world.now user password with
  | .loggedIn _ _ => some ⟨user, password, world.now⟩
  | .failed _ _ | .threw => none

def registers (platform : Platform) (world : CatalogWorld) (event : RegistrationEvent) :
    Option CatalogWorld :=
  (world.registration.step platform.toPrimitives event).map fun registration =>
    { world with registration }

/-- A handler that the rules have let the request through to. -/
def handle (platform : Platform) (world : CatalogWorld) (body : RequestBody) :
    CatalogHandler → Option CatalogWorld
  | .createProduct =>
      match body.product with
      | none => some world
      | some product =>
          some { world with products := (createProduct world.products product).2 }
  | .updateProduct id =>
      match platform.toLong id, body.product with
      | some id, some product =>
          match updateProduct world.products id product with
          | .ok (_, products) => some { world with products }
          | .error _ => some world
      | _, _ => some world
  | .deleteProduct id =>
      match platform.toLong id with
      | none => some world
      | some id => some { world with products := deleteProduct world.products id }
  | .softDeleteUser id => world.registers platform (.softDeleteUser id)
  | .login =>
      let issue := body.login.bind (world.newIssue platform)
      some { world with issued := world.issued ++ issue.toList }
  | .register =>
      match body.register with
      | none => some world
      | some payload => world.registers platform (.check payload)
  | .getAllProducts | .getProductById _ | .getAllUsers | .getAllCategories => some world

def serve (platform : Platform) (world : CatalogWorld) (request : CatalogRequest) :
    Option CatalogWorld :=
  match openedBy platform world.now request.authorization request.method request.requestUri with
  | some (.catalog handler) => world.handle platform request.body handler
  | _ => some world

def step (platform : Platform) (world : CatalogWorld) : CatalogEvent → Option CatalogWorld
  | .elapse millis => some { world with now := world.now + millis }
  | .request request => world.serve platform request
  | .saveUser registration uuid => world.registers platform (.save registration uuid)
  | .failSaveUser registration => world.registers platform (.failSave registration)

end CatalogWorld

/-! ## Logins -/

section Login

variable {primitives : Primitives} {now : ℤ} {user : User} {password token : JString}
  {map : UserMap}

theorem authenticate_eq_loggedIn_iff :
    authenticate primitives now user password = .loggedIn token map ↔
      (user.isActive ≠ some false ∧
        equalsIgnoreCase (computedHash primitives password) user.passwordHash = true) ∧
      loginToken primitives now user = token ∧ userMap user = map := by
  rw [authenticate]
  split
  · rename_i hinactive
    simp [hinactive]
  · rename_i hactive
    split
    · rename_i hhash
      have hwrong : equalsIgnoreCase (computedHash primitives password) user.passwordHash = false :=
        by simpa using hhash
      simp [hwrong]
    · rename_i hhash
      rw [generateToken_eq, LoginResponse.loggedIn.injEq]
      exact (and_iff_right ⟨hactive, by simpa using hhash⟩).symm

end Login

namespace CatalogWorld

variable {platform : Platform} {world next : CatalogWorld} {payload : LoginPayload} {issue : Issue}

theorem newIssue_eq_some_iff :
    world.newIssue platform payload = some issue ↔
      ∃ username, payload.username = some username ∧ payload.password = some issue.password ∧
        findByUsername world.users username = some (some issue.user) ∧
        (issue.user.isActive ≠ some false ∧
          equalsIgnoreCase (computedHash platform.toPrimitives issue.password)
            issue.user.passwordHash = true) ∧
        issue.issuedAt = world.now := by
  simp only [newIssue, Option.bind_eq_bind, Option.bind_eq_some_iff, Option.join_eq_some_iff]
  constructor
  · intro ⟨username, husername, password, hpassword, user, hfind, hissue⟩
    split at hissue
    · rename_i hlogin
      obtain rfl := Option.some.inj hissue
      exact ⟨username, husername, hpassword, hfind, (authenticate_eq_loggedIn_iff.mp hlogin).1, rfl⟩
    all_goals cases hissue
  · intro ⟨username, husername, hpassword, hfind, hchecked, hnow⟩
    refine ⟨username, husername, issue.password, hpassword, issue.user, hfind, ?_⟩
    rw [authenticate_eq_loggedIn_iff.mpr ⟨hchecked, rfl, rfl⟩, ← hnow]

/-- The ledger has exactly the logins that have been answered with a token. -/
theorem login_eq_loggedIn_iff {token : JString} {map : UserMap} :
    login platform.toPrimitives world.now world.users payload = .loggedIn token map ↔
      ∃ issue, world.newIssue platform payload = some issue ∧ issue.token platform = token ∧
        userMap issue.user = map := by
  simp only [newIssue_eq_some_iff, Issue.token]
  constructor
  · intro hlogin
    rw [login] at hlogin
    split at hlogin
    · rename_i username password husername hpassword
      split at hlogin
      · cases hlogin
      · cases hlogin
      · rename_i user hfind
        obtain ⟨hchecked, htoken, hmap⟩ := authenticate_eq_loggedIn_iff.mp hlogin
        exact ⟨⟨user, password, world.now⟩, ⟨username, husername, hpassword, hfind, hchecked, rfl⟩,
          htoken, hmap⟩
    · cases hlogin
  · intro hissued
    obtain ⟨issue, ⟨username, husername, hpassword, hfind, hchecked, hnow⟩, htoken, hmap⟩ := hissued
    rw [login, husername, hpassword]
    simp only [hfind]
    rw [← hnow]
    exact authenticate_eq_loggedIn_iff.mpr ⟨hchecked, htoken, hmap⟩

/-- A login opens to its token, for a day and about a minute, every handler that
is mapped to a path that gets past the firewall and that the user's role allows,
and nothing else. -/
theorem login_opens (hreads : platform.ReadsSigned) (hcompact : platform.IsCompact)
    (hnow : 0 ≤ world.now) {token : JString} {map : UserMap}
    (hlogin : login platform.toPrimitives world.now world.users payload = .loggedIn token map)
    (later : ℤ) (method : HttpMethod) (uri : JString) (handler : CatalogHandler) :
    openedBy platform later (some (js "Bearer " ++ token)) method uri = some (.catalog handler) ↔
    later ≤ world.now / 1000 * 1000 + (86400 + 60) * 1000 ∧ platform.passesFirewall uri = true ∧
      (∃ path, matchedPath uri = some path ∧
        dispatch catalogMappings ⟨method, path⟩ = some handler) ∧
      (handler.IsRestricted → map.role = some (js "ROLE_ADMIN")) := by
  obtain ⟨issue, hissue, rfl, rfl⟩ := login_eq_loggedIn_iff.mp hlogin
  obtain ⟨-, -, -, -, -, hissued⟩ := newIssue_eq_some_iff.mp hissue
  rw [openedBy_eq_some_iff, Issue.token, hissued,
    authenticateBearer_loginToken hreads hcompact hnow,
    ← isCurrent_loginJwt_iff world.now later issue.user, and_left_comm]
  apply and_congr_right'
  split
  · rename_i hcurrent
    rw [and_iff_right hcurrent]
    simp only [Authentication.caller?, Option.some.injEq, exists_eq_left', call_eq_some_iff]
    rw [← exists_and_right]
    apply exists_congr
    intro path
    rw [and_assoc]
    apply and_congr_right'
    rw [Service.endpoint, Option.map_eq_some_iff]
    simp only [Endpoint.catalog.injEq, exists_eq_right]
    apply and_congr_right'
    exact mayBeCalled_some_iff.trans (imp_congr_right fun _ => isAdmin_loginJwt_iff)
  · rename_i hexpired
    constructor
    · intro ⟨caller, hcaller, _⟩
      cases hcaller
    · intro ⟨hcurrent, _⟩
      exact absurd hcurrent hexpired

/-- Its firewall refuses parameters and escapes. -/
def samplePlatform : Platform :=
  { plainLibrary with
    toLong := fun text => some (intValue text)
    passesFirewall := fun uri => !uri.contains 59 && !uri.contains 37 }

def sampleAdmin : User where
  id := js "1"
  username := some (js "admin")
  email := none
  role := some (js "ROLE_ADMIN")
  isActive := some true
  passwordHash := some (computedHash samplePlatform.toPrimitives (js "secret"))

def sampleLogin : LoginPayload := ⟨some (js "admin"), some (js "secret")⟩

def sampleUsers : UserRepository := Records.empty.save sampleAdmin

def sampleProducts : ProductRepository :=
  .insert .empty ⟨⟨none, none, none, none, none, none, none, some true⟩, 0⟩

def sampleStart : CatalogWorld := .start sampleUsers sampleProducts 0

/-- An administrator deletes a product a day after the login. -/
theorem login_opens_deleteProduct :
    ∃ token, login samplePlatform.toPrimitives 0 sampleStart.users sampleLogin =
        .loggedIn token (userMap sampleAdmin) ∧
      openedBy samplePlatform (86400 * 1000) (some (js "Bearer " ++ token)) .DELETE
        (js "/api/products/1") = some (.catalog (.deleteProduct (js "1"))) := by
  have hissue : sampleStart.newIssue samplePlatform sampleLogin =
      some ⟨sampleAdmin, js "secret", 0⟩ := by rfl
  have hlogin := login_eq_loggedIn_iff.mpr ⟨_, hissue, rfl, rfl⟩
  have hopens := login_opens readsSigned_plainLibrary isCompact_plainLibrary (le_refl 0) hlogin
    (86400 * 1000) .DELETE (js "/api/products/1") (.deleteProduct (js "1"))
  exact ⟨_, hlogin, hopens.mpr ⟨by decide, by decide,
    ⟨[[], js "api", js "products", js "1"], by decide, by decide⟩, fun _ => rfl⟩⟩

/-! ## One event -/

/-- What an event does.  Each field says which handler is behind a change. -/
structure Effect (platform : Platform) (world : CatalogWorld) (handler : Option CatalogHandler)
    (next : CatalogWorld) : Prop where
  now : world.now ≤ next.now
  users : next.users = world.users ∨
    ∃ id, handler = some (.softDeleteUser id) ∧ next.users = softDeleteUser world.users id
  products : next.products = world.products ∨ handler = some .createProduct ∨
    ∃ id, handler = some (.updateProduct id) ∨ handler = some (.deleteProduct id)
  issued : next.issued = world.issued ∨
    ∃ payload issue, world.newIssue platform payload = some issue ∧
      next.issued = world.issued ++ [issue]

theorem effect_refl (world : CatalogWorld) (handler : Option CatalogHandler) :
    Effect platform world handler world :=
  ⟨le_refl _, .inl rfl, .inl rfl, .inl rfl⟩

theorem effect_handle {body : RequestBody} {handler : CatalogHandler}
    (hhandle : world.handle platform body handler = some next) :
    Effect platform world (some handler) next := by
  cases handler with
  | createProduct =>
      rw [handle] at hhandle
      split at hhandle
      all_goals obtain rfl := Option.some.inj hhandle
      · exact effect_refl _ _
      · exact ⟨le_refl _, .inl rfl, .inr (.inl rfl), .inl rfl⟩
  | updateProduct id =>
      rw [handle] at hhandle
      split at hhandle
      · split at hhandle
        all_goals obtain rfl := Option.some.inj hhandle
        · exact ⟨le_refl _, .inl rfl, .inr (.inr ⟨id, .inl rfl⟩), .inl rfl⟩
        · exact effect_refl _ _
      · obtain rfl := Option.some.inj hhandle
        exact effect_refl _ _
  | deleteProduct id =>
      rw [handle] at hhandle
      split at hhandle
      all_goals obtain rfl := Option.some.inj hhandle
      · exact effect_refl _ _
      · exact ⟨le_refl _, .inl rfl, .inr (.inr ⟨id, .inr rfl⟩), .inl rfl⟩
  | softDeleteUser id =>
      rw [handle, registers] at hhandle
      obtain ⟨registration, hstep, rfl⟩ := Option.map_eq_some_iff.mp hhandle
      obtain rfl := Option.some.inj hstep
      exact ⟨le_refl _, .inr ⟨id, rfl, rfl⟩, .inl rfl, .inl rfl⟩
  | login =>
      obtain rfl := Option.some.inj hhandle
      refine ⟨le_refl _, .inl rfl, .inl rfl, ?_⟩
      cases hissue : body.login.bind (world.newIssue platform) with
      | none => exact .inl (List.append_nil _)
      | some issue =>
          obtain ⟨payload, -, hpayload⟩ := Option.bind_eq_some_iff.mp hissue
          exact .inr ⟨payload, issue, hpayload, rfl⟩
  | register =>
      rw [handle] at hhandle
      split at hhandle
      · obtain rfl := Option.some.inj hhandle
        exact effect_refl _ _
      · rename_i payload _
        rw [registers] at hhandle
        obtain ⟨registration, hstep, rfl⟩ := Option.map_eq_some_iff.mp hhandle
        rcases RegistrationWorld.step_cases hstep with ⟨husers, -, -⟩ |
          ⟨request, uuid, registration, hevent, -⟩ | ⟨id, hevent, -⟩
        · exact ⟨le_refl _, .inl husers, .inl rfl, .inl rfl⟩
        · cases hevent
        · cases hevent
  | _ =>
      obtain rfl := Option.some.inj hhandle
      exact effect_refl _ _

/-- An event has the effect of a handler that its request may call, or saves the
user of a registration, or changes neither users nor products. -/
inductive Moves (platform : Platform) (world : CatalogWorld) : CatalogEvent → CatalogWorld → Prop
  | quiet (event next) (heffect : Effect platform world none next) :
      Moves platform world event next
  | handled (request : CatalogRequest) (handler caller next)
      (hcaller : (authenticateBearer platform.toJwtLibrary world.now
        request.authorization).caller? = some caller)
      (hmay : handler.MayBeCalled request.method caller)
      (heffect : Effect platform world (some handler) next) :
      Moves platform world (.request request) next
  | saved (registration uuid next payload)
      (hchecked : world.registration.checked[registration]? = some payload)
      (husers : next.users = world.users.save (newUser platform.toPrimitives uuid payload))
      (hrest : next.products = world.products ∧ next.now = world.now ∧
        next.issued = world.issued) :
      Moves platform world (.saveUser registration uuid) next

theorem serve_of_openedBy (request : CatalogRequest) {handler : CatalogHandler}
    (hopened : openedBy platform world.now request.authorization request.method
      request.requestUri = some (.catalog handler)) :
    world.serve platform request = world.handle platform request.body handler := by
  rw [serve, hopened]

theorem moves_of_step {event : CatalogEvent} (hstep : world.step platform event = some next) :
    Moves platform world event next := by
  cases event with
  | elapse millis =>
      obtain rfl := Option.some.inj hstep
      refine .quiet _ _ ⟨?_, .inl rfl, .inl rfl, .inl rfl⟩
      exact le_add_of_nonneg_right (Int.natCast_nonneg millis)
  | request request =>
      change world.serve platform request = some next at hstep
      rw [serve] at hstep
      split at hstep
      · rename_i handler hopened
        obtain ⟨-, caller, hcaller, hcall⟩ := openedBy_eq_some_iff.mp hopened
        obtain ⟨path, -, -, hmay⟩ := call_eq_some_iff.mp hcall
        exact .handled request handler caller next hcaller hmay (effect_handle hstep)
      · obtain rfl := Option.some.inj hstep
        exact .quiet _ _ (effect_refl _ _)
  | saveUser registration uuid =>
      obtain ⟨after, hafter, rfl⟩ := Option.map_eq_some_iff.mp hstep
      obtain ⟨payload, hchecked, rfl⟩ := Option.map_eq_some_iff.mp hafter
      exact .saved registration uuid _ payload hchecked rfl ⟨rfl, rfl, rfl⟩
  | failSaveUser registration =>
      obtain ⟨after, hafter, rfl⟩ := Option.map_eq_some_iff.mp hstep
      obtain ⟨payload, -, rfl⟩ := Option.map_eq_some_iff.mp hafter
      exact .quiet _ _ ⟨le_refl _, .inl rfl, .inl rfl, .inl rfl⟩

end CatalogWorld

end ShoppingWeb.Access
