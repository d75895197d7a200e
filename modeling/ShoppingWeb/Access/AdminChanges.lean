import ShoppingWeb.Access.CatalogRuns

/-!
# Who changes products and users

Where nobody forges a token and a random id is new, every change of a product
and of a stored user is due to an administrator of the first day who has logged
in within the last day.  A user who has been deactivated loses access within a
day, not at once.
-/

namespace ShoppingWeb.Access

open ShoppingWeb.Utf16
open ShoppingWeb.Shared
open ShoppingWeb.CatalogService
open ShoppingWeb.TransitionSystem

section Users

variable {users : UserRepository} {user : User} {id : JString}

theorem exists_of_mem_softDeleteUser (huser : user ∈ (softDeleteUser users id).rows) :
    ∃ old ∈ users.rows, user = { old with isActive := user.isActive } := by
  rw [softDeleteUser] at huser
  split at huser
  · exact ⟨user, huser, rfl⟩
  · rename_i old hfind
    rcases Records.mem_save.mp huser with rfl | ⟨hkept, -⟩
    · exact ⟨old, (Records.findById_eq_some_iff.mp hfind).1, rfl⟩
    · exact ⟨user, hkept, rfl⟩

theorem softDeleteUser_of_forall_ne (hid : ∀ user ∈ users.rows, user.id ≠ id) :
    softDeleteUser users id = users := by
  rw [softDeleteUser]
  split
  · rfl
  · rename_i old hfind
    obtain ⟨hmem, hold⟩ := Records.findById_eq_some_iff.mp hfind
    exact absurd hold (hid old hmem)

/-- An inactive user stays inactive. -/
theorem inactive_softDeleteUser (huser : user ∈ users.rows)
    (hinactive : user.isActive = some false) :
    ∃ after ∈ (softDeleteUser users id).rows, after.id = user.id ∧ after.isActive = some false := by
  rw [softDeleteUser]
  split
  · exact ⟨user, huser, rfl, hinactive⟩
  · rename_i old hfind
    by_cases hsame : user.id = old.id
    · exact ⟨_, Records.mem_save.mpr (.inl rfl), hsame.symm, rfl⟩
    · exact ⟨user, Records.mem_save.mpr (.inr ⟨huser, hsame⟩), rfl, hinactive⟩

end Users

/-- A user of the first day, who may have been deactivated since. -/
def Descends (initial : UserRepository) (user : User) : Prop :=
  ∃ first ∈ initial.rows, user = { first with isActive := user.isActive }

/-- What is true of a login that has been answered with a token. -/
structure Issue.Proper (platform : Platform) (initial : UserRepository) (now : ℤ)
    (issue : Issue) : Prop where
  active : issue.user.isActive ≠ some false
  password : equalsIgnoreCase (computedHash platform.toPrimitives issue.password)
    issue.user.passwordHash = true
  begun : 0 ≤ issue.issuedAt
  past : issue.issuedAt ≤ now
  admin : issue.user.role = some (js "ROLE_ADMIN") → Descends initial issue.user

/-- An administrator of the first day has logged in with the password less than
a day and a minute ago. -/
structure Issue.OfAdministrator (platform : Platform) (initial : UserRepository) (now : ℤ)
    (issue : Issue) : Prop extends issue.Proper platform initial now where
  role : issue.user.role = some (js "ROLE_ADMIN")
  recent : now ≤ issue.issuedAt + (86400 + 60) * 1000

namespace CatalogWorld

/-- Nobody presents a token that no login has been answered with. -/
def Unforged (platform : Platform) (world : CatalogWorld) : CatalogEvent → Prop
  | .request request =>
      ∀ token, bearerToken request.authorization = .given token →
        platform.verifyJwt (getBytes jwtSecret) token ≠ none →
          ∃ issue ∈ world.issued, token = issue.token platform
  | _ => True

/-- A random UUID is the id of no user yet. -/
def DrawsNewId (world : CatalogWorld) : CatalogEvent → Prop
  | .saveUser _ uuid => uuid.length = 36 ∧ ∀ user ∈ world.users.rows, user.id ≠ uuid
  | _ => True

def Ordinary (platform : Platform) (world : CatalogWorld) (event : CatalogEvent) : Prop :=
  world.Unforged platform event ∧ world.DrawsNewId event

/-- The clock has not gone below its start, and no login is later than now. -/
structure Clocked (world : CatalogWorld) : Prop where
  now_nonneg : 0 ≤ world.now
  begun : ∀ issue ∈ world.issued, 0 ≤ issue.issuedAt
  past : ∀ issue ∈ world.issued, issue.issuedAt ≤ world.now

/-- Administrators are those of the first day, and so are the tokens for them. -/
structure Guards (platform : Platform) (initial : UserRepository) (world : CatalogWorld) :
    Prop where
  now_nonneg : 0 ≤ world.now
  admins : ∀ user ∈ world.users.rows, user.role = some (js "ROLE_ADMIN") → Descends initial user
  ids : ∀ user ∈ world.users.rows, user.id ≠ js "login" ∧ user.id ≠ js "register"
  issued : ∀ issue ∈ world.issued, issue.Proper platform initial world.now

variable {platform : Platform} {initial : UserRepository} {world next : CatalogWorld}
  {event : CatalogEvent}

theorem guards_start {products : ProductRepository} {now : ℤ} (hnow : 0 ≤ now)
    (hids : ∀ user ∈ initial.rows, user.id ≠ js "login" ∧ user.id ≠ js "register") :
    Guards platform initial (.start initial products now) where
  now_nonneg := hnow
  admins user huser _ := ⟨user, huser, rfl⟩
  ids := hids
  issued issue hissue := by cases hissue

theorem Guards.clocked (hguards : Guards platform initial world) : world.Clocked where
  now_nonneg := hguards.now_nonneg
  begun issue hissue := (hguards.issued issue hissue).begun
  past issue hissue := (hguards.issued issue hissue).past

/-- A login that is answered with a token now. -/
theorem proper_of_newIssue (hguards : Guards platform initial world) {payload : LoginPayload}
    {issue : Issue} (hissue : world.newIssue platform payload = some issue) :
    issue.Proper platform initial world.now := by
  obtain ⟨username, -, -, hfind, ⟨hactive, hhash⟩, hnow⟩ := newIssue_eq_some_iff.mp hissue
  exact
    { active := hactive
      password := hhash
      begun := by rw [hnow]; exact hguards.now_nonneg
      past := hnow.le
      admin := hguards.admins issue.user (mem_of_findByUsername hfind).1 }

theorem guards_effect {handler : Option CatalogHandler} (hguards : Guards platform initial world)
    (heffect : Effect platform world handler next) : Guards platform initial next := by
  have hpast (issue : Issue) (hproper : issue.Proper platform initial world.now) :
      issue.Proper platform initial next.now :=
    { hproper with past := hproper.past.trans heffect.now }
  have hold : ∀ user ∈ next.users.rows, ∃ old ∈ world.users.rows,
      user = { old with isActive := user.isActive } := by
    intro user huser
    rcases heffect.users with husers | ⟨id, -, husers⟩
    · exact ⟨user, husers ▸ huser, rfl⟩
    · exact exists_of_mem_softDeleteUser (husers ▸ huser)
  refine ⟨hguards.now_nonneg.trans heffect.now, fun user huser hadmin => ?_, fun user huser => ?_,
    fun issue hissue => ?_⟩
  · obtain ⟨old, holdMem, heq⟩ := hold user huser
    have hrole : user.role = old.role := by rw [heq]
    obtain ⟨first, hfirst, hdescends⟩ := hguards.admins old holdMem (hrole ▸ hadmin)
    refine ⟨first, hfirst, ?_⟩
    rw [heq, hdescends]
  · obtain ⟨old, holdMem, heq⟩ := hold user huser
    have hid : user.id = old.id := by rw [heq]
    rw [hid]
    exact hguards.ids old holdMem
  · rcases heffect.issued with hissued | ⟨payload, new, hnew, hissued⟩
    · exact hpast issue (hguards.issued issue (hissued ▸ hissue))
    · rw [hissued] at hissue
      rcases List.mem_append.mp hissue with hearlier | hlast
      · exact hpast issue (hguards.issued issue hearlier)
      · rw [List.mem_singleton.mp hlast]
        exact hpast new (proper_of_newIssue hguards hnew)

theorem guards_saved {payload : Registration} {uuid : JString}
    (hguards : Guards platform initial world) (huuid : uuid.length = 36)
    (husers : next.users = world.users.save (newUser platform.toPrimitives uuid payload))
    (hrest : next.now = world.now ∧ next.issued = world.issued) : Guards platform initial next := by
  refine ⟨hrest.1 ▸ hguards.now_nonneg, fun user huser hadmin => ?_, fun user huser => ?_,
    fun issue hissue => ?_⟩
  · rw [husers] at huser
    rcases Records.mem_save.mp huser with rfl | ⟨hkept, -⟩
    · have hrole : some (js "ROLE_USER") ≠ some (js "ROLE_ADMIN") := by decide
      exact absurd hadmin hrole
    · exact hguards.admins user hkept hadmin
  · rw [husers] at huser
    rcases Records.mem_save.mp huser with rfl | ⟨hkept, -⟩
    · constructor
      · rintro rfl
        exact absurd huuid (by decide)
      · rintro rfl
        exact absurd huuid (by decide)
    · exact hguards.ids user hkept
  · rw [hrest.1]
    exact hguards.issued issue (hrest.2 ▸ hissue)

theorem guards_step (world : CatalogWorld) (event : CatalogEvent) (next : CatalogWorld)
    (hguards : Guards platform initial world) (hordinary : world.Ordinary platform event)
    (hstep : world.step platform event = some next) : Guards platform initial next := by
  cases moves_of_step hstep with
  | quiet _ _ heffect => exact guards_effect hguards heffect
  | handled request handler caller _ hcaller hmay heffect => exact guards_effect hguards heffect
  | saved registration uuid _ payload hchecked husers hrest =>
      exact guards_saved hguards hordinary.2.1 husers hrest.2

/-! ## Requests with a token -/

/-- A request that is taken for somebody's carries the token of a login that
may still be current. -/
theorem exists_issue_of_authenticated (hreads : platform.ReadsSigned)
    (hclocked : world.Clocked) {request : CatalogRequest}
    (hunforged : world.Unforged platform (.request request)) {jwt : VerifiedJwt}
    (hauthenticated : authenticateBearer platform.toJwtLibrary world.now request.authorization =
      .authenticated jwt) :
    ∃ issue ∈ world.issued, bearerToken request.authorization = .given (issue.token platform) ∧
      jwt = loginJwt issue.issuedAt issue.user ∧
      world.now ≤ issue.issuedAt + (86400 + 60) * 1000 := by
  rw [authenticateBearer] at hauthenticated
  split at hauthenticated
  · cases hauthenticated
  · cases hauthenticated
  · rename_i token htoken
    split at hauthenticated
    · cases hauthenticated
    · rename_i verified hverified
      split at hauthenticated
      · rename_i hcurrent
        obtain rfl := Authentication.authenticated.inj hauthenticated
        obtain ⟨issue, hissue, rfl⟩ := hunforged token htoken (by rw [hverified]; simp)
        have hread := hreads issue.issuedAt issue.user (hclocked.begun issue hissue)
        obtain rfl := Option.some.inj (hverified.symm.trans hread)
        have hrecent := (isCurrent_loginJwt_iff _ _ _).mp hcurrent
        exact ⟨issue, hissue, htoken, rfl, by omega⟩
      · cases hauthenticated

/-- A request of an administrator. -/
theorem exists_issue_of_isAdmin (hreads : platform.ReadsSigned)
    (hguards : Guards platform initial world) {request : CatalogRequest}
    (hunforged : world.Unforged platform (.request request)) {caller : Caller}
    (hcaller : (authenticateBearer platform.toJwtLibrary world.now
      request.authorization).caller? = some caller) (hadmin : caller.IsAdmin) :
    ∃ issue ∈ world.issued, bearerToken request.authorization = .given (issue.token platform) ∧
      issue.OfAdministrator platform initial world.now := by
  cases hauthenticated :
      authenticateBearer platform.toJwtLibrary world.now request.authorization with
  | anonymous =>
      rw [hauthenticated] at hcaller
      obtain rfl := Option.some.inj hcaller
      exact absurd hadmin (by decide)
  | refused =>
      rw [hauthenticated] at hcaller
      cases hcaller
  | authenticated jwt =>
      rw [hauthenticated] at hcaller
      obtain rfl := Option.some.inj hcaller
      obtain ⟨issue, hissue, htoken, rfl, hrecent⟩ :=
        exists_issue_of_authenticated hreads hguards.clocked hunforged hauthenticated
      have hrole := isAdmin_loginJwt_iff.mp hadmin
      exact ⟨issue, hissue, htoken,
        { hguards.issued issue hissue with role := hrole, recent := hrecent }⟩

/-- A change of a product or of a stored user. -/
def Changes (world next : CatalogWorld) : Prop :=
  next.products ≠ world.products ∨ ∃ user ∈ world.users.rows, user ∉ next.users.rows

theorem Changes.products_ne {handler : Option CatalogHandler} (hchanges : world.Changes next)
    (heffect : Effect platform world handler next) :
    next.products ≠ world.products ∨
      ∃ id, handler = some (.softDeleteUser id) ∧ ∃ user ∈ world.users.rows, user.id = id := by
  rcases hchanges with hproducts | ⟨user, huser, hgone⟩
  · exact .inl hproducts
  · rcases heffect.users with husers | ⟨id, hhandler, husers⟩
    · rw [husers] at hgone
      exact absurd huser hgone
    · by_cases hid : ∃ user ∈ world.users.rows, user.id = id
      · exact .inr ⟨id, hhandler, hid⟩
      · have hnobody : ∀ user ∈ world.users.rows, user.id ≠ id := by simpa using hid
        rw [husers, softDeleteUser_of_forall_ne hnobody] at hgone
        exact absurd huser hgone

/-- Nobody but an administrator may call a handler that changes something. -/
theorem isAdmin_of_changes {handler : CatalogHandler} {method : HttpMethod} {caller : Caller}
    (hguards : Guards platform initial world) (hchanges : world.Changes next)
    (heffect : Effect platform world (some handler) next)
    (hmay : handler.MayBeCalled method caller) : caller.IsAdmin := by
  rcases hchanges.products_ne heffect with hproducts | ⟨id, hhandler, user, huser, rfl⟩
  · rcases heffect.products with hsame | hcreate | ⟨id, hupdate | hdelete⟩
    · exact absurd hsame hproducts
    · rw [Option.some.inj hcreate] at hmay
      exact hmay
    · rw [Option.some.inj hupdate] at hmay
      exact hmay
    · rw [Option.some.inj hdelete] at hmay
      exact hmay
  · rw [Option.some.inj hhandler] at hmay
    -- The two open paths are the ids of no user.
    rcases hmay with hlogin | hregister | hadmin
    · exact absurd hlogin (hguards.ids user huser).1
    · exact absurd hregister (hguards.ids user huser).2
    · exact hadmin

theorem changes_step (hreads : platform.ReadsSigned) (hguards : Guards platform initial world)
    (hordinary : world.Ordinary platform event) (hstep : world.step platform event = some next)
    (hchanges : world.Changes next) :
    ∃ request issue, event = .request request ∧ issue ∈ world.issued ∧
      bearerToken request.authorization = .given (issue.token platform) ∧
      issue.OfAdministrator platform initial world.now := by
  cases moves_of_step hstep with
  | quiet _ _ heffect =>
      exfalso
      rcases hchanges.products_ne heffect with hproducts | ⟨id, hhandler, -⟩
      · rcases heffect.products with hsame | hcreate | ⟨id, hupdate | hdelete⟩
        · exact hproducts hsame
        · cases hcreate
        · cases hupdate
        · cases hdelete
      · cases hhandler
  | handled request handler caller _ hcaller hmay heffect =>
      obtain ⟨issue, hissue, htoken, hadmin⟩ :=
        exists_issue_of_isAdmin hreads hguards hordinary.1 hcaller
          (isAdmin_of_changes hguards hchanges heffect hmay)
      exact ⟨request, issue, rfl, hissue, htoken, hadmin⟩
  | saved registration uuid _ payload hchecked husers hrest =>
      exfalso
      rcases hchanges with hproducts | ⟨user, huser, hgone⟩
      · exact hproducts hrest.1
      · rw [husers] at hgone
        exact hgone (Records.mem_save.mpr (.inr ⟨huser, hordinary.2.2 user huser⟩))

/-- In every run, a request that changes a product or a stored user carries the
token of an administrator of the first day, who has logged in with the password
less than a day and a minute before. -/
theorem changes_by_administrators (hreads : platform.ReadsSigned) {products : ProductRepository}
    {now : ℤ} {events : List CatalogEvent} (hnow : 0 ≤ now)
    (hids : ∀ user ∈ initial.rows, user.id ≠ js "login" ∧ user.id ≠ js "register")
    (hordinary : Guarded (step platform) (Ordinary platform) (.start initial products now)
      (events ++ [event]))
    (hrun : run (step platform) (.start initial products now) events = some world)
    (hstep : world.step platform event = some next) (hchanges : world.Changes next) :
    ∃ request issue, event = .request request ∧ issue ∈ world.issued ∧
      bearerToken request.authorization = .given (issue.token platform) ∧
      issue.OfAdministrator platform initial world.now := by
  obtain ⟨hbefore, hlast⟩ := guarded_append hordinary hrun
  have hguards := run_preserves guards_step (guards_start hnow hids) hbefore hrun
  exact changes_step hreads hguards hlast.1 hstep hchanges

def sampleIssue : Issue := ⟨sampleAdmin, js "secret", 0⟩

/-- The world after the login. -/
def sampleWorld : CatalogWorld := { sampleStart with issued := [sampleIssue] }

def loginRequest : CatalogRequest where
  method := .POST
  requestUri := js "/api/users/login"
  authorization := none
  body := ⟨some sampleLogin, none, none⟩

def deleteRequest (uri : String) : CatalogRequest where
  method := .DELETE
  requestUri := js uri
  authorization := some (js "Bearer " ++ sampleIssue.token samplePlatform)
  body := ⟨none, none, none⟩

theorem step_loginRequest :
    sampleStart.step samplePlatform (.request loginRequest) = some sampleWorld := by
  rfl

/-- The administrator's token is good. -/
theorem authenticateBearer_deleteRequest (uri : String) :
    authenticateBearer samplePlatform.toJwtLibrary 0 (deleteRequest uri).authorization =
      .authenticated (loginJwt 0 sampleAdmin) := by
  have hbearer := @authenticateBearer_loginToken plainLibrary 0 0 sampleAdmin
    readsSigned_plainLibrary isCompact_plainLibrary (le_refl 0)
  rwa [if_pos (by decide)] at hbearer

theorem unforged_deleteRequest {world : CatalogWorld} (uri : String)
    (hissued : sampleIssue ∈ world.issued) :
    world.Unforged samplePlatform (.request (deleteRequest uri)) := by
  intro token htoken _
  obtain ⟨hne, hunits⟩ := isCompact_plainLibrary 0 sampleAdmin
  have hgiven : bearerToken (deleteRequest uri).authorization =
      .given (sampleIssue.token samplePlatform) := bearerToken_of_compact hne hunits
  rw [hgiven] at htoken
  exact ⟨sampleIssue, hissued, (BearerToken.given.inj htoken).symm⟩

/-- The caller whom the rules see. -/
theorem caller_deleteRequest (uri : String) :
    (authenticateBearer samplePlatform.toJwtLibrary 0
      (deleteRequest uri).authorization).caller? = some (some [js "SCOPE_admin"]) := by
  rw [authenticateBearer_deleteRequest]
  decide

theorem step_deleteRequest (uri : String) (handler : CatalogHandler)
    (hpasses : samplePlatform.passesFirewall (js uri) = true)
    (hcall : call .catalog .DELETE (js uri) (some [js "SCOPE_admin"]) = some (.catalog handler)) :
    sampleWorld.step samplePlatform (.request (deleteRequest uri)) =
      sampleWorld.handle samplePlatform ⟨none, none, none⟩ handler :=
  @serve_of_openedBy samplePlatform sampleWorld (deleteRequest uri) _
    (openedBy_eq_some_iff.mpr ⟨hpasses, _, caller_deleteRequest uri, hcall⟩)

theorem step_deleteProduct :
    sampleWorld.step samplePlatform (.request (deleteRequest "/api/products/1")) =
      some { sampleWorld with products := deleteProduct sampleProducts 1 } :=
  step_deleteRequest "/api/products/1" (.deleteProduct (js "1")) (by decide) (by decide)

theorem step_softDeleteUser :
    sampleWorld.step samplePlatform (.request (deleteRequest "/api/users/1")) =
      some { sampleWorld with
        registration := { sampleWorld.registration with
          users := softDeleteUser sampleUsers (js "1") } } :=
  step_deleteRequest "/api/users/1" (.softDeleteUser (js "1")) (by decide) (by decide)

theorem ids_sampleUsers :
    ∀ user ∈ sampleUsers.rows, user.id ≠ js "login" ∧ user.id ≠ js "register" := by
  intro user huser
  obtain rfl : user = sampleAdmin := List.mem_singleton.mp huser
  decide

theorem ordinary_loginRequest :
    sampleStart.Ordinary samplePlatform (.request loginRequest) :=
  ⟨fun _ htoken => (by cases htoken), trivial⟩

theorem changes_by_administrators_sample :
    ∃ next, sampleWorld.step samplePlatform (.request (deleteRequest "/api/products/1")) =
        some next ∧
      ∃ request issue, CatalogEvent.request (deleteRequest "/api/products/1") = .request request ∧
        issue ∈ sampleWorld.issued ∧
        bearerToken request.authorization = .given (issue.token samplePlatform) ∧
        issue.OfAdministrator samplePlatform sampleUsers sampleWorld.now := by
  have hordinary : Guarded (step samplePlatform) (Ordinary samplePlatform) sampleStart
      ([.request loginRequest] ++ [.request (deleteRequest "/api/products/1")]) := by
    refine ⟨ordinary_loginRequest, fun next hnext => ?_⟩
    obtain rfl := Option.some.inj (step_loginRequest.symm.trans hnext)
    exact ⟨⟨unforged_deleteRequest _ List.mem_cons_self, trivial⟩, fun _ _ => trivial⟩
  have hrun : run (step samplePlatform) sampleStart [.request loginRequest] = some sampleWorld :=
    run_cons_eq_some.mpr ⟨sampleWorld, step_loginRequest, rfl⟩
  have hchanges : sampleWorld.Changes
      { sampleWorld with products := deleteProduct sampleProducts 1 } := by
    left
    intro hsame
    exact absurd (congrArg Table.rows hsame) (by decide)
  exact ⟨_, step_deleteProduct,
    changes_by_administrators readsSigned_plainLibrary (le_refl 0) ids_sampleUsers hordinary hrun
      step_deleteProduct hchanges⟩

/-! ## Deactivated users -/

/-- A user is inactive, and the logins as this user are not later than `since`. -/
structure Deactivated (id : JString) (since : ℤ) (world : CatalogWorld) : Prop where
  inactive : ∃ user ∈ world.users.rows, user.id = id ∧ user.isActive = some false
  earlier : ∀ issue ∈ world.issued, issue.user.id = id → issue.issuedAt ≤ since

variable {id : JString} {since : ℤ}

theorem deactivated_effect {handler : Option CatalogHandler}
    (hdeactivated : world.Deactivated id since) (heffect : Effect platform world handler next) :
    next.Deactivated id since := by
  obtain ⟨user, huser, hid, hinactive⟩ := hdeactivated.inactive
  constructor
  · rcases heffect.users with husers | ⟨deleted, -, husers⟩
    · rw [husers]
      exact ⟨user, huser, hid, hinactive⟩
    · obtain ⟨after, hafter, hsame, hstill⟩ := inactive_softDeleteUser huser hinactive
      rw [husers]
      exact ⟨after, hafter, hsame.trans hid, hstill⟩
  · intro issue hissue hsubject
    rcases heffect.issued with hissued | ⟨payload, new, hnew, hissued⟩
    · exact hdeactivated.earlier issue (hissued ▸ hissue) hsubject
    · rw [hissued] at hissue
      rcases List.mem_append.mp hissue with hearlier | hlast
      · exact hdeactivated.earlier issue hearlier hsubject
      -- An inactive user cannot log in.
      · obtain rfl := List.mem_singleton.mp hlast
        obtain ⟨username, -, -, hfind, ⟨hactive, -⟩, -⟩ := newIssue_eq_some_iff.mp hnew
        have hsame := Records.eq_of_key_eq (mem_of_findByUsername hfind).1 huser
          (hsubject.trans hid.symm)
        rw [hsame] at hactive
        exact absurd hinactive hactive

theorem deactivated_step (world : CatalogWorld) (event : CatalogEvent) (next : CatalogWorld)
    (hdeactivated : world.Deactivated id since) (hnewId : world.DrawsNewId event)
    (hstep : world.step platform event = some next) : next.Deactivated id since := by
  cases moves_of_step hstep with
  | quiet _ _ heffect => exact deactivated_effect hdeactivated heffect
  | handled request handler caller _ hcaller hmay heffect =>
      exact deactivated_effect hdeactivated heffect
  | saved registration uuid _ payload hchecked husers hrest =>
      obtain ⟨user, huser, hid, hinactive⟩ := hdeactivated.inactive
      constructor
      · rw [husers]
        refine ⟨user, Records.mem_save.mpr (.inr ⟨huser, hnewId.2 user huser⟩), hid, hinactive⟩
      · rw [hrest.2.2]
        exact hdeactivated.earlier

theorem clocked_effect {handler : Option CatalogHandler} (hclocked : world.Clocked)
    (heffect : Effect platform world handler next) : next.Clocked := by
  rcases heffect.issued with hissued | ⟨payload, new, hnew, hissued⟩
  · refine ⟨hclocked.now_nonneg.trans heffect.now, ?_, fun issue hissue => ?_⟩
    · rw [hissued]
      exact hclocked.begun
    · rw [hissued] at hissue
      exact (hclocked.past issue hissue).trans heffect.now
  · obtain ⟨username, -, -, -, -, hnow⟩ := newIssue_eq_some_iff.mp hnew
    refine ⟨hclocked.now_nonneg.trans heffect.now, fun issue hissue => ?_, fun issue hissue => ?_⟩
    all_goals
      rw [hissued] at hissue
      rcases List.mem_append.mp hissue with hearlier | hlast
    · exact hclocked.begun issue hearlier
    · rw [List.mem_singleton.mp hlast, hnow]
      exact hclocked.now_nonneg
    · exact (hclocked.past issue hearlier).trans heffect.now
    · rw [List.mem_singleton.mp hlast, hnow]
      exact heffect.now

theorem clocked_step (world : CatalogWorld) (event : CatalogEvent) (next : CatalogWorld)
    (hclocked : world.Clocked) (hstep : world.step platform event = some next) :
    next.Clocked := by
  cases moves_of_step hstep with
  | quiet _ _ heffect => exact clocked_effect hclocked heffect
  | handled request handler caller _ hcaller hmay heffect => exact clocked_effect hclocked heffect
  | saved registration uuid _ payload hchecked husers hrest =>
      obtain ⟨-, hnow, hissued⟩ := hrest
      constructor
      · rw [hnow]
        exact hclocked.now_nonneg
      · rw [hissued]
        exact hclocked.begun
      · rw [hnow, hissued]
        exact hclocked.past

/-- In every run, from the moment on at which a user is inactive, the service
takes requests for this user's for at most another day and a minute, as long as
random ids are new and the token is not forged. -/
theorem deactivated_loses_access (hreads : platform.ReadsSigned) {products : ProductRepository}
    {now : ℤ} {events more : List CatalogEvent} {later : CatalogWorld} {request : CatalogRequest}
    {user : User} {jwt : VerifiedJwt} (hnow : 0 ≤ now)
    (hrun : run (step platform) (.start initial products now) events = some world)
    (huser : user ∈ world.users.rows) (hinactive : user.isActive = some false)
    (hnewIds : Guarded (step platform) DrawsNewId world more)
    (hmore : run (step platform) world more = some later)
    (hunforged : later.Unforged platform (.request request))
    (hauthenticated : authenticateBearer platform.toJwtLibrary later.now request.authorization =
      .authenticated jwt) (hsubject : jwt.subject = user.id) :
    later.now ≤ world.now + (86400 + 60) * 1000 := by
  have hstart : (start initial products now).Clocked :=
    ⟨hnow, fun _ hissue => absurd hissue List.not_mem_nil,
      fun _ hissue => absurd hissue List.not_mem_nil⟩
  have hclocked := run_invariant clocked_step hstart hrun
  have hdeactivated : world.Deactivated user.id world.now :=
    ⟨⟨user, huser, rfl, hinactive⟩, fun issue hissue _ => hclocked.past issue hissue⟩
  have hstill := run_preserves deactivated_step hdeactivated hnewIds hmore
  obtain ⟨issue, hissue, -, rfl, hrecent⟩ := exists_issue_of_authenticated hreads
    (run_invariant clocked_step hclocked hmore) hunforged hauthenticated
  have hearlier := hstill.earlier issue hissue hsubject
  omega

/-- An administrator who has deactivated itself still gets in. -/
theorem deactivated_loses_access_sample :
    ∃ world later, sampleWorld.step samplePlatform (.request (deleteRequest "/api/users/1")) =
        some world ∧
      run (step samplePlatform) world [.elapse 0] = some later ∧
      later.now ≤ world.now + (86400 + 60) * 1000 := by
  let world : CatalogWorld :=
    { sampleWorld with
      registration := { sampleWorld.registration with
        users := softDeleteUser sampleUsers (js "1") } }
  have hrun : run (step samplePlatform) sampleStart
      [.request loginRequest, .request (deleteRequest "/api/users/1")] = some world :=
    run_cons_eq_some.mpr ⟨sampleWorld, step_loginRequest,
      run_cons_eq_some.mpr ⟨world, step_softDeleteUser, rfl⟩⟩
  have huser : { sampleAdmin with isActive := some false } ∈ world.users.rows := by decide
  have hmore : run (step samplePlatform) world [.elapse 0] = some world := rfl
  have hnewIds : Guarded (step samplePlatform) DrawsNewId world [.elapse 0] :=
    ⟨trivial, fun _ _ => trivial⟩
  exact ⟨world, world, step_softDeleteUser, hmore,
    deactivated_loses_access readsSigned_plainLibrary (le_refl 0) hrun huser rfl hnewIds hmore
      (unforged_deleteRequest _ List.mem_cons_self)
      (authenticateBearer_deleteRequest "/api/users/1") rfl⟩

end CatalogWorld

end ShoppingWeb.Access
