import ShoppingWeb.Catalog.Users
import ShoppingWeb.Lib.TransitionSystem

/-!
# Concurrent registrations

A registration first checks that its username is free and saves its user
later, and nothing keeps other requests from coming in between.  Usernames stay
unique, and with them every active user can log in, exactly as long as every
save still finds its username free.
-/

namespace ShoppingWeb.CatalogService

open ShoppingWeb.Utf16
open ShoppingWeb.TransitionSystem

structure RegistrationWorld where
  users : UserRepository
  /-- The requests that have passed the check and not yet saved their user. -/
  checked : List Registration
  /-- The password every id was saved with.  No handler reads it. -/
  passwords : JString → Option JString

inductive RegistrationEvent where
  | check (payload : RegisterPayload)
  | save (request : ℕ) (uuid : JString)
  /-- The save throws, and its handler answers 500. -/
  | failSave (request : ℕ)
  | softDeleteUser (id : JString)
  deriving DecidableEq, Repr

namespace RegistrationWorld

def step (primitives : Primitives) (world : RegistrationWorld) :
    RegistrationEvent → Option RegistrationWorld
  | .check payload =>
      match checkRegistration world.users payload with
      | .error _ => some world
      | .ok registration => some { world with checked := world.checked ++ [registration] }
  | .save request uuid =>
      (world.checked[request]?).map fun registration =>
        { users := world.users.save (newUser primitives uuid registration)
          checked := world.checked.eraseIdx request
          passwords := Function.update world.passwords uuid (some registration.password) }
  | .failSave request =>
      (world.checked[request]?).map fun _ =>
        { world with checked := world.checked.eraseIdx request }
  | .softDeleteUser id => some { world with users := softDeleteUser world.users id }

/-- The user logs in with the password it was saved with, and as itself. -/
def LogsIn (primitives : Primitives) (world : RegistrationWorld) (user : User) : Prop :=
  ∀ now username password, user.username = some username →
    world.passwords user.id = some password →
      ∃ token, login primitives now world.users ⟨some username, some password⟩ =
        .loggedIn token (userMap user)

/-- Usernames are unique, and every active user can log in. -/
structure Sound (primitives : Primitives) (world : RegistrationWorld) : Prop where
  usernames_unique : UsernamesUnique world.users
  logs_in : ∀ user ∈ world.users.rows, user.isActive ≠ some false → LogsIn primitives world user

/-- Stored hashes are those of the passwords. -/
def HashesPasswords (primitives : Primitives) (world : RegistrationWorld) : Prop :=
  ∀ user ∈ world.users.rows, ∀ password, world.passwords user.id = some password →
    user.passwordHash = some (computedHash primitives password)

/-- A registration is saved while no other user has its username. -/
def SavesFreeUsername (world : RegistrationWorld) : RegistrationEvent → Prop
  | .save request uuid =>
      ∀ registration, world.checked[request]? = some registration →
        ∀ user ∈ world.users.rows, user.username = some registration.username → user.id = uuid
  | _ => True

end RegistrationWorld

theorem usernamesUnique_save_iff {users : UserRepository} (hunique : UsernamesUnique users)
    {user : User} {username : JString} (husername : user.username = some username) :
    UsernamesUnique (users.save user) ↔
      ∀ other ∈ users.rows, other.username = some username → other.id = user.id := by
  constructor
  · intro hsaved other hother hsame
    by_contra hid
    have hkept : other ∈ (users.save user).rows := Records.mem_save.mpr (Or.inr ⟨hother, hid⟩)
    have hadded : user ∈ (users.save user).rows := Records.mem_save.mpr (Or.inl rfl)
    exact hid (congrArg User.id (hsaved other hkept user hadded username hsame husername))
  · intro hfree left hleft right hright name hleftName hrightName
    rcases Records.mem_save.mp hleft with rfl | ⟨hleftOld, hleftId⟩
    · rcases Records.mem_save.mp hright with rfl | ⟨hrightOld, hrightId⟩
      · rfl
      · rw [Option.some.inj (hleftName.symm.trans husername)] at hrightName
        exact absurd (hfree right hrightOld hrightName) hrightId
    · rcases Records.mem_save.mp hright with rfl | ⟨hrightOld, hrightId⟩
      · rw [Option.some.inj (hrightName.symm.trans husername)] at hleftName
        exact absurd (hfree left hleftOld hleftName) hleftId
      · exact hunique left hleftOld right hrightOld name hleftName hrightName

/-- A soft deletion changes no more than whether a user is active. -/
theorem mem_softDeleteUser {users : UserRepository} {id : JString} {user : User}
    (huser : user ∈ (softDeleteUser users id).rows) :
    ∃ old ∈ users.rows, old.id = user.id ∧ old.username = user.username ∧
      old.passwordHash = user.passwordHash := by
  rw [softDeleteUser] at huser
  split at huser
  · exact ⟨user, huser, rfl, rfl, rfl⟩
  · rename_i old hfind
    rcases Records.mem_save.mp huser with rfl | ⟨hkept, -⟩
    · exact ⟨old, (Records.findById_eq_some_iff.mp hfind).1, rfl, rfl, rfl⟩
    · exact ⟨user, hkept, rfl, rfl, rfl⟩

theorem usernamesUnique_softDeleteUser {users : UserRepository} (hunique : UsernamesUnique users)
    (id : JString) : UsernamesUnique (softDeleteUser users id) := by
  intro left hleft right hright username hleftName hrightName
  obtain ⟨oldLeft, hmemLeft, hidLeft, hnameLeft, -⟩ := mem_softDeleteUser hleft
  obtain ⟨oldRight, hmemRight, hidRight, hnameRight, -⟩ := mem_softDeleteUser hright
  have hsame : oldLeft = oldRight :=
    hunique oldLeft hmemLeft oldRight hmemRight username (hnameLeft.trans hleftName)
      (hnameRight.trans hrightName)
  apply Records.eq_of_key_eq hleft hright
  calc left.id = oldLeft.id := hidLeft.symm
    _ = oldRight.id := congrArg User.id hsame
    _ = right.id := hidRight

namespace RegistrationWorld

variable {primitives : Primitives} {world next : RegistrationWorld} {event : RegistrationEvent}

/-- What a step does to the users and their passwords. -/
theorem step_cases (hstep : world.step primitives event = some next) :
    (next.users = world.users ∧ next.passwords = world.passwords ∧
        ∀ request uuid, event ≠ .save request uuid) ∨
      (∃ request uuid registration, event = .save request uuid ∧
        world.checked[request]? = some registration ∧
        next.users = world.users.save (newUser primitives uuid registration) ∧
        next.passwords = Function.update world.passwords uuid (some registration.password)) ∨
      ∃ id, event = .softDeleteUser id ∧ next.users = softDeleteUser world.users id ∧
        next.passwords = world.passwords := by
  cases event with
  | check payload =>
      left
      rw [step] at hstep
      split at hstep
      · cases hstep
        exact ⟨rfl, rfl, fun _ _ => RegistrationEvent.noConfusion⟩
      · cases hstep
        exact ⟨rfl, rfl, fun _ _ => RegistrationEvent.noConfusion⟩
  | save request uuid =>
      obtain ⟨registration, hchecked, rfl⟩ := Option.map_eq_some_iff.mp hstep
      exact Or.inr (Or.inl ⟨request, uuid, registration, rfl, hchecked, rfl, rfl⟩)
  | failSave request =>
      obtain ⟨_, -, rfl⟩ := Option.map_eq_some_iff.mp hstep
      exact Or.inl ⟨rfl, rfl, fun _ _ => RegistrationEvent.noConfusion⟩
  | softDeleteUser id =>
      obtain rfl := Option.some.inj hstep
      exact Or.inr (Or.inr ⟨id, rfl, rfl, rfl⟩)

theorem hashesPasswords_step (hhashes : HashesPasswords primitives world)
    (hstep : world.step primitives event = some next) : HashesPasswords primitives next := by
  intro user huser password hpassword
  rcases step_cases hstep with ⟨husers, hpasswords, -⟩ |
    ⟨request, uuid, registration, -, -, husers, hpasswords⟩ | ⟨id, -, husers, hpasswords⟩
  · rw [husers] at huser
    rw [hpasswords] at hpassword
    exact hhashes user huser password hpassword
  · rw [husers] at huser
    rw [hpasswords] at hpassword
    rcases Records.mem_save.mp huser with rfl | ⟨hkept, hid⟩
    · have hsaved : registration.password = password := by simpa [newUser] using hpassword
      rw [← hsaved]
      rfl
    · have hother : user.id ≠ uuid := hid
      rw [Function.update_of_ne hother] at hpassword
      exact hhashes user hkept password hpassword
  · rw [husers] at huser
    rw [hpasswords] at hpassword
    obtain ⟨old, hold, hid, -, hhash⟩ := mem_softDeleteUser huser
    rw [← hhash]
    exact hhashes old hold password (hid ▸ hpassword)

/-- With unique usernames every active user can log in. -/
theorem logsIn_of_unique (hhashes : HashesPasswords primitives world)
    (hunique : UsernamesUnique world.users) {user : User} (huser : user ∈ world.users.rows)
    (hactive : user.isActive ≠ some false) : LogsIn primitives world user := by
  intro now username password husername hpassword
  have hhash := hhashes user huser password hpassword
  have hfind := findByUsername_of_mem hunique huser husername
  simp [login, hfind, authenticate, hactive, hhash]

theorem sound_iff_usernamesUnique (hhashes : HashesPasswords primitives world) :
    Sound primitives world ↔ UsernamesUnique world.users := by
  constructor
  · exact Sound.usernames_unique
  · intro hunique
    exact ⟨hunique, fun user huser hactive => logsIn_of_unique hhashes hunique huser hactive⟩

/-- The next state is sound exactly when the step saves a free username. -/
theorem sound_step_iff (hhashes : HashesPasswords primitives world)
    (hsound : Sound primitives world) (hstep : world.step primitives event = some next) :
    Sound primitives next ↔ SavesFreeUsername world event := by
  rw [sound_iff_usernamesUnique (hashesPasswords_step hhashes hstep)]
  have hunique := hsound.usernames_unique
  rcases step_cases hstep with ⟨husers, -, hevent⟩ |
    ⟨request, uuid, registration, rfl, hchecked, husers, -⟩ | ⟨id, rfl, husers, -⟩
  · have hguard : SavesFreeUsername world event := by
      cases event with
      | save request uuid => exact absurd rfl (hevent request uuid)
      | _ => trivial
    rw [husers]
    exact iff_of_true hunique hguard
  · have husername : (newUser primitives uuid registration).username =
        some registration.username := rfl
    rw [husers, usernamesUnique_save_iff hunique husername]
    simp [SavesFreeUsername, hchecked, newUser]
  · rw [husers]
    exact iff_of_true (usernamesUnique_softDeleteUser hunique id) trivial

/-- A check and its save with nothing in between are the whole handler. -/
theorem users_register {payload : RegisterPayload} {registration : Registration}
    (hcheck : checkRegistration world.users payload = .ok registration) (uuid : JString) :
    (run (step primitives) world [.check payload, .save world.checked.length uuid]).map users =
      some (register primitives uuid true world.users payload).2 := by
  simp [run, step, hcheck, register]

/-- A save right after its check finds the username free. -/
theorem savesFreeUsername_after_check {payload : RegisterPayload} {registration : Registration}
    (hcheck : checkRegistration world.users payload = .ok registration) (uuid : JString) :
    SavesFreeUsername { world with checked := world.checked ++ [registration] }
      (.save world.checked.length uuid) := by
  intro other hother user huser husername
  have hlast : (world.checked ++ [registration])[world.checked.length]? = some registration := by
    simp
  obtain rfl := Option.some.inj (hlast.symm.trans hother)
  exact absurd husername (username_free_of_checkRegistration hcheck user huser)

/-- In every run, usernames are unique and active users can log in in every
state reached exactly when every save finds its username free. -/
theorem sound_throughout_iff (hhashes : HashesPasswords primitives world)
    (hsound : Sound primitives world) (events : List RegistrationEvent) :
    Throughout (step primitives) (Sound primitives) world events ↔
      Guarded (step primitives) SavesFreeUsername world events := by
  apply throughout_iff_guarded
  · intro state event next hstate hnext
    exact hashesPasswords_step hstate hnext
  · intro state event next hstate hholds hnext
    exact sound_step_iff hstate hholds hnext
  · intro state event hdisabled
    cases event with
    | save request uuid =>
        intro registration hchecked
        simp [step, hchecked] at hdisabled
    | _ => trivial
  · exact hhashes
  · exact hsound

/-- No users, no requests. -/
def initial : RegistrationWorld := ⟨.empty, [], fun _ => none⟩

/-- Stand-ins that keep hashes and tokens apart. -/
def plainPrimitives : Primitives := ⟨fun message => message, fun _ claims => claims.subject⟩

def registerAlice : RegisterPayload :=
  ⟨some (js "alice"), some (js "alice@example.com"), some (js "wonderland")⟩

theorem sound_initial : Sound plainPrimitives initial :=
  ⟨fun _ hleft => absurd hleft List.not_mem_nil, fun _ huser => absurd huser List.not_mem_nil⟩

/-- One registration after the other: the second is turned down. -/
theorem sound_throughout_iff_sequential :
    Throughout (step plainPrimitives) (Sound plainPrimitives) initial
        [.check registerAlice, .save 0 (js "1"), .check registerAlice] ↔
      Guarded (step plainPrimitives) SavesFreeUsername initial
        [.check registerAlice, .save 0 (js "1"), .check registerAlice] :=
  sound_throughout_iff (fun _ huser => absurd huser List.not_mem_nil) sound_initial _

/-- Both requests check before either saves. -/
def concurrentRegistrations : List RegistrationEvent :=
  [.check registerAlice, .check registerAlice, .save 0 (js "1"), .save 0 (js "2")]

def alice (uuid : JString) : User :=
  newUser plainPrimitives uuid ⟨js "alice", js "alice@example.com", js "wonderland"⟩

/-- The users after both saves. -/
def twoAlices : UserRepository := (Records.empty.save (alice (js "1"))).save (alice (js "2"))

/-- Then two users have one username. -/
theorem sound_concurrentRegistrations :
    ¬ ∀ (primitives : Primitives) (events : List RegistrationEvent),
      Throughout (step primitives) (Sound primitives) initial events := by
  intro hsound
  have hrun : run (step plainPrimitives) initial concurrentRegistrations =
      some ⟨twoAlices, [], Function.update (Function.update (fun _ => none) (js "1")
        (some (js "wonderland"))) (js "2") (some (js "wonderland"))⟩ := rfl
  have hfinal := holds_of_run (hsound plainPrimitives concurrentRegistrations) hrun
  have hsame := hfinal.usernames_unique (alice (js "1")) (by decide) (alice (js "2"))
    (by decide) (js "alice") rfl rfl
  exact absurd (congrArg User.id hsame) (by decide)

example : login plainPrimitives 0 twoAlices ⟨some (js "alice"), some (js "wonderland")⟩ =
    .threw := by decide

end RegistrationWorld

end ShoppingWeb.CatalogService
