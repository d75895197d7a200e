import ShoppingWeb.Lib.Records
import ShoppingWeb.Shared.TransactionContext

/-!
# Users of the catalog service

The user table, the queries on it, and the handlers that register users and
log them in.  The table declares no unique column but its key, so a query by
username can find two rows, and then it throws.
-/

namespace ShoppingWeb.CatalogService

open ShoppingWeb.Utf16
open ShoppingWeb.DecimalText
open ShoppingWeb.Shared

structure User where
  id : JString
  username : Option JString
  email : Option JString
  role : Option JString
  isActive : Option Bool
  passwordHash : Option JString
  deriving DecidableEq, Repr

/-- The claims `JwtUtil` puts into a token; both times are in milliseconds. -/
structure JWTClaimsSet where
  subject : JString
  preferredUsername : Option JString
  roles : List JString
  scope : JString
  issueTime : ℤ
  expirationTime : ℤ
  deriving DecidableEq, Repr

/-- The primitives of the Java and JWT libraries. -/
structure Primitives where
  sha3_512 : Bytes → Bytes
  signJwt : (secret : Bytes) → JWTClaimsSet → JString

abbrev UserRepository := Records User.id

/-- The outer `none` is the exception on more than one row. -/
def findByUsername (users : UserRepository) (username : JString) : Option (Option User) :=
  match users.rows.filter fun user => user.username == some username with
  | [] => some none
  | [user] => some (some user)
  | _ => none

theorem findByUsername_eq_none {users : UserRepository} {username : JString}
    (hfind : findByUsername users username = some none) :
    ∀ user ∈ users.rows, user.username ≠ some username := by
  rw [findByUsername] at hfind
  split at hfind
  · rename_i hnone
    intro user hmem heq
    have hnot := List.filter_eq_nil_iff.mp hnone user hmem
    simp [heq] at hnot
  · cases hfind
  · cases hfind

theorem mem_of_findByUsername {users : UserRepository} {username : JString} {user : User}
    (hfind : findByUsername users username = some (some user)) :
    user ∈ users.rows ∧ user.username = some username := by
  rw [findByUsername] at hfind
  split at hfind
  · cases hfind
  · rename_i found hfound
    obtain rfl : found = user := by simpa using hfind
    have hmem : found ∈ users.rows.filter fun user => user.username == some username := by
      rw [hfound]
      exact List.mem_singleton_self found
    simpa using List.mem_filter.mp hmem
  · cases hfind

/-- No two stored users have the same username. -/
def UsernamesUnique (users : UserRepository) : Prop :=
  ∀ left ∈ users.rows, ∀ right ∈ users.rows, ∀ username, left.username = some username →
    right.username = some username → left = right

/-- Where usernames are unique the query finds the user of a username. -/
theorem findByUsername_of_mem {users : UserRepository} (hunique : UsernamesUnique users)
    {user : User} (huser : user ∈ users.rows) {username : JString}
    (husername : user.username = some username) :
    findByUsername users username = some (some user) := by
  have hfilter : (users.rows.filter fun other => other.username == some username) = [user] := by
    apply Records.filter_eq_singleton huser
    · simp [husername]
    · intro other hother htest
      exact hunique other hother user huser username (by simpa using htest) husername
  rw [findByUsername, hfilter]

def hexUnit (value : ℕ) : CodeUnit :=
  UInt16.ofNat (if value < 10 then 48 + value else 87 + value)

/-- `HexFormat.of().formatHex` -/
def formatHex (bytes : Bytes) : JString :=
  bytes.flatMap fun byte => [hexUnit (byte.toNat / 16), hexUnit (byte.toNat % 16)]

def lowerUnit (unit : CodeUnit) : CodeUnit :=
  if 65 ≤ unit.toNat ∧ unit.toNat ≤ 90 then unit + 32 else unit

/-- `equalsIgnoreCase` on a hexadecimal text, whose letters have no case
variants outside ASCII. -/
def equalsIgnoreCase (hex : JString) (text : Option JString) : Bool :=
  text.map (List.map lowerUnit) == some (hex.map lowerUnit)

/-- The hash both the handlers and the filter compute of a password. -/
def computedHash (primitives : Primitives) (password : JString) : JString :=
  formatHex (primitives.sha3_512 (getBytes password))

@[simp]
theorem equalsIgnoreCase_self (hex : JString) : equalsIgnoreCase hex (some hex) = true := by
  simp [equalsIgnoreCase]

/-- `JwtUtil.SECRET` -/
def jwtSecret : JString := js "SecureECommercePlatformSecretKeyForJWTAuthTokenSigningHMAC256"

/-- `JwtUtil.generateToken` -/
def generateToken (primitives : Primitives) (now : ℤ) (userId : JString)
    (username : Option JString) (role : JString) : JString :=
  primitives.signJwt (getBytes jwtSecret)
    { subject := userId
      preferredUsername := username
      roles := [role]
      scope := if role = js "ROLE_ADMIN" then js "admin" else js "user"
      issueTime := now
      expirationTime := now + 86400 * 1000 }

structure LoginPayload where
  username : Option JString
  password : Option JString
  deriving DecidableEq, Repr

/-- The user as the answer shows it. -/
structure UserMap where
  id : JString
  username : Option JString
  email : Option JString
  role : Option JString
  deriving DecidableEq, Repr

def userMap (user : User) : UserMap :=
  ⟨user.id, user.username, user.email, user.role⟩

inductive LoginResponse where
  | loggedIn (token : JString) (user : UserMap)
  | failed (status : ℕ) (message : JString)
  /-- An exception leaves the handler. -/
  | threw
  deriving DecidableEq, Repr

/-- The rest of `login` once there is a user. -/
def authenticate (primitives : Primitives) (now : ℤ) (user : User) (password : JString) :
    LoginResponse :=
  if user.isActive = some false then .failed 403 (js "Account is deactivated")
  else if !equalsIgnoreCase (computedHash primitives password) user.passwordHash then
    .failed 401 (js "Invalid username or password")
  else
    .loggedIn (generateToken primitives now user.id user.username
      (user.role.getD (js "ROLE_USER"))) (userMap user)

def login (primitives : Primitives) (now : ℤ) (users : UserRepository) (payload : LoginPayload) :
    LoginResponse :=
  match payload.username, payload.password with
  | some username, some password =>
      match findByUsername users username with
      | none => .threw
      | some none => .failed 401 (js "Invalid username or password")
      | some (some user) => authenticate primitives now user password
  | _, _ => .failed 400 (js "Username and password are required")

structure RegisterPayload where
  username : Option JString
  email : Option JString
  password : Option JString
  deriving DecidableEq, Repr

/-- A payload that has passed the checks. -/
structure Registration where
  username : JString
  email : JString
  password : JString
  deriving DecidableEq, Repr

inductive RegisterResponse where
  | answered (status : ℕ) (success : Bool) (message : JString)
  /-- An exception leaves the handler. -/
  | threw
  deriving DecidableEq, Repr

/-- `register` up to and including the query for the username. -/
def checkRegistration (users : UserRepository) (payload : RegisterPayload) :
    Except RegisterResponse Registration :=
  match payload.username, payload.email, payload.password with
  | some username, some email, some password =>
      match findByUsername users username with
      | none => .error .threw
      | some none => .ok ⟨username, email, password⟩
      | some (some _) => .error (.answered 409 false (js "Username is already taken"))
  | _, _, _ => .error (.answered 400 false (js "Username, email, and password are required"))

/-- The user `register` saves, under a random UUID. -/
def newUser (primitives : Primitives) (uuid : JString) (registration : Registration) : User where
  id := uuid
  username := some registration.username
  email := some registration.email
  role := some (js "ROLE_USER")
  isActive := some true
  passwordHash := some (computedHash primitives registration.password)

/-- `register` when no other request comes between its check and its save;
`saves` says whether the save succeeds. -/
def register (primitives : Primitives) (uuid : JString) (saves : Bool) (users : UserRepository)
    (payload : RegisterPayload) : RegisterResponse × UserRepository :=
  match checkRegistration users payload with
  | .error response => (response, users)
  | .ok registration =>
      if saves then
        (.answered 201 true (js "User registered successfully"),
          users.save (newUser primitives uuid registration))
      else (.answered 500 false (js "Internal server error during registration"), users)

/-- A registration that passes the check asks for a username no user has. -/
theorem username_free_of_checkRegistration {users : UserRepository} {payload : RegisterPayload}
    {registration : Registration} (hcheck : checkRegistration users payload = .ok registration) :
    ∀ user ∈ users.rows, user.username ≠ some registration.username := by
  rw [checkRegistration] at hcheck
  split at hcheck
  · split at hcheck
    · cases hcheck
    · rename_i hfind
      cases hcheck
      exact findByUsername_eq_none hfind
    · cases hcheck
  · cases hcheck

def softDeleteUser (users : UserRepository) (id : JString) : UserRepository :=
  match users.findById id with
  | none => users
  | some user => users.save { user with isActive := some false }

end ShoppingWeb.CatalogService
