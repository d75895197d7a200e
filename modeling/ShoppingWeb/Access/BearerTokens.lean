import ShoppingWeb.Access.ServiceAccess
import ShoppingWeb.Lib.DecimalText
import Mathlib.Data.List.DropRight

/-!
# Bearer tokens

How the services read the token of a request and whom they take its bearer for.
The authorities come from the claim `scope` alone.
-/

namespace ShoppingWeb.Access

open ShoppingWeb.Utf16
open ShoppingWeb.DecimalText
open ShoppingWeb.Shared
open ShoppingWeb.CatalogService

inductive BearerToken where
  | absent
  | malformed
  | given (token : JString)
  deriving DecidableEq, Repr

/-- A character of a token: a letter, a digit or one of `-._~+/`. -/
def isTokenUnit (unit : CodeUnit) : Bool :=
  let value := unit.toNat
  (48 ≤ value && value < 58) || (65 ≤ value && value < 91) || (97 ≤ value && value < 123) ||
    [45, 46, 95, 126, 43, 47].contains value

/-- `Authorization: Bearer` and the token, which may end in equals signs; the
word is compared without regard to case. -/
def bearerToken : Option JString → BearerToken
  | none => .absent
  | some header =>
      if (header.take 6).map lowerUnit != js "bearer" then .absent
      else
        let token := header.drop 7
        if header[6]? == some 32 && token.takeWhile isTokenUnit != [] &&
            (token.dropWhile isTokenUnit).all (· == 61) then .given token
        else .malformed

/-- What a decoder has read from a token with a valid signature; the expiry is
in seconds. -/
structure VerifiedJwt where
  subject : JString
  scope : JString
  expiresAt : ℤ
  deriving DecidableEq, Repr

structure JwtLibrary extends Primitives where
  /-- `none` when the signature does not belong to the secret and the claims. -/
  verifyJwt : (secret : Bytes) → JString → Option VerifiedJwt

/-- `JwtTimestampValidator`, with its clock skew of a minute. -/
def VerifiedJwt.IsCurrent (jwt : VerifiedJwt) (now : ℤ) : Prop :=
  now - 60 * 1000 ≤ jwt.expiresAt * 1000

instance (jwt : VerifiedJwt) (now : ℤ) : Decidable (jwt.IsCurrent now) :=
  inferInstanceAs (Decidable (_ ≤ _))

/-- `JwtGrantedAuthoritiesConverter`: one authority for each word of the scope. -/
def scopeAuthorities (scope : JString) : List JString :=
  ((scope.splitOn 32).rdropWhile (· = [])).map (js "SCOPE_" ++ ·)

inductive Authentication where
  | anonymous
  | authenticated (jwt : VerifiedJwt)
  /-- Answered 401, whatever the rules say about the path. -/
  | refused
  deriving DecidableEq, Repr

def authenticateBearer (library : JwtLibrary) (now : ℤ) (authorization : Option JString) :
    Authentication :=
  match bearerToken authorization with
  | .absent => .anonymous
  | .malformed => .refused
  | .given token =>
      match library.verifyJwt (getBytes jwtSecret) token with
      | none => .refused
      | some jwt => if jwt.IsCurrent now then .authenticated jwt else .refused

/-- Whom the rules see; `none` when the request is refused before them. -/
def Authentication.caller? : Authentication → Option Caller
  | .anonymous => some none
  | .authenticated jwt => some (some (scopeAuthorities jwt.scope))
  | .refused => none

/-- The claims of `generateToken`. -/
def loginClaims (now : ℤ) (user : User) : JWTClaimsSet where
  subject := user.id
  preferredUsername := user.username
  roles := [user.role.getD (js "ROLE_USER")]
  scope := if user.role.getD (js "ROLE_USER") = js "ROLE_ADMIN" then js "admin" else js "user"
  issueTime := now
  expirationTime := now + 86400 * 1000

/-- The token that a user gets who logs in now. -/
def loginToken (primitives : Primitives) (now : ℤ) (user : User) : JString :=
  primitives.signJwt (getBytes jwtSecret) (loginClaims now user)

theorem generateToken_eq (primitives : Primitives) (now : ℤ) (user : User) :
    generateToken primitives now user.id user.username (user.role.getD (js "ROLE_USER")) =
      loginToken primitives now user := rfl

/-- What the decoder makes of that token. -/
def loginJwt (now : ℤ) (user : User) : VerifiedJwt :=
  ⟨user.id, (loginClaims now user).scope, (now + 86400 * 1000) / 1000⟩

/-- The decoder reads the claims of a login's token back, with the times in
seconds. -/
def JwtLibrary.ReadsSigned (library : JwtLibrary) : Prop :=
  ∀ now user, 0 ≤ now →
    library.verifyJwt (getBytes jwtSecret) (loginToken library.toPrimitives now user) =
      some (loginJwt now user)

/-- A login's token is not empty and has the characters that the header allows. -/
def JwtLibrary.IsCompact (library : JwtLibrary) : Prop :=
  ∀ now user, loginToken library.toPrimitives now user ≠ [] ∧
    ∀ unit ∈ loginToken library.toPrimitives now user, isTokenUnit unit = true

section Tokens

variable {library : JwtLibrary} {now later : ℤ} {user : User}

/-- A token lives for a day and about a minute. -/
theorem isCurrent_loginJwt_iff (now later : ℤ) (user : User) :
    (loginJwt now user).IsCurrent later ↔ later ≤ now / 1000 * 1000 + (86400 + 60) * 1000 := by
  change later - 60 * 1000 ≤ (now + 86400 * 1000) / 1000 * 1000 ↔ _
  omega

theorem getD_role_iff :
    user.role.getD (js "ROLE_USER") = js "ROLE_ADMIN" ↔ user.role = some (js "ROLE_ADMIN") := by
  cases user.role with
  | none => decide
  | some role => rw [Option.getD_some, Option.some.injEq]

/-- The bearer is an administrator exactly if the user was one at the login. -/
theorem isAdmin_loginJwt_iff :
    Caller.IsAdmin (some (scopeAuthorities (loginJwt now user).scope)) ↔
      user.role = some (js "ROLE_ADMIN") := by
  have hscope : (loginJwt now user).scope =
      if user.role = some (js "ROLE_ADMIN") then js "admin" else js "user" :=
    if_congr getD_role_iff rfl rfl
  rw [hscope]
  split
  · rename_i hadmin
    exact iff_of_true (by decide) hadmin
  · rename_i hadmin
    exact iff_of_false (by decide) hadmin

theorem bearerToken_of_compact {token : JString} (hne : token ≠ [])
    (hunits : ∀ unit ∈ token, isTokenUnit unit = true) :
    bearerToken (some (js "Bearer " ++ token)) = .given token := by
  have hword : ((js "Bearer " ++ token).take 6).map lowerUnit = js "bearer" := by rfl
  have hdrop : (js "Bearer " ++ token).drop 7 = token := rfl
  have hspace : (js "Bearer " ++ token)[6]? = some 32 := rfl
  have htake : token.takeWhile isTokenUnit = token := List.takeWhile_eq_self_iff.mpr hunits
  have hrest : token.dropWhile isTokenUnit = [] := List.dropWhile_eq_nil_iff.mpr hunits
  simp [bearerToken, hword, hdrop, hspace, htake, hrest, hne]

/-- The bearer of the token is the user as long as the token lives, and then
nobody. -/
theorem authenticateBearer_loginToken (hreads : library.ReadsSigned)
    (hcompact : library.IsCompact) (hnow : 0 ≤ now) :
    authenticateBearer library later
        (some (js "Bearer " ++ loginToken library.toPrimitives now user)) =
      if (loginJwt now user).IsCurrent later then .authenticated (loginJwt now user)
      else .refused := by
  obtain ⟨hne, hunits⟩ := hcompact now user
  rw [authenticateBearer, bearerToken_of_compact hne hunits]
  simp only
  rw [hreads now user hnow]

end Tokens

def claimNumbers (claims : JWTClaimsSet) : List ℤ :=
  claims.expirationTime / 1000 :: claims.subject.length ::
    (claims.subject ++ claims.scope).map fun unit => (unit.toNat : ℤ)

def jwtOfNumbers : List ℤ → Option VerifiedJwt
  | expiresAt :: length :: units =>
      let text := units.map fun unit => UInt16.ofNat unit.toNat
      some ⟨text.take length.toNat, text.drop length.toNat, expiresAt⟩
  | _ => none

/-- Tokens that print their claims and prove nothing. -/
def plainLibrary : JwtLibrary where
  sha3_512 := id
  signJwt _ claims := [46].intercalate ((claimNumbers claims).map intText)
  verifyJwt _ token := jwtOfNumbers ((token.splitOn 46).map intValue)

theorem readsSigned_plainLibrary : plainLibrary.ReadsSigned := by
  intro now user _
  let claims := loginClaims now user
  have hdot : ∀ text ∈ (claimNumbers claims).map intText, (46 : CodeUnit) ∉ text := by
    intro text htext
    obtain ⟨number, -, rfl⟩ := List.mem_map.mp htext
    exact not_mem_intText (by decide) (by decide) number
  have hvalues : ((claimNumbers claims).map intText).map intValue = claimNumbers claims := by
    simp [Function.comp_def]
  change jwtOfNumbers ((([46].intercalate _).splitOn 46).map intValue) = _
  rw [List.splitOn_intercalate 46 hdot (by simp [claimNumbers]), hvalues]
  simp [jwtOfNumbers, claimNumbers, Function.comp_def, claims, loginJwt, loginClaims]

theorem isTokenUnit_of_mem_intercalate {texts : List JString}
    (htexts : ∀ text ∈ texts, ∀ unit ∈ text, isTokenUnit unit = true) {unit : CodeUnit}
    (hunit : unit ∈ [46].intercalate texts) : isTokenUnit unit = true := by
  induction texts with
  | nil => cases hunit
  | cons text texts ih =>
      obtain ⟨hfirst, hrest⟩ := List.forall_mem_cons.mp htexts
      by_cases hlast : texts = []
      · rw [hlast] at hunit
        exact hfirst unit (by simpa using hunit)
      · rw [List.intercalate_cons_of_ne_nil hlast, List.mem_append, List.mem_append] at hunit
        rcases hunit with (hmem | hdot) | hmem
        · exact hfirst unit hmem
        · rw [List.mem_singleton.mp hdot]
          decide
        · exact ih hrest hmem

theorem isTokenUnit_of_mem_intText {number : ℤ} {unit : CodeUnit}
    (hunit : unit ∈ intText number) : isTokenUnit unit = true := by
  rcases isDigitUnit_or_minus_of_mem_intText hunit with ⟨hlow, hhigh⟩ | rfl
  · simp [isTokenUnit, hlow, hhigh]
  · decide

theorem isCompact_plainLibrary : plainLibrary.IsCompact := by
  intro now user
  constructor
  · change [46].intercalate ((claimNumbers (loginClaims now user)).map intText) ≠ []
    rw [claimNumbers, List.map_cons, List.intercalate_cons_of_ne_nil (by simp)]
    simp
  · intro unit hunit
    apply isTokenUnit_of_mem_intercalate _ hunit
    intro text htext unit hunit
    obtain ⟨number, -, rfl⟩ := List.mem_map.mp htext
    exact isTokenUnit_of_mem_intText hunit

end ShoppingWeb.Access
