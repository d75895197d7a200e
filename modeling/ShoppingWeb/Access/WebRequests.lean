import ShoppingWeb.Lib.AccessRules
import ShoppingWeb.Catalog.SwaggerBasicAuthFilter

/-!
# Requests, rules and mappings

What `requestMatchers` and the mapping annotations see of a request: its method
and the decoded segments of its raw path, without the parameters that follow a
semicolon.
-/

namespace ShoppingWeb.Access

open ShoppingWeb.Utf16
open ShoppingWeb.PercentDecoding
open ShoppingWeb.AccessRules
open ShoppingWeb.CatalogService

/-- The methods that the firewall of Spring Security lets in. -/
inductive HttpMethod where
  | GET | HEAD | POST | PUT | PATCH | DELETE | OPTIONS
  deriving DecidableEq, Repr

def matchedSegment (segment : JString) : Option JString :=
  decodeSegment (segment.takeWhile (· != 59))

/-- `none` when an escape is malformed; such a request is answered 400. -/
def matchedPath (uri : JString) : Option (List JString) :=
  (uri.splitOn 47).mapM matchedSegment

/-- A pattern as the source writes it. -/
def pathPattern (text : String) : PathPattern :=
  let segments := (js text).splitOn 47
  if segments.getLast? = some (js "**") then .below segments.dropLast else .exact segments

structure Target where
  method : HttpMethod
  path : List JString
  deriving DecidableEq, Repr

/-- The authorities of an authenticated caller; `none` is anonymous. -/
abbrev Caller := Option (List JString)

inductive Authorization where
  | permitAll
  | hasAnyAuthority (authorities : List JString)
  | authenticated
  deriving DecidableEq, Repr

def Authorization.admits : Authorization → Caller → Bool
  | .permitAll, _ => true
  | .hasAnyAuthority authorities, some held => authorities.any held.contains
  | .authenticated, some _ => true
  | _, none => false

/-- `requestMatchers`, for every method when none is given. -/
def requestMatchers (method : Option HttpMethod) (patterns : List String) (access : Authorization) :
    AccessRule Target Caller where
  covers target :=
    (method.isNone || method == some target.method) &&
      patterns.any fun pattern => (pathPattern pattern).covers target.path
  admits := access.admits

def anyRequest (access : Authorization) : AccessRule Target Caller where
  covers _ := true
  admits := access.admits

/-- A segment of a mapped path. -/
inductive Piece where
  | literal (text : JString)
  /-- A path variable, which captures one segment that is not empty. -/
  | captured
  deriving DecidableEq, Repr

def capture : List Piece → List JString → Option (List JString)
  | [], [] => some []
  | .literal text :: pieces, segment :: path =>
      if segment = text then capture pieces path else none
  | .captured :: pieces, segment :: path =>
      if segment = [] then none else (capture pieces path).map (segment :: ·)
  | _, _ => none

/-- The path of a controller, followed by that of a method. -/
def under (controller : String) (pieces : List Piece) : List Piece :=
  ((js controller).splitOn 47).map .literal ++ pieces

/-- A mapping of `GET` serves `HEAD`, too. -/
def HttpMethod.serves : HttpMethod → HttpMethod → Bool
  | .GET, .HEAD => true
  | mapped, asked => mapped == asked

structure Mapping (Handler : Type) where
  method : HttpMethod
  path : List Piece
  handler : List JString → Option Handler

/-- A mapping without a path variable. -/
def plainMapping {Handler : Type} (method : HttpMethod) (path : String) (handler : Handler) :
    Mapping Handler where
  method
  path := under path []
  handler
    | [] => some handler
    | _ => none

/-- A mapping with a path variable at its end. -/
def variableMapping {Handler : Type} (method : HttpMethod) (path : String)
    (handler : JString → Handler) : Mapping Handler where
  method
  path := under path [.captured]
  handler
    | [captured] => some (handler captured)
    | _ => none

def Mapping.serve {Handler : Type} (mapping : Mapping Handler) (target : Target) :
    Option Handler :=
  if mapping.method.serves target.method then
    (capture mapping.path target.path).bind mapping.handler
  else none

/-- The handler of a request.  Where two mappings serve it, the more specific one
stands first. -/
def dispatch {Handler : Type} (mappings : List (Mapping Handler)) (target : Target) :
    Option Handler :=
  mappings.findSome? fun mapping => mapping.serve target

section Mappings

variable {Handler : Type} {method : HttpMethod} {path : List JString} {target : Target}
  {pieces : List Piece} {captured : List JString}

theorem capture_nil_iff : capture [] path = some captured ↔ path = [] ∧ captured = [] := by
  cases path with
  | nil => simp [capture, eq_comm]
  | cons segment path => simp [capture]

theorem capture_literal_iff {text : JString} :
    capture (.literal text :: pieces) path = some captured ↔
      ∃ rest, path = text :: rest ∧ capture pieces rest = some captured := by
  cases path with
  | nil => simp [capture]
  | cons segment path =>
      rw [capture, Option.ite_none_right_eq_some]
      constructor
      · intro ⟨hsegment, hrest⟩
        exact ⟨path, by rw [hsegment], hrest⟩
      · intro ⟨rest, hpath, hrest⟩
        obtain ⟨rfl, rfl⟩ := List.cons.inj hpath
        exact ⟨rfl, hrest⟩

theorem capture_captured_iff :
    capture (.captured :: pieces) path = some captured ↔
      ∃ segment rest others, path = segment :: rest ∧ segment ≠ [] ∧
        capture pieces rest = some others ∧ captured = segment :: others := by
  cases path with
  | nil => simp [capture]
  | cons segment path =>
      by_cases hempty : segment = []
      · simp [capture, hempty]
      · rw [capture, if_neg hempty, Option.map_eq_some_iff]
        constructor
        · intro ⟨others, hothers, hcaptured⟩
          exact ⟨segment, path, others, rfl, hempty, hothers, hcaptured.symm⟩
        · intro ⟨first, rest, others, hpath, _, hothers, hcaptured⟩
          obtain ⟨rfl, rfl⟩ := List.cons.inj hpath
          exact ⟨others, hothers, hcaptured.symm⟩

theorem capture_under_iff {controller : String} :
    capture (under controller pieces) path = some captured ↔
      ∃ rest, path = (js controller).splitOn 47 ++ rest ∧ capture pieces rest = some captured := by
  rw [under]
  induction (js controller).splitOn 47 generalizing path with
  | nil => simp
  | cons segment segments ih =>
      rw [List.map_cons, List.cons_append, capture_literal_iff]
      simp only [ih, List.cons_append]
      constructor
      · intro ⟨_, hpath, rest, hrest, hcaptured⟩
        exact ⟨rest, by rw [hpath, hrest], hcaptured⟩
      · intro ⟨rest, hpath, hcaptured⟩
        exact ⟨_, hpath, rest, rfl, hcaptured⟩

theorem serve_plainMapping_iff {text : String} {mapped handler : Handler} :
    (plainMapping method text mapped).serve target = some handler ↔
      method.serves target.method = true ∧ target.path = (js text).splitOn 47 ∧
        handler = mapped := by
  rw [Mapping.serve, Option.ite_none_right_eq_some, Option.bind_eq_some_iff]
  apply and_congr_right'
  constructor
  · intro ⟨captured, hcaptured, hhandler⟩
    obtain ⟨rest, hpath, hrest⟩ := capture_under_iff.mp hcaptured
    obtain ⟨rfl, rfl⟩ := capture_nil_iff.mp hrest
    exact ⟨by rw [hpath, List.append_nil], (Option.some.inj hhandler).symm⟩
  · intro ⟨hpath, hhandler⟩
    refine ⟨[], capture_under_iff.mpr ⟨[], ?_, rfl⟩, by rw [hhandler]; rfl⟩
    rw [hpath, List.append_nil]

theorem serve_variableMapping_iff {text : String} {mapped : JString → Handler}
    {handler : Handler} :
    (variableMapping method text mapped).serve target = some handler ↔
      method.serves target.method = true ∧
        ∃ segment, segment ≠ [] ∧ target.path = (js text).splitOn 47 ++ [segment] ∧
          handler = mapped segment := by
  rw [Mapping.serve, Option.ite_none_right_eq_some, Option.bind_eq_some_iff]
  apply and_congr_right'
  constructor
  · intro ⟨captured, hcaptured, hhandler⟩
    obtain ⟨rest, hpath, hrest⟩ := capture_under_iff.mp hcaptured
    obtain ⟨segment, after, others, rfl, hsegment, hafter, rfl⟩ := capture_captured_iff.mp hrest
    obtain ⟨rfl, rfl⟩ := capture_nil_iff.mp hafter
    exact ⟨segment, hsegment, hpath, (Option.some.inj hhandler).symm⟩
  · intro ⟨segment, hsegment, hpath, hhandler⟩
    refine ⟨[segment], capture_under_iff.mpr ⟨[segment], hpath, ?_⟩, by rw [hhandler]; rfl⟩
    exact capture_captured_iff.mpr ⟨segment, [], [], rfl, hsegment, rfl, rfl⟩

theorem serves_get_iff : HttpMethod.GET.serves method = true ↔ method = .GET ∨ method = .HEAD := by
  cases method <;> decide

theorem serves_iff {mapped : HttpMethod} (hmapped : mapped ≠ .GET) :
    mapped.serves method = true ↔ method = mapped := by
  cases mapped with
  | GET => exact absurd rfl hmapped
  | _ => cases method <;> decide

/-- What a mapping of another method than `GET` serves. -/
theorem eq_of_serve_plainMapping {text : String} {mapped handler : Handler}
    (hmethod : method ≠ .GET)
    (hserve : (plainMapping method text mapped).serve target = some handler) :
    target = ⟨method, (js text).splitOn 47⟩ ∧ handler = mapped := by
  obtain ⟨hserves, hpath, hhandler⟩ := serve_plainMapping_iff.mp hserve
  rw [← hpath, ← (serves_iff hmethod).mp hserves]
  exact ⟨rfl, hhandler⟩

theorem eq_of_serve_variableMapping {text : String} {mapped : JString → Handler}
    {handler : Handler} (hmethod : method ≠ .GET)
    (hserve : (variableMapping method text mapped).serve target = some handler) :
    ∃ segment, target = ⟨method, (js text).splitOn 47 ++ [segment]⟩ ∧
      handler = mapped segment := by
  obtain ⟨hserves, segment, -, hpath, hhandler⟩ := serve_variableMapping_iff.mp hserve
  refine ⟨segment, ?_, hhandler⟩
  rw [← hpath, ← (serves_iff hmethod).mp hserves]

/-- A mapping of a path below `/api`. -/
def Mapping.IsApi (mapping : Mapping Handler) : Prop :=
  mapping.method ≠ .OPTIONS ∧
    ∃ pieces, mapping.path = .literal [] :: .literal (js "api") :: pieces

theorem isApi_of_serve {mapping : Mapping Handler} {handler : Handler} (hapi : mapping.IsApi)
    (hserve : mapping.serve target = some handler) :
    target.method ≠ .OPTIONS ∧ ∃ rest, target.path = [] :: js "api" :: rest := by
  obtain ⟨hmethod, pieces, hpieces⟩ := hapi
  obtain ⟨hserves, hserve⟩ := Option.ite_none_right_eq_some.mp hserve
  obtain ⟨captured, hcaptured, -⟩ := Option.bind_eq_some_iff.mp hserve
  rw [hpieces] at hcaptured
  obtain ⟨_, hpath, hcaptured⟩ := capture_literal_iff.mp hcaptured
  obtain ⟨rest, rfl, -⟩ := capture_literal_iff.mp hcaptured
  refine ⟨fun hoptions => hmethod ?_, rest, hpath⟩
  rw [hoptions] at hserves
  cases hmapped : mapping.method with
  | OPTIONS => rfl
  | _ =>
      rw [hmapped] at hserves
      cases hserves

theorem exists_of_dispatch {mappings : List (Mapping Handler)} {handler : Handler}
    (hdispatch : dispatch mappings target = some handler) :
    ∃ mapping ∈ mappings, mapping.serve target = some handler :=
  List.exists_of_findSome?_eq_some hdispatch

end Mappings

end ShoppingWeb.Access
