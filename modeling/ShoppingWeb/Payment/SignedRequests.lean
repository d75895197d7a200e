import ShoppingWeb.Lib.TransitionSystem
import ShoppingWeb.Payment.HmacVerificationFilter

/-!
# What the HMAC signature covers

Signer and verifier join URI, body and timestamp without separators, and both
decode the body before signing.  So a signature covers a joined text, not a
triple: the triple is determined once the outer parts have the lengths the
signer gives them and the body survives decoding.
-/

namespace ShoppingWeb.PaymentFilter

open ShoppingWeb.Utf16
open ShoppingWeb.DecimalText
open ShoppingWeb.Delimited
open ShoppingWeb.Shared
open ShoppingWeb.TransitionSystem
open ShoppingWeb.OrderService (Crypto)

/-- `template.path()` of `PaymentFeignClient.processPayment`. -/
def paymentPath : JString := js "/api/payments"

/-- The request `PaymentFeignClient` sends after its interceptor has signed it. -/
def hmacRequestInterceptor (crypto : Crypto) (hmacSecret : JString) (currentTimeMillis : ℤ)
    (bodyBytes : Option Bytes) : HttpRequest :=
  let timestamp := intText currentTimeMillis
  let body := (bodyBytes.map newString).getD []
  { method := js "POST"
    requestUri := paymentPath
    xSignature := some (calculateHmac crypto (paymentPath ++ body ++ timestamp) hmacSecret)
    xTimestamp := some timestamp
    body := bodyBytes.getD [] }

/-- What a request claims to be signed: URI, body and timestamp. -/
def signedTriple (request : HttpRequest) : JString × Bytes × Option JString :=
  (request.requestUri, request.body, request.xTimestamp)

/-- The requests signed so far, all of them known to the adversary. -/
abbrev Traffic := List HttpRequest

inductive TrafficEvent where
  | sign (currentTimeMillis : ℤ) (bodyBytes : Option Bytes)
  | deliver (currentTime : Int64) (request : HttpRequest)

/-- The bytes a request's signature is computed on. -/
def macMessage (request : HttpRequest) : Bytes :=
  getBytes (dataToSign request (request.xTimestamp.getD []))

/-- HMAC is unforgeable: a request carries the right signature of its message
only if the signer has signed this message. -/
def IsUnforged (crypto : Crypto) (hmacSecret : JString) (traffic : Traffic)
    (request : HttpRequest) : Bool :=
  request.xSignature != some (calculateHmac crypto
    (dataToSign request (request.xTimestamp.getD [])) hmacSecret) ||
  traffic.any fun signed => macMessage signed == macMessage request

def trafficStep (crypto : Crypto) (hmacSecret : JString) (traffic : Traffic) :
    TrafficEvent → Option Traffic
  | .sign currentTimeMillis bodyBytes =>
      some (traffic ++ [hmacRequestInterceptor crypto hmacSecret currentTimeMillis bodyBytes])
  | .deliver _ request =>
      if IsUnforged crypto hmacSecret traffic request then some traffic else none

/-- The clock prints thirteen digits and the body is well-formed UTF-8. -/
def SignsPlainly (_traffic : Traffic) : TrafficEvent → Prop
  | .sign currentTimeMillis bodyBytes =>
      (intText currentTimeMillis).length = 13 ∧ WellFormedUtf8 (bodyBytes.getD [])
  | .deliver _ _ => True

/-- The shape the signer gives to its requests. -/
structure HasSignerShape (request : HttpRequest) : Prop where
  requestUri_eq : request.requestUri = paymentPath
  timestamp_length : (request.xTimestamp.getD []).length = 13
  timestamp_wellFormed : WellFormed (request.xTimestamp.getD [])
  body_wellFormed : WellFormedUtf8 request.body

theorem wellFormed_paymentPath : WellFormed paymentPath :=
  wellFormed_of_no_surrogate (List.forall_iff_forall_mem.mp (by decide))

private theorem no_surrogate_of_digit? {unit : CodeUnit} {digit : ℕ}
    (hdigit : digit? unit = some digit) : unit.toNat < 0xD800 ∨ 0xE000 ≤ unit.toNat := by
  obtain ⟨first, hfirst, -⟩ := Option.map_eq_some_iff.mp hdigit
  have hmem := List.mem_of_find?_eq_some hfirst
  have hrange : first ≤ unit.toNat ∧ unit.toNat < first + 10 := by
    simpa using List.find?_some hfirst
  have hfirsts : ∀ first ∈ zeroDigits, first + 10 ≤ 0xD800 ∨ 0xE000 ≤ first := by decide
  rcases hfirsts first hmem with hlow | hhigh
  · exact Or.inl (by omega)
  · exact Or.inr (by omega)

private theorem no_surrogate_of_parseDigits {digits : JString} {value : ℕ}
    (hparse : parseDigits digits = some value) :
    ∀ unit ∈ digits, unit.toNat < 0xD800 ∨ 0xE000 ≤ unit.toNat := by
  rw [parseDigits] at hparse
  split at hparse
  · cases hparse
  · revert hparse
    generalize (0 : ℕ) = start
    induction digits generalizing start with
    | nil => exact fun _ unit hunit => absurd hunit List.not_mem_nil
    | cons first rest ih =>
        intro hfold unit hunit
        rw [List.foldlM_cons] at hfold
        obtain ⟨next, hnext, hrest⟩ := Option.bind_eq_some_iff.mp hfold
        rcases List.mem_cons.mp hunit with rfl | hmem
        · obtain ⟨digit, hfound, -⟩ := Option.map_eq_some_iff.mp hnext
          exact no_surrogate_of_digit? hfound
        · cases rest with
          | nil => exact absurd hmem List.not_mem_nil
          | cons second rest => exact ih (by simp) next hrest unit hmem

/-- A timestamp that parses holds digits and a sign. -/
theorem wellFormed_of_parseLong {text : JString} {value : Int64}
    (hparse : parseLong text = some value) : WellFormed text := by
  apply wellFormed_of_no_surrogate
  obtain ⟨number, hnumber, -⟩ := Option.bind_eq_some_iff.mp hparse
  rw [parseSigned.eq_def] at hnumber
  split at hnumber
  · obtain ⟨result, hresult, -⟩ := Option.map_eq_some_iff.mp hnumber
    exact List.forall_mem_cons.mpr ⟨Or.inl (by decide), no_surrogate_of_parseDigits hresult⟩
  · obtain ⟨result, hresult, -⟩ := Option.map_eq_some_iff.mp hnumber
    exact List.forall_mem_cons.mpr ⟨Or.inl (by decide), no_surrogate_of_parseDigits hresult⟩
  · obtain ⟨result, hresult, -⟩ := Option.map_eq_some_iff.mp hnumber
    exact no_surrogate_of_parseDigits hresult

variable {crypto : Crypto} {hmacSecret : JString}

theorem hasSignerShape_interceptor {currentTimeMillis : ℤ} {bodyBytes : Option Bytes}
    (hclock : (intText currentTimeMillis).length = 13)
    (hbody : WellFormedUtf8 (bodyBytes.getD [])) :
    HasSignerShape (hmacRequestInterceptor crypto hmacSecret currentTimeMillis bodyBytes) :=
  ⟨rfl, hclock, wellFormed_intText _, hbody⟩

/-- The message determines the triple of a request of the signer's shape. -/
theorem signedTriple_eq_of_macMessage_eq {left right : HttpRequest} (hleft : HasSignerShape left)
    (hright : HasSignerShape right) (heq : macMessage left = macMessage right) :
    left.requestUri = right.requestUri ∧ left.body = right.body ∧
      left.xTimestamp.getD [] = right.xTimestamp.getD [] := by
  have hwellFormed {request : HttpRequest} (h : HasSignerShape request) :
      WellFormed (dataToSign request (request.xTimestamp.getD [])) := by
    rw [dataToSign, h.requestUri_eq]
    exact wellFormed_append (wellFormed_append wellFormed_paymentPath (wellFormed_newString _))
      h.timestamp_wellFormed
  have hdata := getBytes_injOn (hwellFormed hleft) (hwellFormed hright) heq
  obtain ⟨huri, hbody, htimestamp⟩ := append_three_injective
    (by rw [hleft.requestUri_eq, hright.requestUri_eq])
    (hleft.timestamp_length.trans hright.timestamp_length.symm) hdata
  exact ⟨huri, newString_injOn hleft.body_wellFormed hright.body_wellFormed hbody, htimestamp⟩

/-- Signing keeps the shape of all signed requests. -/
theorem hasSignerShape_step {traffic next : Traffic} {event : TrafficEvent}
    (htraffic : ∀ request ∈ traffic, HasSignerShape request ∧ request.xTimestamp.isSome)
    (hguard : SignsPlainly traffic event)
    (hstep : trafficStep crypto hmacSecret traffic event = some next) :
    ∀ request ∈ next, HasSignerShape request ∧ request.xTimestamp.isSome := by
  cases event with
  | sign currentTimeMillis bodyBytes =>
      obtain rfl := Option.some.inj hstep
      intro request hrequest
      rcases List.mem_append.mp hrequest with hold | hnew
      · exact htraffic request hold
      · rw [List.mem_singleton.mp hnew]
        exact ⟨hasSignerShape_interceptor hguard.1 hguard.2, rfl⟩
  | deliver currentTime request =>
      rw [trafficStep] at hstep
      split at hstep
      · obtain rfl := Option.some.inj hstep
        exact htraffic
      · cases hstep

/-- The request's triple is one the interceptor has signed. -/
def IsSignedTriple (traffic : Traffic) (request : HttpRequest) : Prop :=
  ∃ signed ∈ traffic, signedTriple signed = signedTriple request

/-- After any run of plain signing, an accepted request carries a signed
triple exactly when it has the signer's shape. -/
theorem accepted_isSignedTriple_iff (events : List TrafficEvent) (traffic next : Traffic)
    (currentTime : Int64) (request : HttpRequest)
    (hplain : Guarded (trafficStep crypto hmacSecret) SignsPlainly [] events)
    (hrun : run (trafficStep crypto hmacSecret) [] events = some traffic)
    (hdelivered : trafficStep crypto hmacSecret traffic (.deliver currentTime request) = some next)
    (haccepted : checkSignature crypto hmacSecret currentTime request = .forwarded) :
    IsSignedTriple traffic request ↔
      request.requestUri = paymentPath ∧ (request.xTimestamp.getD []).length = 13 ∧
        WellFormedUtf8 request.body := by
  have hshapes : ∀ signed ∈ traffic, HasSignerShape signed ∧ signed.xTimestamp.isSome :=
    run_preserves (fun _ _ _ hinvariant hguard => hasSignerShape_step hinvariant hguard)
      (fun _ hrequest => absurd hrequest List.not_mem_nil) hplain hrun
  constructor
  · rintro ⟨signed, hmem, htriple⟩
    obtain ⟨hshape, -⟩ := hshapes signed hmem
    obtain ⟨huri, hbody, htimestamp⟩ : signed.requestUri = request.requestUri ∧
        signed.body = request.body ∧ signed.xTimestamp = request.xTimestamp := by
      simpa [signedTriple] using htriple
    rw [← huri, ← hbody, ← htimestamp]
    exact ⟨hshape.requestUri_eq, hshape.timestamp_length, hshape.body_wellFormed⟩
  · rintro ⟨huri, hlength, hbody⟩
    obtain ⟨signature, timestamp, requestTime, hsignature, htimestamp, hparse, -, hmac⟩ :=
      checkSignature_eq_forwarded_iff.mp haccepted
    have hshape : HasSignerShape request := by
      refine ⟨huri, hlength, ?_, hbody⟩
      rw [htimestamp]
      exact wellFormed_of_parseLong hparse
    have hunforged : IsUnforged crypto hmacSecret traffic request = true := by
      rw [trafficStep] at hdelivered
      split at hdelivered
      · assumption
      · cases hdelivered
    simp only [IsUnforged, htimestamp, Option.getD_some, hmac, hsignature, bne_self_eq_false,
      Bool.false_or, List.any_eq_true, beq_iff_eq] at hunforged
    obtain ⟨signed, hmem, hmessage⟩ := hunforged
    obtain ⟨hsignedShape, hsome⟩ := hshapes signed hmem
    obtain ⟨huriEq, hbodyEq, htimestampEq⟩ :=
      signedTriple_eq_of_macMessage_eq hsignedShape hshape hmessage
    obtain ⟨signedTimestamp, hsignedTimestamp⟩ := Option.isSome_iff_exists.mp hsome
    refine ⟨signed, hmem, ?_⟩
    rw [htimestamp, hsignedTimestamp] at htimestampEq
    simp only [Option.getD_some] at htimestampEq
    simp [signedTriple, huriEq, hbodyEq, htimestamp, hsignedTimestamp, htimestampEq]

/-- An injective stand-in for the primitives. -/
def openCrypto : Crypto :=
  ⟨fun message => message, fun _ message => message, fun _ _ plaintext => plaintext⟩

/-- The payment token `tok9`, signed in November 2023. -/
def signToken : TrafficEvent :=
  .sign 1700000000000 (some (getBytes (js "tok9")))

def signedToken : HttpRequest :=
  hmacRequestInterceptor openCrypto (js "secret") 1700000000000 (some (getBytes (js "tok9")))

/-- The signed request itself is accepted, and its triple was signed. -/
theorem signedToken_isSignedTriple_iff :
    IsSignedTriple [signedToken] signedToken ↔
      signedToken.requestUri = paymentPath ∧ (signedToken.xTimestamp.getD []).length = 13 ∧
        WellFormedUtf8 signedToken.body :=
  accepted_isSignedTriple_iff [signToken] [signedToken] [signedToken] 1700000000001 signedToken
    ⟨⟨by decide, (utf8Encode_utf8Decode_iff _).mp (by decide)⟩, fun _ _ => trivial⟩ rfl
    (by rw [trafficStep, if_pos (by decide)]) (by decide +kernel)

/-- The digit 9 moved from the body to the timestamp. -/
def shiftedToken : HttpRequest :=
  { signedToken with
    body := getBytes (js "tok")
    xTimestamp := some (js "91700000000000") }

theorem shiftedToken_accepted :
    ¬ ∀ (crypto : Crypto) (hmacSecret : JString) (events : List TrafficEvent)
      (traffic next : Traffic) (currentTime : Int64) (request : HttpRequest),
      (∀ key, Function.Injective (crypto.hmacSha256 key)) →
      run (trafficStep crypto hmacSecret) [] events = some traffic →
      trafficStep crypto hmacSecret traffic (.deliver currentTime request) = some next →
      checkSignature crypto hmacSecret currentTime request = .forwarded →
      IsSignedTriple traffic request := by
  intro hsound
  obtain ⟨signed, hmem, htriple⟩ := hsound openCrypto (js "secret") [signToken] [signedToken]
    [signedToken] 1700000000001 shiftedToken (fun _ => Function.injective_id) rfl
    (by rw [trafficStep, if_pos (by decide)]) (by decide +kernel)
  rw [List.mem_singleton.mp hmem] at htriple
  exact absurd htriple (by decide)

end ShoppingWeb.PaymentFilter
