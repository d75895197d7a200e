import ShoppingWeb.Lib.PercentDecoding
import ShoppingWeb.Order.Entities

/-!
# The HMAC filter of the payment service

`HmacVerificationFilter` decides on the raw request URI whether a request has
to be signed; Spring dispatches on the decoded path segments.
-/

namespace ShoppingWeb.PaymentFilter

open ShoppingWeb.Utf16
open ShoppingWeb.PercentDecoding
open ShoppingWeb.Shared
open ShoppingWeb.OrderService (Crypto)

structure HttpRequest where
  method : JString
  requestUri : JString
  xSignature : Option JString
  xTimestamp : Option JString
  body : Bytes
  deriving DecidableEq, Repr

/-- The zero digits of the Basic Multilingual Plane; nine digits follow each. -/
def zeroDigits : List ℕ :=
  [0x0030, 0x0660, 0x06F0, 0x07C0, 0x0966, 0x09E6, 0x0A66, 0x0AE6, 0x0B66, 0x0BE6, 0x0C66,
    0x0CE6, 0x0D66, 0x0DE6, 0x0E50, 0x0ED0, 0x0F20, 0x1040, 0x1090, 0x17E0, 0x1810, 0x1946,
    0x19D0, 0x1A80, 0x1A90, 0x1B50, 0x1BB0, 0x1C40, 0x1C50, 0xA620, 0xA8D0, 0xA900, 0xA9D0,
    0xA9F0, 0xAA50, 0xABF0, 0xFF10]

/-- `Character.digit(unit, 10)` -/
def digit? (unit : CodeUnit) : Option ℕ :=
  (zeroDigits.find? fun first => decide (first ≤ unit.toNat ∧ unit.toNat < first + 10)).map
    fun first => unit.toNat - first

def parseDigits (digits : JString) : Option ℕ :=
  if digits.isEmpty then none
  else digits.foldlM (fun value unit => (digit? unit).map fun digit => 10 * value + digit) 0

/-- Digits with an optional sign. -/
def parseSigned : JString → Option ℤ
  | 45 :: digits => (parseDigits digits).map fun value : ℕ => -(value : ℤ)
  | 43 :: digits => (parseDigits digits).map fun value : ℕ => (value : ℤ)
  | digits => (parseDigits digits).map fun value : ℕ => (value : ℤ)

/-- `Long.parseLong`; `none` is its `NumberFormatException`. -/
def parseLong (text : JString) : Option Int64 :=
  (parseSigned text).bind fun value =>
    if Int64.minValue.toInt ≤ value ∧ value ≤ Int64.maxValue.toInt then some (Int64.ofInt value)
    else none

def calculateHmac (crypto : Crypto) (data key : JString) : JString :=
  Base64.encode (crypto.hmacSha256 (getBytes key) (getBytes data))

/-- `"POST".equalsIgnoreCase`: U+017F is the other unit whose upper case is S. -/
def isPostIgnoringCase (method : JString) : Bool :=
  match method with
  | [p, o, s, t] =>
      [80, 112].contains p && [79, 111].contains o && [83, 115, 0x17F].contains s &&
        [84, 116].contains t
  | _ => false

inductive FilterResult where
  | forwarded
  | sendError (status : ℕ) (message : JString)
  /-- An exception leaves the filter. -/
  | threw
  deriving DecidableEq, Repr

def requiresSignature (request : HttpRequest) : Bool :=
  isPostIgnoringCase request.method && (js "/api/payments").isPrefixOf request.requestUri

def dataToSign (request : HttpRequest) (timestamp : JString) : JString :=
  request.requestUri ++ newString request.body ++ timestamp

/-- The signature check, on a request that requires one. -/
def checkSignature (crypto : Crypto) (hmacSecret : JString) (currentTime : Int64)
    (request : HttpRequest) : FilterResult :=
  match request.xSignature, request.xTimestamp with
  | some signature, some timestamp =>
      match parseLong timestamp with
      | none => .threw
      | some requestTime =>
          if currentTime - requestTime > 300000 then
            .sendError 401 (js "Timestamp expired (Replay Attack Prevention)")
          else if calculateHmac crypto (dataToSign request timestamp) hmacSecret ≠ signature then
            .sendError 403 (js "Invalid HMAC Signature")
          else .forwarded
  | _, _ => .sendError 401 (js "Missing HMAC Signature or Timestamp")

def doFilterInternal (crypto : Crypto) (hmacSecret : JString) (currentTime : Int64)
    (request : HttpRequest) : FilterResult :=
  if requiresSignature request then checkSignature crypto hmacSecret currentTime request
  else .forwarded

/-- What a passed check says about the request. -/
theorem checkSignature_eq_forwarded_iff {crypto : Crypto} {hmacSecret : JString}
    {currentTime : Int64} {request : HttpRequest} :
    checkSignature crypto hmacSecret currentTime request = .forwarded ↔
      ∃ signature timestamp requestTime, request.xSignature = some signature ∧
        request.xTimestamp = some timestamp ∧ parseLong timestamp = some requestTime ∧
        ¬ currentTime - requestTime > 300000 ∧
        calculateHmac crypto (dataToSign request timestamp) hmacSecret = signature := by
  rw [checkSignature]
  split
  · rename_i signature timestamp hsignature htimestamp
    split
    · rename_i hparse
      simp [hsignature, htimestamp, hparse]
    · rename_i requestTime hparse
      split_ifs with hexpired hinvalid
      · simp [hsignature, htimestamp, hparse, hexpired]
      · simp only [hsignature, htimestamp, Option.some.injEq, false_iff]
        rintro ⟨_, _, _, rfl, rfl, -, -, heq⟩
        exact hinvalid heq
      · simp only [true_iff]
        exact ⟨signature, timestamp, requestTime, hsignature, htimestamp, hparse, hexpired,
          not_not.mp hinvalid⟩
  · rename_i hmissing
    simp only [reduceCtorEq, false_iff, not_exists, not_and]
    intro signature timestamp requestTime hsignature htimestamp
    exact absurd htimestamp (hmissing signature timestamp hsignature)

/-- `PaymentController.processPayment` is mapped to this request: the decoded
segments are those of `/api/payments`. -/
def isPaymentEndpoint (request : HttpRequest) : Bool :=
  request.method == js "POST" &&
    decodePath request.requestUri == some [[], js "api", js "payments"]

/-- The request reaches the payment endpoint. -/
def IsDispatched (crypto : Crypto) (hmacSecret : JString) (currentTime : Int64)
    (request : HttpRequest) : Prop :=
  doFilterInternal crypto hmacSecret currentTime request = .forwarded ∧
    isPaymentEndpoint request = true

/-- A request is dispatched to the payment endpoint only after its signature
was checked successfully. -/
def DispatchedOnlySigned (crypto : Crypto) (hmacSecret : JString) (currentTime : Int64)
    (request : HttpRequest) : Prop :=
  IsDispatched crypto hmacSecret currentTime request →
    requiresSignature request = true ∧
      checkSignature crypto hmacSecret currentTime request = .forwarded

theorem isPostIgnoringCase_of_isPaymentEndpoint {request : HttpRequest}
    (hendpoint : isPaymentEndpoint request = true) :
    isPostIgnoringCase request.method = true := by
  simp only [isPaymentEndpoint, Bool.and_eq_true, beq_iff_eq] at hendpoint
  rw [hendpoint.1]
  decide

theorem dispatchedOnlySigned_iff (crypto : Crypto) (hmacSecret : JString) (currentTime : Int64)
    (request : HttpRequest) :
    DispatchedOnlySigned crypto hmacSecret currentTime request ↔
      (request.method = js "POST" →
        decodePath request.requestUri = some [[], js "api", js "payments"] →
        js "/api/payments" <+: request.requestUri) := by
  constructor
  · intro hsigned hmethod hpath
    have hendpoint : isPaymentEndpoint request = true := by simp [isPaymentEndpoint, hmethod, hpath]
    by_contra hraw
    have hskipped : requiresSignature request = false := by
      rw [requiresSignature, Bool.and_eq_false_iff]
      exact Or.inr (Bool.eq_false_iff.mpr fun h => hraw (List.isPrefixOf_iff_prefix.mp h))
    have hforwarded : doFilterInternal crypto hmacSecret currentTime request = .forwarded := by
      simp [doFilterInternal, hskipped]
    have hchecked := (hsigned ⟨hforwarded, hendpoint⟩).1
    rw [hskipped] at hchecked
    cases hchecked
  · rintro hraw ⟨hforwarded, hendpoint⟩
    have hpost := isPostIgnoringCase_of_isPaymentEndpoint hendpoint
    simp only [isPaymentEndpoint, Bool.and_eq_true, beq_iff_eq] at hendpoint
    have hrequired : requiresSignature request = true := by
      rw [requiresSignature, hpost, Bool.true_and, List.isPrefixOf_iff_prefix]
      exact hraw hendpoint.1 hendpoint.2
    rw [doFilterInternal, if_pos hrequired] at hforwarded
    exact ⟨hrequired, hforwarded⟩

/-- A path that spells no character as an escape is classified alike. -/
theorem prefix_of_decodePath {path : JString} (hpath : (37 : CodeUnit) ∉ path)
    (hdecode : decodePath path = some [[], js "api", js "payments"]) :
    js "/api/payments" <+: path := by
  rw [eq_intercalate_of_decodePath hpath hdecode]
  decide

/-- An unsigned request that spells the first letter as `%70`. -/
def escapedRequest : HttpRequest where
  method := js "POST"
  requestUri := js "/api/%70ayments"
  xSignature := none
  xTimestamp := none
  body := getBytes (js "\x7b\"orderId\":1,\"paymentToken\":\"t\"\x7d")

theorem escapedRequest_dispatched_unsigned :
    ¬ ∀ (crypto : Crypto) (hmacSecret : JString) (currentTime : Int64) (request : HttpRequest),
      DispatchedOnlySigned crypto hmacSecret currentTime request := by
  intro hsigned
  have hskipped : requiresSignature escapedRequest = false := by decide
  have hchecked := hsigned ⟨fun message => message, fun _ message => message,
    fun _ _ plaintext => plaintext⟩ (js "secret") 0 escapedRequest
    ⟨by rw [doFilterInternal, hskipped]; rfl, by decide⟩
  rw [hskipped] at hchecked
  exact absurd hchecked.1 Bool.noConfusion

end ShoppingWeb.PaymentFilter
