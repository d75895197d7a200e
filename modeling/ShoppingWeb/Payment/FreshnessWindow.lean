import ShoppingWeb.Payment.HmacVerificationFilter

/-!
# The freshness window

The filter limits the age of a signed request to five minutes by one 64-bit
difference.  A timestamp in the future, or one so far in the past that the
difference wraps around, has a small or a negative age.
-/

namespace ShoppingWeb.PaymentFilter

open ShoppingWeb.Utf16
open ShoppingWeb.Shared
open ShoppingWeb.OrderService (Crypto)

/-- Five minutes in milliseconds. -/
def freshnessWindow : ℤ := 300000

/-- A payment request that is forwarded carries a timestamp within the window. -/
def ForwardedOnlyFresh (crypto : Crypto) (hmacSecret : JString) (currentTime : Int64)
    (request : HttpRequest) : Prop :=
  requiresSignature request = true →
    doFilterInternal crypto hmacSecret currentTime request = .forwarded →
      ∀ timestamp ts, request.xTimestamp = some timestamp → parseSigned timestamp = some ts →
        |currentTime.toInt - ts| ≤ freshnessWindow

/-- A payment request with a readable timestamp and the right signature. -/
def SignedAt (crypto : Crypto) (hmacSecret : JString) (request : HttpRequest)
    (requestTime : Int64) : Prop :=
  requiresSignature request = true ∧
    ∃ signature timestamp, request.xSignature = some signature ∧
      request.xTimestamp = some timestamp ∧ parseLong timestamp = some requestTime ∧
      calculateHmac crypto (dataToSign request timestamp) hmacSecret = signature

/-- The ages on which the 64-bit check and the window agree: those up to five
minutes ahead that do not wrap around, and those so far ahead that they do. -/
def AgeJudgedRight (age : ℤ) : Prop :=
  (-freshnessWindow ≤ age ∧ age < 2 ^ 63) ∨ (-2 ^ 64 + freshnessWindow < age ∧ age < -2 ^ 63)

theorem parseSigned_of_parseLong {text : JString} {value : Int64}
    (hparse : parseLong text = some value) : parseSigned text = some value.toInt := by
  obtain ⟨parsed, hparsed, hrange⟩ := Option.bind_eq_some_iff.mp hparse
  split at hrange
  · rename_i hbounds
    obtain rfl := Option.some.inj hrange
    rw [hparsed, Int64.toInt_ofInt_of_le hbounds.1]
    have hupper : parsed ≤ 2 ^ 63 - 1 := hbounds.2
    omega
  · cases hrange

/-- The check of the filter on the age of a request. -/
theorem not_expired_iff (currentTime requestTime : Int64) :
    ¬ currentTime - requestTime > 300000 ↔
      (currentTime.toInt - requestTime.toInt).bmod (2 ^ 64) ≤ freshnessWindow := by
  have hwindow : (300000 : Int64).toInt = freshnessWindow := by decide
  rw [gt_iff_lt, Int64.lt_iff_toInt_lt, Int64.toInt_sub, hwindow, not_lt]

/-- An age that passes the check is in the window exactly when it is judged
right. -/
theorem age_in_window_iff {age : ℤ} (hlower : -2 ^ 64 < age) (hupper : age < 2 ^ 64) :
    (age.bmod (2 ^ 64) ≤ freshnessWindow → |age| ≤ freshnessWindow) ↔ AgeJudgedRight age := by
  simp only [AgeJudgedRight, freshnessWindow, abs_le]
  rw [Int.bmod_def]
  push_cast
  split_ifs
  · omega
  · omega

/-- A payment request is forwarded exactly when it is signed at a time that has
not expired. -/
theorem forwarded_iff_signedAt {crypto : Crypto} {hmacSecret : JString} {currentTime : Int64}
    {request : HttpRequest} (hrequired : requiresSignature request = true) :
    doFilterInternal crypto hmacSecret currentTime request = .forwarded ↔
      ∃ requestTime, SignedAt crypto hmacSecret request requestTime ∧
        (currentTime.toInt - requestTime.toInt).bmod (2 ^ 64) ≤ freshnessWindow := by
  rw [doFilterInternal, if_pos hrequired, checkSignature_eq_forwarded_iff]
  constructor
  · rintro ⟨signature, timestamp, requestTime, hsignature, htimestamp, hparse, hfresh, hhmac⟩
    exact ⟨requestTime, ⟨hrequired, signature, timestamp, hsignature, htimestamp, hparse, hhmac⟩,
      (not_expired_iff currentTime requestTime).mp hfresh⟩
  · rintro ⟨requestTime, ⟨-, signature, timestamp, hsignature, htimestamp, hparse, hhmac⟩, hfresh⟩
    exact ⟨signature, timestamp, requestTime, hsignature, htimestamp, hparse,
      (not_expired_iff currentTime requestTime).mpr hfresh, hhmac⟩

/-- Only fresh requests are forwarded exactly when the age of a signed request
is judged right. -/
theorem forwardedOnlyFresh_iff (crypto : Crypto) (hmacSecret : JString) (currentTime : Int64)
    (request : HttpRequest) :
    ForwardedOnlyFresh crypto hmacSecret currentTime request ↔
      ∀ requestTime, SignedAt crypto hmacSecret request requestTime →
        AgeJudgedRight (currentTime.toInt - requestTime.toInt) := by
  have hrange : ∀ requestTime : Int64, -2 ^ 64 < currentTime.toInt - requestTime.toInt ∧
      currentTime.toInt - requestTime.toInt < 2 ^ 64 := by
    intro requestTime
    have hlower := currentTime.le_toInt
    have hupper := currentTime.toInt_lt
    have hotherLower := requestTime.le_toInt
    have hotherUpper := requestTime.toInt_lt
    omega
  constructor
  · intro honly requestTime hsigned
    obtain ⟨hlower, hupper⟩ := hrange requestTime
    apply (age_in_window_iff hlower hupper).mp
    intro hfresh
    obtain ⟨hrequired, signature, timestamp, hsignature, htimestamp, hparse, hhmac⟩ := id hsigned
    have hforwarded := (forwarded_iff_signedAt hrequired).mpr ⟨requestTime, hsigned, hfresh⟩
    exact honly hrequired hforwarded timestamp _ htimestamp (parseSigned_of_parseLong hparse)
  · intro hright hrequired hforwarded timestamp ts htimestamp hts
    obtain ⟨requestTime, hsigned, hfresh⟩ := (forwarded_iff_signedAt hrequired).mp hforwarded
    obtain ⟨hlower, hupper⟩ := hrange requestTime
    have hwindow := (age_in_window_iff hlower hupper).mpr (hright requestTime hsigned) hfresh
    obtain ⟨-, _, other, -, hother, hparse, -⟩ := hsigned
    obtain rfl := Option.some.inj (htimestamp.symm.trans hother)
    obtain rfl := Option.some.inj (hts.symm.trans (parseSigned_of_parseLong hparse))
    exact hwindow

/-- Cryptography that changes nothing. -/
def plainCrypto : Crypto :=
  ⟨fun message => message, fun _ message => message, fun _ _ plaintext => plaintext⟩

/-- A request signed for one hour after the epoch. -/
def hourAhead : HttpRequest where
  method := js "POST"
  requestUri := js "/api/payments"
  xSignature := some (calculateHmac plainCrypto (js "/api/payments" ++ js "3600000") (js "secret"))
  xTimestamp := some (js "3600000")
  body := []

/-- At the epoch it is an hour early, and forwarded. -/
theorem forwardedOnlyFresh_hourAhead :
    ¬ ∀ (crypto : Crypto) (hmacSecret : JString) (currentTime : Int64) (request : HttpRequest),
      ForwardedOnlyFresh crypto hmacSecret currentTime request := by
  intro honly
  have hforwarded : doFilterInternal plainCrypto (js "secret") 0 hourAhead = .forwarded := by
    decide
  have hparse : parseSigned (js "3600000") = some 3600000 := by decide
  have hwindow := honly plainCrypto (js "secret") 0 hourAhead (by decide) hforwarded
    (js "3600000") 3600000 rfl hparse
  exact absurd hwindow (by decide)

end ShoppingWeb.PaymentFilter
