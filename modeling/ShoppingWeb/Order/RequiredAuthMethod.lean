import ShoppingWeb.Order.PaymentSecurityGateway
import ShoppingWeb.Shared.RiskScore

/-!
# The required authentication method

The gate chooses the method by the keys of the risk factors.  All six checks
put their key into the map whatever they find, so below the high-value
threshold the first key asked for decides, and it is that of the identity
check.
-/

namespace ShoppingWeb.PaymentSecurityGateway

open ShoppingWeb.Utf16
open ShoppingWeb.Shared
open ShoppingWeb.Shared.TransactionSecurityService

/-- Whenever the gate requires a method, it is the one for what has been found:
a code by SMS for the identity, a mail for the products and the prices. -/
def MethodFollowsFinding (sha256 : Bytes → Bytes) (lookups : CatalogLookups)
    (context : TransactionContext) : Prop :=
  ∀ (clock : CallClock) (state : GatewayState) (method : JString),
    (validatePaymentTransition sha256 lookups clock context state).1.requiredAuthMethod =
        some method →
      ((verifyUserIdentity context).riskLevel ≠ .low → method = js "SMS_OTP") ∧
      ((verifyUserIdentity context).riskLevel = .low →
        (validateProductIntegrity sha256 lookups.integrity context).riskLevel ≠ .low ∨
            (validatePriceAccuracy lookups.price context).riskLevel ≠ .low →
          method = js "EMAIL_CONFIRMATION")

section Method

variable {sha256 : Bytes → Bytes} {lookups : CatalogLookups} {clock : CallClock}
  {context : TransactionContext} {state : GatewayState}

/-- A required method is the one determined for the decision. -/
theorem requiredAuthMethod_eq {method : JString}
    (hmethod : (validatePaymentTransition sha256 lookups clock context state).1.requiredAuthMethod =
      some method) :
    method = determineRequiredAuthMethod (validateTransaction sha256 lookups context) context := by
  rw [validatePaymentTransition] at hmethod
  cases hvalid : validApproval state clock.checkedAt context with
  | some approval =>
      rw [hvalid] at hmethod
      cases hmethod
  | none =>
      cases haction : (validateTransaction sha256 lookups context).action with
      | requireAdditionalAuth =>
          simp only [hvalid, processSecurityDecision, haction, handleAdditionalAuthRequired,
            Bool.false_eq_true, if_false] at hmethod
          exact (Option.some.inj hmethod).symm
      | _ =>
          simp only [hvalid, processSecurityDecision, haction, if_true, Bool.false_eq_true,
            if_false] at hmethod
          cases hmethod

/-- An empty cache lets the decision through. -/
theorem requiredAuthMethod_empty
    (haction : (validateTransaction sha256 lookups context).action = .requireAdditionalAuth) :
    (validatePaymentTransition sha256 lookups clock context .empty).1.requiredAuthMethod =
      some (determineRequiredAuthMethod (validateTransaction sha256 lookups context) context) := by
  have hvalid : validApproval .empty clock.checkedAt context = none := rfl
  simp only [validatePaymentTransition, hvalid, processSecurityDecision, haction,
    handleAdditionalAuthRequired, Bool.false_eq_true, if_false]

theorem compareTo_threshold_ne_gt (hamount : context.totalAmount.toRat ≤ 1000000) :
    context.totalAmount.compareTo ⟨1000000, 0⟩ ≠ .gt := by
  rw [ne_eq, BigDecimal.compareTo_eq_gt_iff, not_lt]
  calc
    context.totalAmount.toRat ≤ 1000000 := hamount
    _ = (⟨1000000, 0⟩ : BigDecimal).toRat := by norm_num [BigDecimal.toRat]

/-- The map of a validation has the key of the identity check. -/
theorem determineRequiredAuthMethod_eq (hamount : context.totalAmount.toRat ≤ 1000000) :
    determineRequiredAuthMethod (validateTransaction sha256 lookups context) context =
      js "SMS_OTP" := by
  have hkey : containsKey (validateTransaction sha256 lookups context).riskFactors
      (js "user_identity") = true := by
    simp [validateTransaction, makeSecurityDecision, assess, containsKey]
  rw [determineRequiredAuthMethod, if_neg (compareTo_threshold_ne_gt hamount), if_pos hkey]

/-- Without a finding against identity, products and prices the score is too
high for another authentication. -/
theorem action_ne_requireAdditionalAuth (hamount : context.totalAmount.toRat ≤ 1000000)
    (hidentity : (verifyUserIdentity context).riskLevel = .low)
    (hproduct : (validateProductIntegrity sha256 lookups.integrity context).riskLevel = .low)
    (hprice : (validatePriceAccuracy lookups.price context).riskLevel = .low) :
    (validateTransaction sha256 lookups context).action ≠ .requireAdditionalAuth := by
  have hhigh : isHighValue context = false := by
    simpa [isHighValue, HIGH_VALUE_THRESHOLD] using compareTo_threshold_ne_gt hamount
  have hitems : itemScore 0 = 100 := by decide
  obtain ⟨hrecognized, hsuspicious⟩ := (verifyUserIdentity_low_iff context).mp hidentity
  have huser : userDeduction context = 0 := by simp [userDeduction, hrecognized, hsuspicious]
  have hproducts : productDeduction sha256 lookups context = 0 := by
    rw [productDeduction, (validateProductIntegrity_low_iff sha256 lookups context).mp hproduct,
      hitems]
    rfl
  have hprices : priceDeduction lookups context = 0 := by
    rw [(validatePriceAccuracy_verdict lookups context).1] at hprice
    rw [priceDeduction]
    split_ifs at hprice ⊢ with hmismatch hcount
    rw [hcount, hitems]
    rfl
  have hsession : sessionDeduction context ≤ 100 := by
    rw [sessionDeduction]
    split_ifs
    all_goals decide
  have hscore : 80 ≤ calculateOverallRiskScore (assess sha256 lookups context) := by
    rw [overallScore_eq, totalDeduction, huser, hproducts, hprices, fraudDeduction, hhigh]
    simp only [Bool.false_eq_true, if_false]
    omega
  simp [validateTransaction, makeSecurityDecision, hhigh, scoreBand, hscore]

end Method

/-- The method follows the finding exactly when the finding is about the
device or the address. -/
theorem methodFollowsFinding_iff {sha256 : Bytes → Bytes} {lookups : CatalogLookups}
    {context : TransactionContext} (hamount : context.totalAmount.toRat ≤ 1000000)
    (haction : (validateTransaction sha256 lookups context).action = .requireAdditionalAuth) :
    MethodFollowsFinding sha256 lookups context ↔
      isDeviceRecognized context.deviceFingerprint context.userId = false ∨
        isSuspiciousLocation context.ipAddress context.userId = true := by
  have hlow := verifyUserIdentity_low_iff context
  constructor
  · intro hfollows
    by_contra hnone
    have hidentity : (verifyUserIdentity context).riskLevel = .low := by
      rw [hlow]
      simpa using hnone
    have hmail := (hfollows (.still 0) .empty _ (requiredAuthMethod_empty haction)).2 hidentity
    rw [determineRequiredAuthMethod_eq hamount] at hmail
    have hfinding : (validateProductIntegrity sha256 lookups.integrity context).riskLevel ≠ .low ∨
        (validatePriceAccuracy lookups.price context).riskLevel ≠ .low := by
      by_contra hclean
      push Not at hclean
      exact action_ne_requireAdditionalAuth hamount hidentity hclean.1 hclean.2 haction
    have hdifferent : js "SMS_OTP" ≠ js "EMAIL_CONFIRMATION" := by decide
    exact hdifferent (hmail hfinding)
  · intro hfinding clock state method hmethod
    have hidentity : (verifyUserIdentity context).riskLevel ≠ .low := by
      rw [ne_eq, hlow]
      rintro ⟨hrecognized, hsuspicious⟩
      simp [hrecognized, hsuspicious] at hfinding
    constructor
    · intro _
      rw [requiredAuthMethod_eq hmethod, determineRequiredAuthMethod_eq hamount]
    · exact fun hclean => absurd hclean hidentity

/-- Three pens, priced when the catalog could still be reached. -/
def threePens : TransactionContext where
  orderId := none
  userId := some (js "alice")
  sessionId := some (js "session-1")
  totalAmount := ⟨300, 0⟩
  currency := some (js "VND")
  timestamp := 0
  deviceFingerprint := some (js "Mozilla/5.0")
  ipAddress := some (js "203.0.113.7")
  orderItems := [⟨1, some (js "Pen"), some ⟨100, 0⟩, 1, some (js "hash-1")⟩,
    ⟨2, some (js "Pen"), some ⟨100, 0⟩, 1, some (js "hash-2")⟩,
    ⟨3, some (js "Pen"), some ⟨100, 0⟩, 1, some (js "hash-3")⟩]
  shippingDetails := none

theorem threePens_totalAmount_le : threePens.totalAmount.toRat ≤ 1000000 := by
  norm_num [threePens, BigDecimal.toRat]

theorem methodFollowsFinding_iff_threePens :
    MethodFollowsFinding (fun message => message) unreachableCatalog threePens ↔
      isDeviceRecognized threePens.deviceFingerprint threePens.userId = false ∨
        isSuspiciousLocation threePens.ipAddress threePens.userId = true :=
  methodFollowsFinding_iff threePens_totalAmount_le (by decide +kernel)

/-- The products and the prices are suspect, the identity is not, and the gate
requires a code by SMS. -/
theorem not_methodFollowsFinding_threePens :
    ¬ ∀ (sha256 : Bytes → Bytes) (lookups : CatalogLookups) (context : TransactionContext),
      context.totalAmount.toRat ≤ 1000000 →
        (validateTransaction sha256 lookups context).action = .requireAdditionalAuth →
          MethodFollowsFinding sha256 lookups context := by
  intro hfollows
  have hmethod : (validatePaymentTransition (fun message => message) unreachableCatalog (.still 0)
      threePens .empty).1.requiredAuthMethod = some (js "SMS_OTP") := by
    decide +kernel
  have hidentity : (verifyUserIdentity threePens).riskLevel = .low := by decide +kernel
  have hproduct : (validateProductIntegrity (fun message => message) unreachableCatalog.integrity
      threePens).riskLevel ≠ .low := by
    decide +kernel
  have hmail := (hfollows (fun message => message) unreachableCatalog threePens
    threePens_totalAmount_le (by decide +kernel) _ _ _ hmethod).2 hidentity (Or.inl hproduct)
  have hdifferent : js "SMS_OTP" ≠ js "EMAIL_CONFIRMATION" := by decide
  exact hdifferent hmail

end ShoppingWeb.PaymentSecurityGateway
