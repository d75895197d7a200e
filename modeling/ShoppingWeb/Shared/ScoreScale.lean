import ShoppingWeb.Shared.RiskMonotonicity

/-!
# The scale of the scores

`TransactionRisk` documents scores from 0 to 100.  The loops over the items
take 40 points for each suspect item.  Only the integrity check is stopped at
zero, and neither loop is stopped before 32 bits wrap around.
-/

namespace ShoppingWeb.Shared.TransactionSecurityService

open ShoppingWeb.Utf16

def IsPercentage (score : ℤ) : Prop := 0 ≤ score ∧ score ≤ 100

/-- The six component scores and the overall score are on their scale. -/
structure OnScale (risk : TransactionRisk) : Prop where
  userVerification : IsPercentage risk.userVerificationScore.toInt
  sessionValidity : IsPercentage risk.sessionValidityScore.toInt
  productIntegrity : IsPercentage risk.productIntegrityScore.toInt
  priceAccuracy : IsPercentage risk.priceAccuracyScore.toInt
  transactionStatus : IsPercentage risk.transactionStatusScore.toInt
  fraud : IsPercentage risk.fraudScore.toInt
  overall : IsPercentage (calculateOverallRiskScore risk)

section Components

variable (sha256 : Bytes → Bytes) (lookups : CatalogLookups) (context : TransactionContext)

theorem isPercentage_userVerification :
    IsPercentage (verifyUserIdentity context).score.toInt := by
  rw [verifyUserIdentity_score, userDeduction, IsPercentage]
  split_ifs
  all_goals omega

theorem isPercentage_sessionValidity :
    IsPercentage (validateSessionBinding context).score.toInt := by
  rw [validateSessionBinding_score, sessionDeduction, IsPercentage]
  split_ifs
  all_goals omega

theorem isPercentage_fraud : IsPercentage (performFraudAnalysis context).score.toInt := by
  rw [performFraudAnalysis_score, fraudDeduction, IsPercentage]
  split_ifs
  all_goals omega

theorem isPercentage_transactionStatus :
    IsPercentage (validateTransactionStatus context).score.toInt := by
  have hscore : (validateTransactionStatus context).score.toInt = 100 := rfl
  rw [hscore, IsPercentage]
  omega

theorem isPercentage_productIntegrity_iff :
    IsPercentage (validateProductIntegrity sha256 lookups.integrity context).score.toInt ↔
      40 * tamperedCount sha256 lookups context % 2 ^ 32 ≤ 2 ^ 31 + 100 := by
  rw [validateProductIntegrity_score, productDeduction, IsPercentage, ← itemScore_le_iff]
  omega

theorem isPercentage_priceAccuracy_iff :
    IsPercentage (validatePriceAccuracy lookups.price context).score.toInt ↔
      TotalMismatch lookups context ∨ 40 * mispricedCount lookups context % 2 ^ 32 ≤ 100 := by
  rw [validatePriceAccuracy_score, priceDeduction, IsPercentage]
  split_ifs with hmismatch
  · exact iff_of_true (by decide) (Or.inl hmismatch)
  · rw [← itemScore_nonneg_and_le_iff]
    simp [hmismatch]

end Components

/-- A weighted mean of scores on the scale is on the scale. -/
theorem isPercentage_overall {risk : TransactionRisk}
    (huser : IsPercentage risk.userVerificationScore.toInt)
    (hsession : IsPercentage risk.sessionValidityScore.toInt)
    (hproduct : IsPercentage risk.productIntegrityScore.toInt)
    (hprice : IsPercentage risk.priceAccuracyScore.toInt)
    (hstatus : IsPercentage risk.transactionStatusScore.toInt)
    (hfraud : IsPercentage risk.fraudScore.toInt) :
    IsPercentage (calculateOverallRiskScore risk) := by
  rw [overallScore_eq_twentieths]
  simp only [IsPercentage, scoreTwentieths] at *
  omega

/-- The scores are on their scale exactly when few enough items are suspect, or
the total is off, which hides the deductions for prices. -/
theorem onScale_iff (sha256 : Bytes → Bytes) (lookups : CatalogLookups)
    (context : TransactionContext) :
    OnScale (assess sha256 lookups context) ↔
      40 * tamperedCount sha256 lookups context % 2 ^ 32 ≤ 2 ^ 31 + 100 ∧
        (TotalMismatch lookups context ∨ 40 * mispricedCount lookups context % 2 ^ 32 ≤ 100) := by
  rw [← isPercentage_productIntegrity_iff, ← isPercentage_priceAccuracy_iff]
  constructor
  · intro hscale
    exact ⟨hscale.productIntegrity, hscale.priceAccuracy⟩
  · intro ⟨hproduct, hprice⟩
    have huser := isPercentage_userVerification context
    have hsession := isPercentage_sessionValidity context
    have hstatus := isPercentage_transactionStatus context
    have hfraud := isPercentage_fraud context
    exact ⟨huser, hsession, hproduct, hprice, hstatus, hfraud,
      isPercentage_overall huser hsession hproduct hprice hstatus hfraud⟩

/-- Three items at 100 each. -/
def threeItems : TransactionContext where
  orderId := none
  userId := some (js "alice")
  sessionId := some (js "session-1")
  totalAmount := ⟨300, 0⟩
  currency := some (js "VND")
  timestamp := 0
  deviceFingerprint := some (js "Mozilla/5.0")
  ipAddress := some (js "203.0.113.7")
  orderItems := [⟨1, some (js "Pen"), some ⟨100, 0⟩, 1, none⟩,
    ⟨2, some (js "Ink"), some ⟨100, 0⟩, 1, none⟩, ⟨3, some (js "Pad"), some ⟨100, 0⟩, 1, none⟩]
  shippingDetails := none

/-- The catalog when all three prices have changed and their sum has not. -/
def reshuffledPrice : ℕ → CatalogAnswer
  | 0 => .product (some (js "Pen")) (some ⟨101, 0⟩)
  | 1 => .product (some (js "Ink")) (some ⟨98, 0⟩)
  | _ => .product (some (js "Pad")) (some ⟨101, 0⟩)

theorem not_onScale_reshuffled :
    ¬ ∀ (sha256 : Bytes → Bytes) (lookups : CatalogLookups) (context : TransactionContext),
      OnScale (assess sha256 lookups context) := by
  intro hscale
  have hprice := (hscale (fun message => message) ⟨reshuffledPrice, reshuffledPrice⟩
    threeItems).priceAccuracy.1
  have hnegative : (assess (fun message => message) ⟨reshuffledPrice, reshuffledPrice⟩
      threeItems).priceAccuracyScore.toInt = -20 := by
    decide
  omega

end ShoppingWeb.Shared.TransactionSecurityService
