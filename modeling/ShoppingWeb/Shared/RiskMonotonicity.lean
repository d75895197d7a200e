import ShoppingWeb.Shared.RiskScore

/-!
# Less risk

Two evaluations, one with scores at least as high and an amount no larger.  The
score bands treat it no worse, but the override for high-value transactions
replaces a review or a block by an additional authentication, which the other
evaluation may not get.
-/

namespace ShoppingWeb.Shared

open ShoppingWeb.Utf16

/-- How restrictive an action is.  The last two are never decided on. -/
def SecurityAction.restrictiveness : SecurityAction → ℕ
  | .approve => 0
  | .approveWithMonitoring => 1
  | .requireAdditionalAuth => 2
  | .flagForReview => 3
  | .block => 4
  | .suspendAccount => 5
  | .requireKyc => 6

namespace TransactionSecurityService

/-- Every component score is at least as high. -/
structure ScoresAtMost (risk less : TransactionRisk) : Prop where
  user : risk.userVerificationScore.toInt ≤ less.userVerificationScore.toInt
  session : risk.sessionValidityScore.toInt ≤ less.sessionValidityScore.toInt
  product : risk.productIntegrityScore.toInt ≤ less.productIntegrityScore.toInt
  price : risk.priceAccuracyScore.toInt ≤ less.priceAccuracyScore.toInt
  status : risk.transactionStatusScore.toInt ≤ less.transactionStatusScore.toInt
  fraud : risk.fraudScore.toInt ≤ less.fraudScore.toInt

/-- The weighted sum of the scores, in twentieths of a point. -/
def scoreTwentieths (risk : TransactionRisk) : ℤ :=
  5 * risk.userVerificationScore.toInt + 3 * risk.sessionValidityScore.toInt +
    4 * risk.productIntegrityScore.toInt + 5 * risk.priceAccuracyScore.toInt +
    2 * risk.transactionStatusScore.toInt + risk.fraudScore.toInt

theorem overallScore_eq_twentieths (risk : TransactionRisk) :
    calculateOverallRiskScore risk = (scoreTwentieths risk + 10) / 20 := by
  have hweighted : weightedScore risk + 1 / 2 =
      ((scoreTwentieths risk + 10 : ℤ) : ℚ) / (20 : ℕ) := by
    simp only [weightedScore, scoreTwentieths]
    push_cast
    ring
  rw [calculateOverallRiskScore, hweighted, Rat.floor_intCast_div_natCast]
  rfl

theorem ScoresAtMost.twentieths_le {risk less : TransactionRisk}
    (hscores : ScoresAtMost risk less) : scoreTwentieths risk ≤ scoreTwentieths less := by
  obtain ⟨huser, hsession, hproduct, hprice, hstatus, hfraud⟩ := hscores
  simp only [scoreTwentieths]
  omega

/-- The action for the scores and the amount of an evaluation. -/
def decidedAction (risk : TransactionRisk) (context : TransactionContext) : SecurityAction :=
  (makeSecurityDecision risk (calculateOverallRiskScore risk) context).action

/-- Higher scores are in a band that is no more restrictive. -/
theorem restrictiveness_scoreBand_le {score other : ℤ} (hle : score ≤ other) :
    (scoreBand other).2.1.restrictiveness ≤ (scoreBand score).2.1.restrictiveness := by
  unfold scoreBand
  split_ifs
  all_goals first
    | omega
    | decide

/-- A review or a block is what scores below 40 get. -/
theorem restrictiveness_scoreBand_le_two_iff (score : ℤ) :
    (scoreBand score).2.1.restrictiveness ≤ 2 ↔ 40 ≤ score := by
  unfold scoreBand
  split_ifs
  all_goals
    simp only [SecurityAction.restrictiveness]
    omega

/-- A high-value transaction is approved from a score of 90 on. -/
theorem decidedAction_of_highValue {risk : TransactionRisk} {context : TransactionContext}
    (hhigh : isHighValue context = true) :
    decidedAction risk context =
      if calculateOverallRiskScore risk < 90 then .requireAdditionalAuth else .approve := by
  simp only [decidedAction, makeSecurityDecision, hhigh, Bool.true_and, decide_eq_true_eq]
  split_ifs with hoverride
  · rfl
  · rw [scoreBand, if_pos (by omega)]

theorem decidedAction_of_not_highValue {risk : TransactionRisk} {context : TransactionContext}
    (hhigh : isHighValue context = false) :
    decidedAction risk context = (scoreBand (calculateOverallRiskScore risk)).2.1 := by
  simp [decidedAction, makeSecurityDecision, hhigh]

theorem isHighValue_mono {context less : TransactionContext}
    (hamount : less.totalAmount.toRat ≤ context.totalAmount.toRat)
    (hhigh : isHighValue less = true) : isHighValue context = true := by
  simp only [isHighValue, beq_iff_eq, BigDecimal.compareTo_eq_gt_iff] at hhigh ⊢
  exact lt_of_lt_of_le hhigh hamount

/-- Less risk is treated no worse, unless the amount alone spares the riskier
evaluation the review or the block that the scores give. -/
theorem decidedAction_mono_iff {risk less : TransactionRisk}
    {context lessContext : TransactionContext} (hscores : ScoresAtMost risk less)
    (hamount : lessContext.totalAmount.toRat ≤ context.totalAmount.toRat) :
    (decidedAction less lessContext).restrictiveness ≤
        (decidedAction risk context).restrictiveness ↔
      ¬ (isHighValue context = true ∧ isHighValue lessContext = false ∧
        scoreTwentieths less < 790) := by
  have hle : calculateOverallRiskScore risk ≤ calculateOverallRiskScore less := by
    rw [overallScore_eq_twentieths, overallScore_eq_twentieths]
    have htwentieths := hscores.twentieths_le
    omega
  have hlow : 40 ≤ calculateOverallRiskScore less ↔ ¬ scoreTwentieths less < 790 := by
    rw [overallScore_eq_twentieths]
    omega
  cases hhigh : isHighValue context with
  | false =>
      have hlessHigh : isHighValue lessContext = false := by
        apply Bool.eq_false_iff.mpr
        intro htrue
        rw [isHighValue_mono hamount htrue] at hhigh
        cases hhigh
      rw [decidedAction_of_not_highValue hhigh, decidedAction_of_not_highValue hlessHigh]
      simpa using restrictiveness_scoreBand_le hle
  | true =>
      rw [decidedAction_of_highValue hhigh]
      cases hlessHigh : isHighValue lessContext with
      | false =>
          rw [decidedAction_of_not_highValue hlessHigh]
          simp only [true_and]
          rw [← hlow, ← restrictiveness_scoreBand_le_two_iff]
          split_ifs with hoverride
          · rfl
          · have happroved : 80 ≤ calculateOverallRiskScore less := by omega
            rw [scoreBand, if_pos happroved]
            simp [SecurityAction.restrictiveness]
      | true =>
          rw [decidedAction_of_highValue hlessHigh]
          simp only [Bool.true_eq_false, false_and, and_false, not_false_eq_true, iff_true]
          split_ifs with hlessOverride hoverride
          · rfl
          · omega
          · decide
          · rfl

def everyScore (score : Int32) : TransactionRisk :=
  ⟨score, score, score, score, score, score, []⟩

def contextOf (amount : ℤ) : TransactionContext where
  orderId := none
  userId := some (js "alice")
  sessionId := some (js "session")
  totalAmount := ⟨amount, 0⟩
  currency := some (js "VND")
  timestamp := 0
  deviceFingerprint := some (js "device")
  ipAddress := some (js "127.0.0.1")
  orderItems := []
  shippingDetails := none

/-- With all scores at 10 and 20, two million is authenticated and one million
is sent to a review. -/
theorem decidedAction_not_mono :
    ¬ ∀ (risk less : TransactionRisk) (context lessContext : TransactionContext),
      ScoresAtMost (everyScore 0) risk → ScoresAtMost risk less →
      ScoresAtMost less (everyScore 100) →
      lessContext.totalAmount.toRat ≤ context.totalAmount.toRat →
        (decidedAction less lessContext).restrictiveness ≤
          (decidedAction risk context).restrictiveness := by
  intro hmono
  have hlowest : ScoresAtMost (everyScore 0) (everyScore 10) := by
    constructor
    all_goals decide
  have hscores : ScoresAtMost (everyScore 10) (everyScore 20) := by
    constructor
    all_goals decide
  have hhighest : ScoresAtMost (everyScore 20) (everyScore 100) := by
    constructor
    all_goals decide
  have hamount : (contextOf 1000000).totalAmount.toRat ≤ (contextOf 2000000).totalAmount.toRat := by
    norm_num [contextOf, BigDecimal.toRat]
  have hworse := hmono _ _ _ _ hlowest hscores hhighest hamount
  have hless : (decidedAction (everyScore 20) (contextOf 1000000)).restrictiveness = 3 := by
    decide +kernel
  have hmore : (decidedAction (everyScore 10) (contextOf 2000000)).restrictiveness = 2 := by
    decide +kernel
  omega

theorem decidedAction_mono_iff_everyScore :
    (decidedAction (everyScore 90) (contextOf 1000000)).restrictiveness ≤
        (decidedAction (everyScore 50) (contextOf 2000000)).restrictiveness ↔
      ¬ (isHighValue (contextOf 2000000) = true ∧ isHighValue (contextOf 1000000) = false ∧
        scoreTwentieths (everyScore 90) < 790) := by
  apply decidedAction_mono_iff
  · constructor
    all_goals decide
  · norm_num [contextOf, BigDecimal.toRat]

end TransactionSecurityService

end ShoppingWeb.Shared
