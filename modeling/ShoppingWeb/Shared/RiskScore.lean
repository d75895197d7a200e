import Mathlib.Tactic.Linarith
import ShoppingWeb.Shared.TransactionSecurityService

/-!
# What the risk score deducts

Each component check deducts points from 100.  The overall score is a rounded
weighted sum, so it depends on the six checks only through one total
deduction, counted in twentieths of a point.
-/

namespace ShoppingWeb.Shared.TransactionSecurityService

open ShoppingWeb.Utf16

variable (sha256 : Bytes → Bytes) (lookups : CatalogLookups) (context : TransactionContext)

theorem foldl_penalizeWhere_score (suspect : ItemEntry → Bool) (issue : ItemEntry → JString)
    (entries : List ItemEntry) (findings : ItemFindings) :
    (entries.foldl (penalizeWhere suspect issue) findings).score =
      findings.score - 40 * Int32.ofNat (entries.countP suspect) := by
  induction entries generalizing findings with
  | nil => simp
  | cons entry entries ih =>
      rw [List.foldl_cons, ih, List.countP_cons]
      cases hsuspect : suspect entry with
      | false => simp [penalizeWhere, hsuspect]
      | true =>
          simp only [penalizeWhere, hsuspect, if_true, Int32.ofNat_add]
          grind

theorem foldl_penalizeWhere_riskLevel (suspect : ItemEntry → Bool)
    (issue : ItemEntry → JString) (entries : List ItemEntry) (findings : ItemFindings)
    (hfindings : findings.riskLevel ≠ .critical) :
    (entries.foldl (penalizeWhere suspect issue) findings).riskLevel ≠ .critical := by
  induction entries generalizing findings with
  | nil => exact hfindings
  | cons entry entries ih =>
      rw [List.foldl_cons]
      apply ih _
      rw [penalizeWhere]
      split
      · exact RiskLevel.noConfusion
      · exact hfindings

/-- One suspect item is enough for `RiskLevel.HIGH`. -/
theorem foldl_penalizeWhere_riskLevel_eq (suspect : ItemEntry → Bool)
    (issue : ItemEntry → JString) (entries : List ItemEntry) (findings : ItemFindings) :
    (entries.foldl (penalizeWhere suspect issue) findings).riskLevel =
      if entries.countP suspect = 0 then findings.riskLevel else .high := by
  induction entries generalizing findings with
  | nil => simp
  | cons entry entries ih =>
      rw [List.foldl_cons, ih, List.countP_cons]
      cases hsuspect : suspect entry with
      | false => simp [penalizeWhere, hsuspect]
      | true => simp [penalizeWhere, hsuspect]

/-- The issues are those of the suspect items, in the order of the items. -/
theorem foldl_penalizeWhere_issues (suspect : ItemEntry → Bool) (issue : ItemEntry → JString)
    (entries : List ItemEntry) (findings : ItemFindings) :
    (entries.foldl (penalizeWhere suspect issue) findings).issues =
      findings.issues ++ (entries.filter suspect).map issue := by
  induction entries generalizing findings with
  | nil => simp
  | cons entry entries ih =>
      rw [List.foldl_cons, ih]
      cases hsuspect : suspect entry with
      | false => simp [penalizeWhere, hsuspect]
      | true => simp [penalizeWhere, hsuspect]

/-- The items whose hash the catalog no longer confirms. -/
def tamperedCount : ℕ :=
  context.orderItems.zipIdx.countP fun entry =>
    isTampered sha256 (lookups.integrity entry.2) entry.1

/-- The items whose price is not the catalog's. -/
def mispricedCount : ℕ :=
  context.orderItems.zipIdx.countP fun entry => isMispriced (lookups.price entry.2) entry.1

/-- What the items cost at the catalog's prices. -/
def catalogTotal : ℚ :=
  (context.orderItems.zipIdx.map fun entry =>
    (getCurrentPrice (lookups.price entry.2)).toRat * (entry.1.quantity.toInt : ℚ)).sum

/-- The total is off by more than one VND. -/
def TotalMismatch : Prop :=
  1 < |catalogTotal lookups context - context.totalAmount.toRat|

instance : Decidable (TotalMismatch lookups context) :=
  inferInstanceAs (Decidable (_ < _))

theorem toRat_foldl_addItemTotal (answers : ℕ → CatalogAnswer) (entries : List ItemEntry)
    (total : BigDecimal) :
    (entries.foldl (addItemTotal answers) total).toRat =
      total.toRat + (entries.map fun entry =>
        (getCurrentPrice (answers entry.2)).toRat * (entry.1.quantity.toInt : ℚ)).sum := by
  induction entries generalizing total with
  | nil => simp
  | cons entry entries ih =>
      rw [List.foldl_cons, ih, addItemTotal, List.map_cons, List.sum_cons]
      simp [add_assoc]

theorem manipulated_iff (total : BigDecimal)
    (htotal : total.toRat = catalogTotal lookups context) :
    ((total.subtract context.totalAmount).abs.compareTo ⟨100, 2⟩ == .gt) = true ↔
      TotalMismatch lookups context := by
  have htolerance : (⟨100, 2⟩ : BigDecimal).toRat = 1 := by
    norm_num [BigDecimal.toRat, zpow_neg]
  rw [beq_iff_eq, BigDecimal.compareTo_eq_gt_iff, htolerance, BigDecimal.toRat_abs,
    BigDecimal.toRat_subtract, htotal, TotalMismatch]

@[simp]
theorem failedAttempts_le_max (userId : Option JString) :
    decide (getRecentFailedAttempts userId > MAX_FAILED_ATTEMPTS) = false := rfl

@[simp]
theorem recentOrderCount_le_suspicious (userId : Option JString) (hours : Int32) :
    decide (getRecentOrderCount userId hours > SUSPICIOUS_ORDER_COUNT) = false := rfl

@[simp]
theorem isDuplicateTransaction_eq : isDuplicateTransaction context = false := rfl

theorem toInt_max_zero (score : Int32) : (max 0 score).toInt = max 0 score.toInt := by
  have hmax : max 0 score = if 0 ≤ score then score else 0 := rfl
  have hle : 0 ≤ score ↔ 0 ≤ score.toInt := Int32.le_iff_toInt_le
  rw [hmax]
  split_ifs with hscore
  · rw [max_eq_right (hle.mp hscore)]
  · rw [max_eq_left (not_le.mp (mt hle.mpr hscore)).le, Int32.toInt_zero]

/-- The score a loop over items ends with when `count` of them are suspect. -/
def itemScore (count : ℕ) : ℤ :=
  (100 - 40 * Int32.ofNat count : Int32).toInt

/-- The loop counts down in 32 bits. -/
theorem itemScore_eq_bmod (count : ℕ) :
    itemScore count = (100 - ((40 * count : ℕ) : ℤ)).bmod (2 ^ 32) := by
  have hhundred : (100 : Int32).toInt = 100 := by decide
  have hforty : (40 : Int32).toInt = 40 := by decide
  rw [itemScore, Int32.toInt_sub, Int32.toInt_mul, Int32.toInt_ofNat', hhundred, hforty]
  simp

/-- It stays at 100 or below until the points lost wrap around. -/
theorem itemScore_le_iff (count : ℕ) :
    itemScore count ≤ 100 ↔ 40 * count % 2 ^ 32 ≤ 2 ^ 31 + 100 := by
  rw [itemScore_eq_bmod, Int.bmod_def]
  generalize 40 * count = lost
  split_ifs
  · omega
  · omega

theorem itemScore_nonneg_and_le_iff (count : ℕ) :
    (0 ≤ itemScore count ∧ itemScore count ≤ 100) ↔ 40 * count % 2 ^ 32 ≤ 100 := by
  rw [itemScore_eq_bmod, Int.bmod_def]
  generalize 40 * count = lost
  split_ifs
  · omega
  · omega

def userDeduction : ℤ :=
  (if isDeviceRecognized context.deviceFingerprint context.userId then 0 else 20) +
    if isSuspiciousLocation context.ipAddress context.userId then 25 else 0

def sessionDeduction : ℤ :=
  if !isSessionOwnedByUser context.sessionId context.userId then 100
  else if detectSessionHijacking context then 40 else 0

def productDeduction : ℤ :=
  100 - max 0 (itemScore (tamperedCount sha256 lookups context))

def priceDeduction : ℤ :=
  if TotalMismatch lookups context then 100
  else 100 - itemScore (mispricedCount lookups context)

def fraudDeduction : ℤ :=
  if isHighValue context then 15 else 0

theorem verifyUserIdentity_score :
    (verifyUserIdentity context).score.toInt = 100 - userDeduction context := by
  simp only [verifyUserIdentity, userDeduction, failedAttempts_le_max, Bool.false_eq_true, if_false]
  cases isDeviceRecognized context.deviceFingerprint context.userId <;>
    cases isSuspiciousLocation context.ipAddress context.userId <;> decide

theorem validateSessionBinding_score :
    (validateSessionBinding context).score.toInt = 100 - sessionDeduction context := by
  simp only [validateSessionBinding, sessionDeduction]
  cases isSessionOwnedByUser context.sessionId context.userId <;>
    cases detectSessionHijacking context <;> decide

theorem validateProductIntegrity_score :
    (validateProductIntegrity sha256 lookups.integrity context).score.toInt =
      100 - productDeduction sha256 lookups context := by
  simp only [validateProductIntegrity, checkIntegrity, foldl_penalizeWhere_score,
    toInt_max_zero, productDeduction, sub_sub_cancel]
  rfl

theorem validatePriceAccuracy_score :
    (validatePriceAccuracy lookups.price context).score.toInt =
      100 - priceDeduction lookups context := by
  have htotal := toRat_foldl_addItemTotal lookups.price context.orderItems.zipIdx .zero
  rw [BigDecimal.toRat_zero, zero_add] at htotal
  simp only [validatePriceAccuracy, manipulated_iff lookups context _ htotal, priceDeduction,
    checkPrice, foldl_penalizeWhere_score]
  split_ifs
  · rfl
  · rw [sub_sub_cancel]
    rfl

theorem performFraudAnalysis_score :
    (performFraudAnalysis context).score.toInt = 100 - fraudDeduction context := by
  simp only [performFraudAnalysis, fraudDeduction, recentOrderCount_le_suspicious,
    Bool.false_eq_true, if_false]
  cases isHighValue context <;> decide

/-! ## Overall score -/

/-- The points lost, in twentieths. -/
def totalDeduction : ℤ :=
  5 * userDeduction context + 3 * sessionDeduction context +
    4 * productDeduction sha256 lookups context + 5 * priceDeduction lookups context +
    fraudDeduction context

/-- The overall score is what the deductions leave of 100, rounded half up. -/
theorem overallScore_eq :
    calculateOverallRiskScore (assess sha256 lookups context) =
      (2010 - totalDeduction sha256 lookups context) / 20 := by
  have hstatus : (validateTransactionStatus context).score.toInt = 100 := rfl
  have hweighted : weightedScore (assess sha256 lookups context) + 1 / 2 =
      ((2010 - totalDeduction sha256 lookups context : ℤ) : ℚ) / (20 : ℕ) := by
    simp only [weightedScore, assess, verifyUserIdentity_score, validateSessionBinding_score,
      validateProductIntegrity_score, validatePriceAccuracy_score, hstatus,
      performFraudAnalysis_score, totalDeduction]
    push_cast
    ring
  rw [calculateOverallRiskScore, hweighted, Rat.floor_intCast_div_natCast]
  rfl

/-- The largest deduction that the decision still approves. -/
def approvedDeduction : ℤ :=
  if isHighValue context then 210 else 810

theorem scoreBand_approves_iff (overallScore : ℤ) :
    ((scoreBand overallScore).2.1 = .approve ∨
      (scoreBand overallScore).2.1 = .approveWithMonitoring) ↔ 60 ≤ overallScore := by
  rw [scoreBand]
  split_ifs <;> simp <;> omega

/-- Approval is decided by the total deduction alone. -/
theorem validateTransaction_isApproved_iff :
    (validateTransaction sha256 lookups context).isApproved = true ↔
      totalDeduction sha256 lookups context ≤ approvedDeduction context := by
  have hband := scoreBand_approves_iff ((2010 - totalDeduction sha256 lookups context) / 20)
  simp only [validateTransaction, makeSecurityDecision, RiskDecision.isApproved,
    overallScore_eq, approvedDeduction, Bool.or_eq_true, beq_iff_eq]
  cases hhigh : isHighValue context with
  | false =>
      simp only [Bool.false_and, Bool.false_eq_true, if_false, hband]
      omega
  | true =>
      simp only [Bool.true_and, decide_eq_true_eq, if_true]
      split_ifs with hlow
      · simp only [false_iff, or_self]
        omega
      · rw [hband]
        omega

/-- What is approved is approved without monitoring up to 20.5 points lost. -/
theorem validateTransaction_action_of_isApproved
    (happroved : (validateTransaction sha256 lookups context).isApproved = true) :
    (validateTransaction sha256 lookups context).action =
      if totalDeduction sha256 lookups context ≤ 410 then .approve
      else .approveWithMonitoring := by
  rw [RiskDecision.isApproved, validateTransaction, makeSecurityDecision, overallScore_eq]
    at happroved
  rw [validateTransaction, makeSecurityDecision, overallScore_eq]
  split_ifs at happroved ⊢ with hoverride hplain hplain
  · cases happroved
  · cases happroved
  · rw [scoreBand, if_pos (by omega)]
  · have hband := (scoreBand_approves_iff _).mp (by simpa using happroved)
    rw [scoreBand, if_neg (by omega), if_pos hband]

/-- A transaction nothing is found against is approved, whatever its value. -/
theorem isApproved_of_no_finding
    (hdevice : isDeviceRecognized context.deviceFingerprint context.userId = true)
    (hlocation : isSuspiciousLocation context.ipAddress context.userId = false)
    (hsession : isSessionOwnedByUser context.sessionId context.userId = true)
    (hhijacking : detectSessionHijacking context = false)
    (htampered : tamperedCount sha256 lookups context = 0)
    (hmispriced : mispricedCount lookups context = 0)
    (htotal : ¬ TotalMismatch lookups context) :
    (validateTransaction sha256 lookups context).isApproved = true := by
  rw [validateTransaction_isApproved_iff]
  have hitems : itemScore 0 = 100 := by decide
  have huser : userDeduction context = 0 := by simp [userDeduction, hdevice, hlocation]
  have hbinding : sessionDeduction context = 0 := by
    simp [sessionDeduction, hsession, hhijacking]
  have hproduct : productDeduction sha256 lookups context = 0 := by
    simp [productDeduction, htampered, hitems]
  have hprice : priceDeduction lookups context = 0 := by
    simp [priceDeduction, htotal, hmispriced, hitems]
  rw [totalDeduction, huser, hbinding, hproduct, hprice, fraudDeduction, approvedDeduction]
  split_ifs
  · decide
  · decide

theorem verifyUserIdentity_low_iff :
    (verifyUserIdentity context).riskLevel = .low ↔
      isDeviceRecognized context.deviceFingerprint context.userId = true ∧
        isSuspiciousLocation context.ipAddress context.userId = false := by
  cases hrecognized : isDeviceRecognized context.deviceFingerprint context.userId with
  | false =>
      cases hsuspicious : isSuspiciousLocation context.ipAddress context.userId with
      | false => simp [verifyUserIdentity, hrecognized, hsuspicious]
      | true => simp [verifyUserIdentity, hrecognized, hsuspicious]
  | true =>
      cases hsuspicious : isSuspiciousLocation context.ipAddress context.userId with
      | false => simp [verifyUserIdentity, hrecognized, hsuspicious]
      | true => simp [verifyUserIdentity, hrecognized, hsuspicious]

theorem validateProductIntegrity_low_iff :
    (validateProductIntegrity sha256 lookups.integrity context).riskLevel = .low ↔
      tamperedCount sha256 lookups context = 0 := by
  simp only [validateProductIntegrity, checkIntegrity, foldl_penalizeWhere_riskLevel_eq,
    tamperedCount, ItemFindings.initial]
  split_ifs with hcount
  · simp [hcount]
  · simp [hcount]

/-- What the price check says, from the counts. -/
theorem validatePriceAccuracy_verdict :
    (validatePriceAccuracy lookups.price context).riskLevel =
        (if TotalMismatch lookups context then .critical
        else if mispricedCount lookups context = 0 then .low else .high) ∧
      ((validatePriceAccuracy lookups.price context).priceAccurate = true ↔
        ¬ TotalMismatch lookups context ∧ mispricedCount lookups context = 0) := by
  have htotal := toRat_foldl_addItemTotal lookups.price context.orderItems.zipIdx .zero
  rw [BigDecimal.toRat_zero, zero_add] at htotal
  simp only [validatePriceAccuracy, manipulated_iff lookups context _ htotal, checkPrice,
    foldl_penalizeWhere_riskLevel_eq, foldl_penalizeWhere_issues]
  constructor
  · rfl
  · split_ifs with hmismatch
    · simp [hmismatch]
    · simp [hmismatch, ItemFindings.initial, mispricedCount, List.countP_eq_zero]

/-- One of the six component checks ends with `RiskLevel.CRITICAL`. -/
def HasCriticalFinding : Prop :=
  (verifyUserIdentity context).riskLevel = .critical ∨
  (validateSessionBinding context).riskLevel = .critical ∨
  (validateProductIntegrity sha256 lookups.integrity context).riskLevel = .critical ∨
  (validatePriceAccuracy lookups.price context).riskLevel = .critical ∨
  (validateTransactionStatus context).riskLevel = .critical ∨
  (performFraudAnalysis context).riskLevel = .critical

/-- What a critical finding is about: the session or the total. -/
def CriticalInput : Prop :=
  isSessionOwnedByUser context.sessionId context.userId = false ∨
  detectSessionHijacking context = true ∨ TotalMismatch lookups context

theorem verifyUserIdentity_riskLevel_ne :
    (verifyUserIdentity context).riskLevel ≠ .critical := by
  cases hrecognized : isDeviceRecognized context.deviceFingerprint context.userId <;>
    cases hsuspicious : isSuspiciousLocation context.ipAddress context.userId <;>
    simp [verifyUserIdentity, hrecognized, hsuspicious]

theorem validateSessionBinding_critical_iff :
    (validateSessionBinding context).riskLevel = .critical ↔
      isSessionOwnedByUser context.sessionId context.userId = false ∨
        detectSessionHijacking context = true := by
  rw [validateSessionBinding]
  cases isSessionOwnedByUser context.sessionId context.userId <;>
    cases detectSessionHijacking context <;> simp

theorem validateProductIntegrity_riskLevel_ne :
    (validateProductIntegrity sha256 lookups.integrity context).riskLevel ≠ .critical :=
  foldl_penalizeWhere_riskLevel _ _ _ _ RiskLevel.noConfusion

theorem validatePriceAccuracy_critical_iff :
    (validatePriceAccuracy lookups.price context).riskLevel = .critical ↔
      TotalMismatch lookups context := by
  have htotal := toRat_foldl_addItemTotal lookups.price context.orderItems.zipIdx .zero
  rw [BigDecimal.toRat_zero, zero_add] at htotal
  simp only [validatePriceAccuracy, manipulated_iff lookups context _ htotal]
  split_ifs with hmismatch
  · simp [hmismatch]
  · simp only [hmismatch, iff_false]
    exact foldl_penalizeWhere_riskLevel _ _ _ _ RiskLevel.noConfusion

theorem performFraudAnalysis_riskLevel_ne :
    (performFraudAnalysis context).riskLevel ≠ .critical := by
  simp [performFraudAnalysis]

theorem hasCriticalFinding_iff :
    HasCriticalFinding sha256 lookups context ↔ CriticalInput lookups context := by
  have hstatus : (validateTransactionStatus context).riskLevel ≠ .critical := by
    simp [validateTransactionStatus]
  simp only [HasCriticalFinding, verifyUserIdentity_riskLevel_ne,
    validateSessionBinding_critical_iff, validateProductIntegrity_riskLevel_ne,
    validatePriceAccuracy_critical_iff, hstatus, performFraudAnalysis_riskLevel_ne,
    false_or, or_false, or_assoc, CriticalInput]

end ShoppingWeb.Shared.TransactionSecurityService
