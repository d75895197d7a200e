import ShoppingWeb.Shared.TransactionSecurityService

/-!
# The payment gate

`PaymentSecurityGateway`: the gate between an order and its payment.  It
remembers approvals for 15 minutes under a text key and parks transactions
that need another authentication.  A call reads the clock several times, so
its readings come as an ordered group.
-/

namespace ShoppingWeb.PaymentSecurityGateway

open ShoppingWeb.Utf16
open ShoppingWeb.DecimalText
open ShoppingWeb.Shared

/-- An `Instant`, in nanoseconds. -/
abbrev Instant := ℤ

def plusSeconds (instant : Instant) (seconds : ℤ) : Instant :=
  instant + seconds * 1000000000

def toMillis (instant : Instant) : ℤ :=
  instant / 1000000

/-- The clock readings of one call, in the order it makes them. -/
structure CallClock where
  checkedAt : Instant
  tokenAt : Instant
  stampedAt : Instant
  expiryFrom : Instant
  checked_le_token : checkedAt ≤ tokenAt
  token_le_stamped : tokenAt ≤ stampedAt
  stamped_le_expiry : stampedAt ≤ expiryFrom

/-- All readings give the same time. -/
def CallClock.still (instant : Instant) : CallClock :=
  ⟨instant, instant, instant, instant, le_rfl, le_rfl, le_rfl⟩

inductive PaymentGateStatus where
  | approved
  | approvedWithMonitoring
  | requiresAdditionalAuth
  | pendingReview
  | blocked
  | authFailed
  | error
  deriving DecidableEq, Repr

structure PaymentGateResult where
  status : PaymentGateStatus
  approved : Bool
  reason : JString
  riskDecision : Option RiskDecision := none
  authenticationToken : Option JString := none
  requiredAuthMethod : Option JString := none
  authTimeoutSeconds : Int32 := 0
  remainingAttempts : Option Int32 := none
  paymentProcessorRecommendation : Option JString := none
  monitoringRequired : Bool := false
  requiresManualReview : Bool := false
  estimatedReviewTimeMinutes : Int32 := 0
  blockingReason : Option JString := none
  deriving DecidableEq, Repr

structure ApprovedTransaction where
  decision : RiskDecision
  approvedAt : Instant
  expiresAt : Instant
  deriving DecidableEq, Repr

structure PendingAuthentication where
  token : JString
  userId : Option JString
  orderId : Option ℤ
  authMethod : JString
  createdAt : Instant
  expiresAt : Instant
  failedAttempts : Int32
  transactionContext : TransactionContext
  riskDecision : RiskDecision
  deriving DecidableEq, Repr

/-- The two maps of the gateway. -/
structure GatewayState where
  approvedTransactions : JString → Option ApprovedTransaction
  pendingAuthentications : JString → Option PendingAuthentication

namespace GatewayState

def empty : GatewayState := ⟨fun _ => none, fun _ => none⟩

def putApproval (state : GatewayState) (key : JString) (approval : ApprovedTransaction) :
    GatewayState :=
  { state with
    approvedTransactions := Function.update state.approvedTransactions key (some approval) }

def putPending (state : GatewayState) (token : JString) (pending : PendingAuthentication) :
    GatewayState :=
  { state with
    pendingAuthentications := Function.update state.pendingAuthentications token (some pending) }

def removePending (state : GatewayState) (token : JString) : GatewayState :=
  { state with
    pendingAuthentications := Function.update state.pendingAuthentications token none }

@[simp]
theorem approvedTransactions_putPending (state : GatewayState) (token : JString)
    (pending : PendingAuthentication) :
    (state.putPending token pending).approvedTransactions = state.approvedTransactions := rfl

@[simp]
theorem approvedTransactions_removePending (state : GatewayState) (token : JString) :
    (state.removePending token).approvedTransactions = state.approvedTransactions := rfl

end GatewayState

def orderIdText (orderId : Option ℤ) : JString :=
  orNull (orderId.map intText)

def generateTransactionKey (context : TransactionContext) : JString :=
  orderIdText context.orderId ++ js "_" ++ orNull context.userId ++ js "_" ++
    context.totalAmount.toText

def generateAuthenticationToken (now : Instant) (context : TransactionContext) : JString :=
  js "auth_" ++ intText (toMillis now) ++ js "_" ++ orderIdText context.orderId ++ js "_" ++
    orNull context.userId

def isApprovalStillValid (now : Instant) (approval : ApprovedTransaction) : Bool :=
  decide (now < approval.expiresAt)

def cacheApprovedTransaction (clock : CallClock) (key : JString) (decision : RiskDecision)
    (state : GatewayState) : GatewayState :=
  state.putApproval key
    { decision
      approvedAt := clock.stampedAt
      expiresAt := plusSeconds clock.expiryFrom 900 }

/-- The approval a validation finds in the cache and still accepts. -/
def validApproval (state : GatewayState) (now : Instant) (context : TransactionContext) :
    Option ApprovedTransaction :=
  (state.approvedTransactions (generateTransactionKey context)).filter
    (isApprovalStillValid now)

def PaymentGateResult.ofApproval (decision : RiskDecision) : PaymentGateResult :=
  { status := .approved
    approved := true
    reason := js "Transaction approved"
    riskDecision := some decision
    paymentProcessorRecommendation := some (js "PROCEED_NORMAL") }

/-! ## Additional authentication -/

def containsKey (entries : List (JString × JString)) (key : JString) : Bool :=
  entries.any fun entry => entry.1 == key

def determineRequiredAuthMethod (decision : RiskDecision) (context : TransactionContext) :
    JString :=
  if context.totalAmount.compareTo ⟨1000000, 0⟩ = .gt then js "3DS"
  else if containsKey decision.riskFactors (js "user_identity") then js "SMS_OTP"
  else if containsKey decision.riskFactors (js "price_accuracy") ||
      containsKey decision.riskFactors (js "product_integrity") then js "EMAIL_CONFIRMATION"
  else js "SMS_OTP"

def handleAdditionalAuthRequired (clock : CallClock) (decision : RiskDecision)
    (context : TransactionContext) (state : GatewayState) : PaymentGateResult × GatewayState :=
  let authToken := generateAuthenticationToken clock.tokenAt context
  let authMethod := determineRequiredAuthMethod decision context
  let pending : PendingAuthentication :=
    { token := authToken
      userId := context.userId
      orderId := context.orderId
      authMethod
      createdAt := clock.stampedAt
      expiresAt := plusSeconds clock.expiryFrom 300
      failedAttempts := 0
      transactionContext := context
      riskDecision := decision }
  ({ status := .requiresAdditionalAuth
     approved := false
     reason := js "Additional authentication required"
     riskDecision := some decision
     authenticationToken := some authToken
     requiredAuthMethod := some authMethod
     authTimeoutSeconds := 300 },
   state.putPending authToken pending)

def processSecurityDecision (clock : CallClock) (decision : RiskDecision)
    (context : TransactionContext) (state : GatewayState) : PaymentGateResult × GatewayState :=
  match decision.action with
  | .approve =>
      ({ status := .approved
         approved := true
         reason := js "Transaction meets all security criteria"
         riskDecision := some decision
         paymentProcessorRecommendation := some (js "PROCEED_NORMAL") }, state)
  | .approveWithMonitoring =>
      ({ status := .approvedWithMonitoring
         approved := true
         reason := js "Transaction approved with enhanced monitoring"
         riskDecision := some decision
         paymentProcessorRecommendation := some (js "PROCEED_WITH_MONITORING")
         monitoringRequired := true }, state)
  | .requireAdditionalAuth => handleAdditionalAuthRequired clock decision context state
  | .flagForReview =>
      ({ status := .pendingReview
         approved := false
         reason := js "Transaction requires manual review"
         riskDecision := some decision
         requiresManualReview := true
         estimatedReviewTimeMinutes := 60 }, state)
  | .block =>
      ({ status := .blocked
         approved := false
         reason := js "Transaction blocked due to security concerns"
         riskDecision := some decision
         blockingReason := decision.blockingReason }, state)
  | action =>
      ({ status := .error
         approved := false
         reason := js "Unknown security action: " ++ action.name
         riskDecision := some decision }, state)

def validatePaymentTransition (sha256 : Bytes → Bytes) (lookups : CatalogLookups)
    (clock : CallClock) (orderContext : TransactionContext) (state : GatewayState) :
    PaymentGateResult × GatewayState :=
  match validApproval state clock.checkedAt orderContext with
  | some existingApproval => (.ofApproval existingApproval.decision, state)
  | none =>
      let decision :=
        TransactionSecurityService.validateTransaction sha256 lookups orderContext
      let processed := processSecurityDecision clock decision orderContext state
      if processed.1.approved then
        (processed.1, cacheApprovedTransaction clock (generateTransactionKey orderContext)
          decision processed.2)
      else processed

def verifySmsOtp (code : Option JString) : Bool :=
  code == some (js "123456")

def verifyEmailConfirmation : Option JString → Bool
  | none => false
  | some code => code.length == 6

def verify3DSecure : Option JString → Bool
  | none => false
  | some code => !code.isEmpty

def verifyAuthenticationCode (authMethod : JString) (code : Option JString) : Bool :=
  if authMethod = js "SMS_OTP" then verifySmsOtp code
  else if authMethod = js "EMAIL_CONFIRMATION" then verifyEmailConfirmation code
  else if authMethod = js "3DS" then verify3DSecure code
  else false

def verifyAdditionalAuthentication (clock : CallClock) (authToken : JString)
    (authCode : Option JString) (state : GatewayState) : PaymentGateResult × GatewayState :=
  match state.pendingAuthentications authToken with
  | none =>
      ({ status := .error
         approved := false
         reason := js "Invalid or expired authentication token" }, state)
  | some pending =>
      if pending.expiresAt < clock.checkedAt then
        ({ status := .error
           approved := false
           reason := js "Authentication token expired" }, state.removePending authToken)
      else if !verifyAuthenticationCode pending.authMethod authCode then
        let failedAttempts := pending.failedAttempts + 1
        if failedAttempts ≥ 3 then
          ({ status := .blocked
             approved := false
             reason := js "Too many failed authentication attempts" },
           state.removePending authToken)
        else
          ({ status := .authFailed
             approved := false
             reason := js "Invalid authentication code"
             remainingAttempts := some (3 - failedAttempts) },
           state.putPending authToken { pending with failedAttempts })
      else
        ({ status := .approved
           approved := true
           reason := js "Transaction approved after additional authentication"
           riskDecision := some pending.riskDecision
           paymentProcessorRecommendation := some (js "PROCEED_NORMAL") },
         cacheApprovedTransaction clock (generateTransactionKey pending.transactionContext)
           pending.riskDecision (state.removePending authToken))

structure PaymentSecurityRequirements where
  requiresValidation : Bool
  approved : Bool := false
  reason : Option JString := none
  riskLevel : Option RiskLevel := none
  requiresMonitoring : Bool := false
  requires3DSecure : Bool := false
  fraudScore : ℤ := 0
  paymentProcessorRecommendation : Option JString := none
  deriving DecidableEq, Repr

def determinePaymentProcessorAction (decision : RiskDecision) : JString :=
  if decision.isHighRisk then js "ENHANCED_VERIFICATION"
  else if decision.requiresRealTimeMonitoring then js "PROCEED_WITH_MONITORING"
  else js "PROCEED_NORMAL"

/-- Both arguments are a `Long`, here also the user id. -/
def requirementsKey (orderId userId : Option ℤ) : JString :=
  orderIdText orderId ++ js "_" ++ orNull (userId.map intText)

def getPaymentRequirements (orderId userId : Option ℤ) (state : GatewayState) :
    PaymentSecurityRequirements :=
  match state.approvedTransactions (requirementsKey orderId userId) with
  | none =>
      { requiresValidation := true
        reason := some (js "No prior approval found - full validation required") }
  | some approval =>
      let decision := approval.decision
      { requiresValidation := false
        approved := true
        riskLevel := some decision.riskLevel
        requiresMonitoring := decision.requiresRealTimeMonitoring
        requires3DSecure :=
          decision.additionalAuthRequired.any fun method => decide (js "3DS" <:+: method)
        fraudScore := decision.overallScore
        paymentProcessorRecommendation := some (determinePaymentProcessorAction decision) }

/-! ## What a call can do -/

section Calls

variable (sha256 : Bytes → Bytes) (lookups : CatalogLookups) (clock : CallClock)
  (context : TransactionContext) (state : GatewayState)

theorem validApproval_eq_some_iff {now : Instant} {approval : ApprovedTransaction} :
    validApproval state now context = some approval ↔
      state.approvedTransactions (generateTransactionKey context) = some approval ∧
        now < approval.expiresAt := by
  rw [validApproval, Option.filter_eq_some_iff, isApprovalStillValid, decide_eq_true_iff]

/-- Processing a decision approves what the decision approves, and leaves the
approvals alone. -/
theorem processSecurityDecision_spec (decision : RiskDecision) :
    (processSecurityDecision clock decision context state).1.approved = decision.isApproved ∧
      (processSecurityDecision clock decision context state).2.approvedTransactions =
        state.approvedTransactions := by
  rw [processSecurityDecision]
  cases haction : decision.action <;>
    simp [RiskDecision.isApproved, haction, handleAdditionalAuthRequired]

/-- A validation answers from the cache and changes nothing, or it decides
afresh and records an approval when the decision approves. -/
theorem validatePaymentTransition_cases :
    (∃ approval, validApproval state clock.checkedAt context = some approval ∧
      validatePaymentTransition sha256 lookups clock context state =
        (.ofApproval approval.decision, state)) ∨
    (validApproval state clock.checkedAt context = none ∧
      let decision := TransactionSecurityService.validateTransaction sha256 lookups context
      let answer := validatePaymentTransition sha256 lookups clock context state
      answer.1.approved = decision.isApproved ∧
        answer.2.approvedTransactions =
          if decision.isApproved then
            Function.update state.approvedTransactions (generateTransactionKey context)
              (some ⟨decision, clock.stampedAt, plusSeconds clock.expiryFrom 900⟩)
          else state.approvedTransactions) := by
  rw [validatePaymentTransition]
  cases hvalid : validApproval state clock.checkedAt context with
  | some approval => exact Or.inl ⟨approval, rfl, rfl⟩
  | none =>
      refine Or.inr ⟨rfl, ?_⟩
      obtain ⟨happroved, hkept⟩ := processSecurityDecision_spec clock context state
        (TransactionSecurityService.validateTransaction sha256 lookups context)
      simp only [happroved]
      split_ifs with hdecision
      · simp only [happroved, hdecision, cacheApprovedTransaction, GatewayState.putApproval,
          hkept, and_self]
      · exact ⟨by simp [happroved], hkept⟩

/-- A verification approves exactly when it records an approval, for the
context of the pending authentication. -/
theorem verifyAdditionalAuthentication_cases (authToken : JString) (authCode : Option JString) :
    let answer := verifyAdditionalAuthentication clock authToken authCode state
    (answer.1.approved = false ∧
      answer.2.approvedTransactions = state.approvedTransactions) ∨
    ∃ pending, state.pendingAuthentications authToken = some pending ∧
      answer.1.approved = true ∧ answer.2.approvedTransactions =
        Function.update state.approvedTransactions
          (generateTransactionKey pending.transactionContext)
          (some ⟨pending.riskDecision, clock.stampedAt, plusSeconds clock.expiryFrom 900⟩) := by
  rw [verifyAdditionalAuthentication]
  cases hpending : state.pendingAuthentications authToken with
  | none => exact Or.inl ⟨rfl, rfl⟩
  | some pending =>
      simp only
      split_ifs
      · exact Or.inl ⟨rfl, rfl⟩
      · exact Or.inl ⟨rfl, rfl⟩
      · exact Or.inl ⟨rfl, rfl⟩
      · exact Or.inr ⟨pending, rfl, rfl, rfl⟩

end Calls

end ShoppingWeb.PaymentSecurityGateway
