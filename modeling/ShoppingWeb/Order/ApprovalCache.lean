import ShoppingWeb.Lib.TransitionSystem
import ShoppingWeb.Order.PaymentSecurityGateway

/-!
# Soundness of the approval cache

Approvals are found again by a text key.  The key determines the order id, the
printed user id and the total, and nothing else of a purchase.  A run of the
gateway is observed together with the list of approvals recorded so far.
-/

namespace ShoppingWeb.PaymentSecurityGateway

open ShoppingWeb.Utf16
open ShoppingWeb.DecimalText
open ShoppingWeb.Delimited
open ShoppingWeb.Shared
open ShoppingWeb.TransitionSystem

theorem underscore_not_mem_orderIdText (orderId : Option ℤ) :
    (95 : CodeUnit) ∉ orderIdText orderId := by
  cases orderId with
  | none => decide
  | some id => exact not_mem_intText (by decide) (by decide) id

theorem orderIdText_injective : Function.Injective orderIdText := by
  have hnull (id : ℤ) : intText id ≠ js "null" := by
    intro heq
    have hmem : (110 : CodeUnit) ∈ intText id := by
      rw [heq]
      decide
    exact not_mem_intText (by decide) (by decide) id hmem
  intro left right heq
  cases left with
  | none =>
      cases right with
      | none => rfl
      | some id => exact absurd heq.symm (hnull id)
  | some id =>
      cases right with
      | none => exact absurd heq (hnull id)
      | some other => exact congrArg some (intText_injective heq)

/-- The fields a key is built from. -/
def SharesKeyFields (left right : TransactionContext) : Prop :=
  left.orderId = right.orderId ∧ orNull left.userId = orNull right.userId ∧
    left.totalAmount = right.totalAmount

/-- The key determines the fields it is built from. -/
theorem sharesKeyFields_of_key_eq {left right : TransactionContext}
    (heq : generateTransactionKey left = generateTransactionKey right) :
    SharesKeyFields left right := by
  have hunderscore : js "_" = [95] := by decide
  simp only [generateTransactionKey, hunderscore, List.append_assoc,
    List.singleton_append] at heq
  obtain ⟨horder, hrest⟩ := join_injective_of_left (underscore_not_mem_orderIdText _)
    (underscore_not_mem_orderIdText _) heq
  obtain ⟨huser, htotal⟩ := join_injective_of_right
    (left.totalAmount.underscore_not_mem_toText) (right.totalAmount.underscore_not_mem_toText)
    hrest
  exact ⟨orderIdText_injective horder, huser, BigDecimal.toText_injective htotal⟩

/-- Contexts of named users have the same key exactly when their order ids, user
ids and amounts, with their scales, are the same. -/
theorem generateTransactionKey_eq_iff {left right : TransactionContext}
    (hleft : left.userId.isSome) (hright : right.userId.isSome) :
    generateTransactionKey left = generateTransactionKey right ↔
      left.orderId = right.orderId ∧ left.userId = right.userId ∧
        left.totalAmount.unscaledValue = right.totalAmount.unscaledValue ∧
        left.totalAmount.scale = right.totalAmount.scale := by
  obtain ⟨leftUser, hleft⟩ := Option.isSome_iff_exists.mp hleft
  obtain ⟨rightUser, hright⟩ := Option.isSome_iff_exists.mp hright
  constructor
  · intro hkey
    obtain ⟨horder, huser, htotal⟩ := sharesKeyFields_of_key_eq hkey
    rw [hleft, hright] at huser
    have husers : leftUser = rightUser := huser
    exact ⟨horder, by rw [hleft, hright, husers], congrArg BigDecimal.unscaledValue htotal,
      congrArg BigDecimal.scale htotal⟩
  · rintro ⟨horder, huser, hunscaled, hscale⟩
    have htotal : left.totalAmount = right.totalAmount :=
      congrArg₂ BigDecimal.mk hunscaled hscale
    rw [generateTransactionKey, generateTransactionKey, horder, huser, htotal]

structure RecordedApproval where
  context : TransactionContext
  recordedAt : Instant

/-- The gateway, the approvals it recorded so far, and the latest clock reading. -/
structure GateHistory where
  gateway : GatewayState
  approvals : List RecordedApproval
  now : Instant

def GateHistory.initial (start : Instant) : GateHistory := ⟨.empty, [], start⟩

inductive GateEvent where
  | validate (lookups : CatalogLookups) (clock : CallClock) (context : TransactionContext)
  | verify (clock : CallClock) (authToken : JString) (authCode : Option JString)

def GateEvent.clock : GateEvent → CallClock
  | .validate _ clock _ => clock
  | .verify clock _ _ => clock

variable (sha256 : Bytes → Bytes)

def gateAnswerTo (history : GateHistory) : GateEvent → PaymentGateResult × GatewayState
  | .validate lookups clock context =>
      validatePaymentTransition sha256 lookups clock context history.gateway
  | .verify clock authToken authCode =>
      verifyAdditionalAuthentication clock authToken authCode history.gateway

/-- The context whose approval the call records, if it records one. -/
def recordedContext (history : GateHistory) (event : GateEvent) : Option TransactionContext :=
  if (gateAnswerTo sha256 history event).1.approved then
    match event with
    | .validate _ clock context =>
        if (validApproval history.gateway clock.checkedAt context).isSome then none
        else some context
    | .verify _ authToken _ =>
        (history.gateway.pendingAuthentications authToken).map
          PendingAuthentication.transactionContext
  else none

/-- One call.  The clock never goes back. -/
def gateStep (history : GateHistory) (event : GateEvent) : Option GateHistory :=
  if history.now ≤ event.clock.checkedAt then
    some
      { gateway := (gateAnswerTo sha256 history event).2
        approvals := history.approvals ++
          ((recordedContext sha256 history event).map
            fun context => ⟨context, event.clock.expiryFrom⟩).toList
        now := event.clock.expiryFrom }
  else none

/-- What is bought, item by item. -/
def purchaseLines (context : TransactionContext) : List (ℤ × Option BigDecimal × Int32) :=
  context.orderItems.map fun item => (item.productId, item.price, item.quantity)

/-- The same user buys the same items in the same session from the same device
and address. -/
def SamePurchase (left right : TransactionContext) : Prop :=
  left.userId = right.userId ∧ left.sessionId = right.sessionId ∧
    left.deviceFingerprint = right.deviceFingerprint ∧ left.ipAddress = right.ipAddress ∧
    purchaseLines left = purchaseLines right

instance (left right : TransactionContext) : Decidable (SamePurchase left right) :=
  inferInstanceAs (Decidable (_ ∧ _))

instance (left right : TransactionContext) : Decidable (SharesKeyFields left right) :=
  inferInstanceAs (Decidable (_ ∧ _))

/-- An approving answer rests on a fresh validation or on an approval of the
same purchase recorded at most 900 seconds ago. -/
def SoundAnswer (history : GateHistory) : GateEvent → Prop
  | .validate lookups clock context =>
      (gateAnswerTo sha256 history (.validate lookups clock context)).1.approved = true →
        (TransactionSecurityService.validateTransaction sha256 lookups context).isApproved =
            true ∨
          ∃ entry ∈ history.approvals, entry.recordedAt ≤ clock.checkedAt ∧
            clock.checkedAt ≤ plusSeconds entry.recordedAt 900 ∧
            SamePurchase entry.context context
  | .verify _ _ _ => True

/-- Unexpired approvals with the same order id, printed user id and total as
the context are approvals of the same purchase. -/
def KeyMeansPurchase (history : GateHistory) : GateEvent → Prop
  | .validate _ clock context =>
      ∀ entry ∈ history.approvals, clock.checkedAt < plusSeconds entry.recordedAt 900 →
        SharesKeyFields entry.context context → SamePurchase entry.context context
  | .verify _ _ _ => True

instance (history : GateHistory) (event : GateEvent) :
    Decidable (KeyMeansPurchase history event) :=
  match event with
  | .validate _ _ _ => inferInstanceAs (Decidable (∀ entry ∈ _, _))
  | .verify _ _ _ => inferInstanceAs (Decidable True)

/-- Every cached approval was recorded for a context with its key. -/
structure CacheBacked (history : GateHistory) : Prop where
  recorded_le : ∀ entry ∈ history.approvals, entry.recordedAt ≤ history.now
  backed : ∀ key approval, history.gateway.approvedTransactions key = some approval →
    ∃ entry ∈ history.approvals, generateTransactionKey entry.context = key ∧
      approval.expiresAt = plusSeconds entry.recordedAt 900

theorem cacheBacked_initial (start : Instant) : CacheBacked (.initial start) where
  recorded_le _ hentry := absurd hentry List.not_mem_nil
  backed _ _ happroval := by cases happroval

/-- A call changes the cached approvals by what it records. -/
theorem approvedTransactions_gateAnswerTo (history : GateHistory) (event : GateEvent) :
    (recordedContext sha256 history event = none ∧
      (gateAnswerTo sha256 history event).2.approvedTransactions =
        history.gateway.approvedTransactions) ∨
    ∃ context decision, recordedContext sha256 history event = some context ∧
      (gateAnswerTo sha256 history event).2.approvedTransactions =
        Function.update history.gateway.approvedTransactions (generateTransactionKey context)
          (some ⟨decision, event.clock.stampedAt, plusSeconds event.clock.expiryFrom 900⟩) := by
  cases event with
  | validate lookups clock context =>
      rcases validatePaymentTransition_cases sha256 lookups clock context history.gateway with
        ⟨approval, hvalid, hanswer⟩ | ⟨hvalid, happroved, hcache⟩
      · refine Or.inl ⟨?_, ?_⟩
        · simp [recordedContext, hvalid]
        · simp [gateAnswerTo, hanswer]
      · cases hdecision : (TransactionSecurityService.validateTransaction sha256 lookups
            context).isApproved with
        | false =>
            refine Or.inl ⟨?_, ?_⟩
            · simp [recordedContext, gateAnswerTo, happroved, hdecision]
            · simp [gateAnswerTo, hcache, hdecision]
        | true =>
            refine Or.inr ⟨context,
              TransactionSecurityService.validateTransaction sha256 lookups context, ?_, ?_⟩
            · simp [recordedContext, gateAnswerTo, happroved, hdecision, hvalid]
            · simp only [gateAnswerTo, hcache, hdecision, if_true]
              rfl
  | verify clock authToken authCode =>
      rcases verifyAdditionalAuthentication_cases clock history.gateway authToken authCode with
        ⟨happroved, hcache⟩ | ⟨pending, hpending, happroved, hcache⟩
      · exact Or.inl ⟨by simp [recordedContext, gateAnswerTo, happroved], hcache⟩
      · exact Or.inr ⟨pending.transactionContext, pending.riskDecision,
          by simp [recordedContext, gateAnswerTo, happroved, hpending], hcache⟩

variable {sha256}

theorem CallClock.checked_le_expiry (clock : CallClock) : clock.checkedAt ≤ clock.expiryFrom :=
  calc
    clock.checkedAt ≤ clock.tokenAt := clock.checked_le_token
    _ ≤ clock.stampedAt := clock.token_le_stamped
    _ ≤ clock.expiryFrom := clock.stamped_le_expiry

/-- One call keeps the cache backed. -/
theorem cacheBacked_step {history next : GateHistory} {event : GateEvent}
    (hbacked : CacheBacked history) (hstep : gateStep sha256 history event = some next) :
    CacheBacked next := by
  rw [gateStep] at hstep
  split at hstep
  · rename_i hclock
    obtain rfl := Option.some.inj hstep
    have hnow := hclock.trans event.clock.checked_le_expiry
    constructor
    · intro entry hentry
      rcases List.mem_append.mp hentry with hold | hnew
      · exact (hbacked.recorded_le entry hold).trans hnow
      · simp only [Option.mem_toList, Option.map_eq_some_iff] at hnew
        obtain ⟨context, -, rfl⟩ := hnew
        exact le_rfl
    · intro key approval happroval
      rcases approvedTransactions_gateAnswerTo sha256 history event with
        ⟨-, hcache⟩ | ⟨context, decision, hrecorded, hcache⟩
      · rw [hcache] at happroval
        obtain ⟨entry, hentry, hkey⟩ := hbacked.backed key approval happroval
        exact ⟨entry, List.mem_append_left _ hentry, hkey⟩
      · rw [hcache] at happroval
        by_cases hkey : key = generateTransactionKey context
        · subst hkey
          rw [Function.update_self] at happroval
          obtain rfl := Option.some.inj happroval
          exact ⟨⟨context, event.clock.expiryFrom⟩, by simp [hrecorded], rfl, rfl⟩
        · rw [Function.update_of_ne hkey] at happroval
          obtain ⟨entry, hentry, hbacks⟩ := hbacked.backed key approval happroval
          exact ⟨entry, List.mem_append_left _ hentry, hbacks⟩
  · cases hstep

/-- With a backed cache, an answer is sound when keys stand for purchases. -/
theorem soundAnswer_of_cacheBacked {history : GateHistory} {event : GateEvent}
    (hbacked : CacheBacked history) (hclock : history.now ≤ event.clock.checkedAt)
    (hkeys : KeyMeansPurchase history event) : SoundAnswer sha256 history event := by
  cases event with
  | verify clock authToken authCode => trivial
  | validate lookups clock context =>
      intro happroved
      rcases validatePaymentTransition_cases sha256 lookups clock context history.gateway with
        ⟨approval, hvalid, -⟩ | ⟨-, hfresh, -⟩
      · obtain ⟨hcached, hunexpired⟩ := (validApproval_eq_some_iff context _).mp hvalid
        obtain ⟨entry, hentry, hkey, hexpiry⟩ := hbacked.backed _ _ hcached
        rw [hexpiry] at hunexpired
        refine Or.inr ⟨entry, hentry, (hbacked.recorded_le entry hentry).trans hclock,
          hunexpired.le, ?_⟩
        exact hkeys entry hentry hunexpired (sharesKeyFields_of_key_eq hkey)
      · exact Or.inl (hfresh.symm.trans happroved)

/-- In every run in which keys stand for purchases, every answer is sound. -/
theorem approvalCache_sound (start : Instant) (events : List GateEvent) (event : GateEvent)
    (history next : GateHistory)
    (hkeys : Guarded (gateStep sha256) KeyMeansPurchase (.initial start) (events ++ [event]))
    (hrun : run (gateStep sha256) (.initial start) events = some history)
    (hstep : gateStep sha256 history event = some next) :
    SoundAnswer sha256 history event := by
  have hclock : history.now ≤ event.clock.checkedAt := by
    rw [gateStep] at hstep
    split at hstep
    · assumption
    · cases hstep
  obtain ⟨hbefore, hlast⟩ := guarded_append hkeys hrun
  have hbacked := run_preserves (fun _ _ _ hinvariant _ => cacheBacked_step hinvariant)
    (cacheBacked_initial start) hbefore hrun
  exact soundAnswer_of_cacheBacked hbacked hclock hlast.1

def bookLookups : CatalogLookups :=
  ⟨fun _ => .product (some (js "Book")) (some ⟨100, 0⟩),
    fun _ => .product (some (js "Book")) (some ⟨100, 0⟩)⟩

def bookHash : JString :=
  productDigest (fun message => message) 3 (js "Book") ⟨100, 0⟩

/-- Two books, as `createOrder` describes them: there is no order id yet. -/
def twoBooks : TransactionContext where
  orderId := none
  userId := some (js "alice")
  sessionId := some (js "session-1")
  totalAmount := ⟨200, 0⟩
  currency := some (js "VND")
  timestamp := 0
  deviceFingerprint := some (js "Mozilla/5.0")
  ipAddress := some (js "203.0.113.7")
  orderItems := [⟨3, some (js "Book"), some ⟨100, 0⟩, 2, some bookHash⟩]
  shippingDetails := none

/-- The same purchase of a user whose name looks like the end of a key. -/
def otherTwoBooks : TransactionContext :=
  { twoBooks with userId := some (js "alice_200") }

theorem generateTransactionKey_eq_iff_twoBooks :
    generateTransactionKey twoBooks = generateTransactionKey otherTwoBooks ↔
      twoBooks.orderId = otherTwoBooks.orderId ∧ twoBooks.userId = otherTwoBooks.userId ∧
        twoBooks.totalAmount.unscaledValue = otherTwoBooks.totalAmount.unscaledValue ∧
        twoBooks.totalAmount.scale = otherTwoBooks.totalAmount.scale :=
  generateTransactionKey_eq_iff rfl rfl

def buyTwoBooks : GateEvent :=
  .validate bookLookups (.still 1) twoBooks

/-- The gate after it has approved two books. -/
def twoBooksApproved : GateHistory :=
  ⟨(gateAnswerTo (fun message => message) (.initial 0) buyTwoBooks).2, [⟨twoBooks, 1⟩], 1⟩

theorem run_buyTwoBooks :
    run (gateStep fun message => message) (.initial 0) [buyTwoBooks] = some twoBooksApproved := by
  have hrecorded : recordedContext (fun message => message) (.initial 0) buyTwoBooks =
      some twoBooks := by
    decide +kernel
  refine run_cons_eq_some.mpr ⟨twoBooksApproved, ?_, rfl⟩
  rw [gateStep, if_pos (by decide), hrecorded]
  rfl

/-- The same purchase asked for again is answered from the cache. -/
theorem approvalCache_sound_repeated :
    SoundAnswer (fun message => message) twoBooksApproved
      (.validate bookLookups (.still 2) twoBooks) :=
  approvalCache_sound 0 [buyTwoBooks] (.validate bookLookups (.still 2) twoBooks) _ _
    (guarded_of_checkGuarded (fun _ _ => of_decide_eq_true) (by decide +kernel))
    run_buyTwoBooks rfl

/-- Another product for the same total, without session, address or device. -/
def stolenPurchase : TransactionContext :=
  { twoBooks with
    sessionId := none
    deviceFingerprint := none
    ipAddress := none
    orderItems := [⟨9, some (js "Phone"), some ⟨200, 0⟩, 1, none⟩] }

/-- The second purchase is approved on the approval of the first, although the
engine would block it. -/
theorem approvalCache_borrowed :
    ¬ ∀ (start : Instant) (events : List GateEvent) (event : GateEvent)
      (history next : GateHistory),
      run (gateStep fun message => message) (.initial start) events = some history →
      gateStep (fun message => message) history event = some next →
      SoundAnswer (fun message => message) history event := by
  intro hsound
  have happroved := hsound 0 [buyTwoBooks] (.validate bookLookups (.still 2) stolenPurchase)
    twoBooksApproved _ run_buyTwoBooks rfl (by decide +kernel)
  rcases happroved with hfresh | ⟨entry, hentry, -, -, hsame⟩
  · exact absurd hfresh (by decide +kernel)
  · rw [List.mem_singleton.mp hentry] at hsame
    exact absurd hsame (by decide +kernel)

end ShoppingWeb.PaymentSecurityGateway
