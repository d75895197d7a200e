import ShoppingWeb.Order.AdditionalAuthentication

/-!
# Which tokens collide

A token is made of the millisecond it is drawn in, the order id and the
printed user id.  The history of the state machine is kept together with the
instants at which its tokens were drawn.
-/

namespace ShoppingWeb.PaymentSecurityGateway

open ShoppingWeb.Utf16
open ShoppingWeb.DecimalText
open ShoppingWeb.Delimited
open ShoppingWeb.Shared
open ShoppingWeb.TransitionSystem

/-- The token determines the millisecond, the order id and the printed user id. -/
theorem generateAuthenticationToken_eq_iff {drawnAt laterDrawnAt : Instant}
    {left right : TransactionContext} :
    generateAuthenticationToken drawnAt left = generateAuthenticationToken laterDrawnAt right ↔
      toMillis drawnAt = toMillis laterDrawnAt ∧ left.orderId = right.orderId ∧
        orNull left.userId = orNull right.userId := by
  constructor
  · intro heq
    have hunderscore : js "_" = [95] := by decide
    simp only [generateAuthenticationToken, hunderscore, List.append_assoc,
      List.singleton_append] at heq
    have hfields := List.append_cancel_left heq
    have hmillis (instant : Instant) : (95 : CodeUnit) ∉ intText (toMillis instant) :=
      not_mem_intText (by decide) (by decide) _
    obtain ⟨htime, hrest⟩ := join_injective_of_left (hmillis drawnAt) (hmillis laterDrawnAt) hfields
    obtain ⟨horder, huser⟩ := join_injective_of_left (underscore_not_mem_orderIdText _)
      (underscore_not_mem_orderIdText _) hrest
    exact ⟨intText_injective htime, orderIdText_injective horder, huser⟩
  · rintro ⟨htime, horder, huser⟩
    simp only [generateAuthenticationToken, htime, horder, huser]

/-- A pending authentication as it was stored, and when its token was drawn. -/
structure IssuedToken where
  drawnAt : Instant
  pending : PendingAuthentication

def IssuedToken.token (issued : IssuedToken) : JString := issued.pending.token

structure TokenHistory where
  auth : AuthHistory
  issued : List IssuedToken

def TokenHistory.initial (start : Instant) : TokenHistory := ⟨.initial start, []⟩

def newlyIssued (sha256 : Bytes → Bytes) (gateway : GatewayState) : GateEvent → Option IssuedToken
  | .validate lookups clock context =>
      (AuthHistory.newlyStored
        (validatePaymentTransition sha256 lookups clock context gateway)).map (⟨clock.tokenAt, ·⟩)
  | .verify _ _ _ => none

/-- One call of the gate. -/
def tokenStep (sha256 : Bytes → Bytes) (history : TokenHistory) (event : GateEvent) :
    Option TokenHistory :=
  (authStep sha256 history.auth event).map fun next =>
    ⟨next, history.issued ++ (newlyIssued sha256 history.auth.gateway event).toList⟩

/-- No two tokens are the same, and a token stands for the authentication it
was issued for: only its failed attempts change, and a verification with it
approves what it was issued for. -/
structure TokensSeparate (history : TokenHistory) : Prop where
  tokens_nodup : (history.issued.map IssuedToken.token).Nodup
  kept : ∀ issued ∈ history.issued, ∀ pending,
    history.auth.gateway.pendingAuthentications issued.token = some pending →
      pending = { issued.pending with failedAttempts := pending.failedAttempts }
  approves : ∀ issued ∈ history.issued, ∀ clock authCode,
    let answer :=
      verifyAdditionalAuthentication clock issued.token authCode history.auth.gateway
    answer.1.approved = true →
      answer.2.approvedTransactions =
        Function.update history.auth.gateway.approvedTransactions
          (generateTransactionKey issued.pending.transactionContext)
          (some ⟨issued.pending.riskDecision, clock.stampedAt, plusSeconds clock.expiryFrom 900⟩)

/-- A validation stores a pending authentication when no approval is cached
and the decision asks for another authentication. -/
def AsksForAuthentication (sha256 : Bytes → Bytes) (gateway : GatewayState)
    (lookups : CatalogLookups) (clock : CallClock) (context : TransactionContext) : Prop :=
  validApproval gateway clock.checkedAt context = none ∧
    (TransactionSecurityService.validateTransaction sha256 lookups context).action =
      .requireAdditionalAuth

/-- A validation that stores a pending authentication is the first one to do
so in its millisecond for its order id and printed user id. -/
def FirstInMillisecond (sha256 : Bytes → Bytes) (history : TokenHistory) : GateEvent → Prop
  | .validate lookups clock context =>
      history.auth.now ≤ clock.checkedAt →
        AsksForAuthentication sha256 history.auth.gateway lookups clock context →
          ∀ issued ∈ history.issued,
            ¬ (toMillis issued.drawnAt = toMillis clock.tokenAt ∧
              issued.pending.transactionContext.orderId = context.orderId ∧
              orNull issued.pending.transactionContext.userId = orNull context.userId)
  | .verify _ _ _ => True

section Issuing

variable {sha256 : Bytes → Bytes} {lookups : CatalogLookups} {clock : CallClock}
  {context : TransactionContext} {gateway : GatewayState}

theorem newlyIssued_of_asks
    (hasks : AsksForAuthentication sha256 gateway lookups clock context) :
    ∃ pending, newlyIssued sha256 gateway (.validate lookups clock context) =
        some ⟨clock.tokenAt, pending⟩ ∧
      pending.token = generateAuthenticationToken clock.tokenAt context ∧
      pending.transactionContext = context := by
  obtain ⟨huncached, haction⟩ := hasks
  simp only [newlyIssued, validatePaymentTransition, huncached, processSecurityDecision, haction,
    handleAdditionalAuthRequired, Bool.false_eq_true, if_false, AuthHistory.newlyStored,
    Option.bind_some, GatewayState.putPending, Function.update_self, Option.map_some]
  exact ⟨_, rfl, rfl, rfl⟩

theorem newlyIssued_of_not_asks
    (hasks : ¬ AsksForAuthentication sha256 gateway lookups clock context) :
    newlyIssued sha256 gateway (.validate lookups clock context) = none := by
  simp only [newlyIssued, validatePaymentTransition]
  cases huncached : validApproval gateway clock.checkedAt context with
  | some approval => rfl
  | none =>
      cases haction : (TransactionSecurityService.validateTransaction sha256 lookups
          context).action with
      | requireAdditionalAuth => exact absurd ⟨huncached, haction⟩ hasks
      | _ =>
          simp only [processSecurityDecision, haction]
          rfl

end Issuing

/-- The issued tokens are those of the entries that were stored, each drawn
for its own context. -/
structure Issues (history : TokenHistory) : Prop where
  tracked : Tracked history.auth
  stored_eq : history.issued.map IssuedToken.pending = history.auth.stored
  drawn : ∀ issued ∈ history.issued, issued.token =
    generateAuthenticationToken issued.drawnAt issued.pending.transactionContext

theorem issues_initial (start : Instant) : Issues (.initial start) where
  tracked := tracked_initial start
  stored_eq := rfl
  drawn _ hissued := absurd hissued List.not_mem_nil

variable {sha256 : Bytes → Bytes} {history next : TokenHistory} {event : GateEvent}

theorem tokenStep_eq_some :
    tokenStep sha256 history event = some next ↔
      authStep sha256 history.auth event = some next.auth ∧
        next.issued =
          history.issued ++ (newlyIssued sha256 history.auth.gateway event).toList := by
  rw [tokenStep, Option.map_eq_some_iff]
  constructor
  · rintro ⟨auth, hauth, rfl⟩
    exact ⟨hauth, rfl⟩
  · rintro ⟨hauth, hissued⟩
    exact ⟨next.auth, hauth, by rw [← hissued]⟩

/-- The history of the state machine stores what is issued. -/
theorem stored_authStep {auth : AuthHistory}
    (hstep : authStep sha256 history.auth event = some auth) :
    auth.stored = history.auth.stored ++
      ((newlyIssued sha256 history.auth.gateway event).map IssuedToken.pending).toList := by
  simp only [authStep] at hstep
  split at hstep
  · cases event with
    | validate lookups clock context =>
        obtain rfl := Option.some.inj hstep
        simp only [AuthHistory.afterValidation, newlyIssued]
        cases AuthHistory.newlyStored (validatePaymentTransition sha256 lookups clock context
            history.auth.gateway) with
        | none => simp
        | some pending => simp
    | verify clock authToken authCode =>
        obtain rfl := Option.some.inj hstep
        simp [AuthHistory.afterVerification, newlyIssued]
  · cases hstep

theorem drawn_newlyIssued {gateway : GatewayState} {issued : IssuedToken}
    (hnew : newlyIssued sha256 gateway event = some issued) :
    issued.token =
      generateAuthenticationToken issued.drawnAt issued.pending.transactionContext := by
  cases event with
  | verify clock authToken authCode => cases hnew
  | validate lookups clock context =>
      by_cases hasks : AsksForAuthentication sha256 gateway lookups clock context
      · obtain ⟨pending, hissued, htoken, hcontext⟩ := newlyIssued_of_asks hasks
        obtain rfl := Option.some.inj (hissued.symm.trans hnew)
        rw [IssuedToken.token, htoken, hcontext]
      · rw [newlyIssued_of_not_asks hasks] at hnew
        cases hnew

theorem issues_tokenStep (hissues : Issues history)
    (hstep : tokenStep sha256 history event = some next) : Issues next := by
  obtain ⟨hauth, hissued⟩ := tokenStep_eq_some.mp hstep
  constructor
  · exact tracked_authStep hissues.tracked hauth
  · rw [stored_authStep hauth, hissued, List.map_append, hissues.stored_eq]
    cases newlyIssued sha256 history.auth.gateway event with
    | none => rfl
    | some issued => rfl
  · intro issued hmem
    rw [hissued] at hmem
    rcases List.mem_append.mp hmem with hold | hnew
    · exact hissues.drawn issued hold
    · exact drawn_newlyIssued (Option.mem_toList.mp hnew)

/-- With different tokens, the entry kept under a token is the one issued. -/
theorem kept_of_nodup (hissues : Issues history)
    (hnodup : (history.issued.map IssuedToken.token).Nodup) {issued : IssuedToken}
    (hmem : issued ∈ history.issued) {pending : PendingAuthentication}
    (hpending : history.auth.gateway.pendingAuthentications issued.token = some pending) :
    pending = { issued.pending with failedAttempts := pending.failedAttempts } := by
  have htracks := hissues.tracked.live issued.token pending hpending
  obtain ⟨original, horiginal, hsame⟩ := htracks.stored_eq
  rw [← hissues.stored_eq] at horiginal
  obtain ⟨other, hother, hotherPending⟩ := List.mem_map.mp (List.mem_of_getElem? horiginal)
  have htoken : other.token = issued.token := by
    calc
      other.token = original.token := by rw [IssuedToken.token, hotherPending]
      _ = pending.token := by rw [← hsame]
      _ = issued.token := htracks.token_eq
  obtain rfl := List.inj_on_of_nodup_map hnodup hother hmem htoken
  rw [hotherPending, hsame]

theorem tokensSeparate_iff_nodup (hissues : Issues history) :
    TokensSeparate history ↔ (history.issued.map IssuedToken.token).Nodup := by
  constructor
  · exact TokensSeparate.tokens_nodup
  · intro hnodup
    constructor
    · exact hnodup
    · intro issued hmem pending hpending
      exact kept_of_nodup hissues hnodup hmem hpending
    · intro issued hmem clock authCode answer happroved
      rcases verifyAdditionalAuthentication_cases clock history.auth.gateway issued.token
        authCode with ⟨hrefused, -⟩ | ⟨pending, hpending, -, hcache⟩
      · exact absurd (hrefused.symm.trans happroved) (by decide)
      · have hkept := kept_of_nodup hissues hnodup hmem hpending
        have hcontext : pending.transactionContext = issued.pending.transactionContext := by
          rw [hkept]
        have hdecision : pending.riskDecision = issued.pending.riskDecision := by rw [hkept]
        rw [← hcontext, ← hdecision]
        exact hcache

/-- The next tokens are separate exactly when the call is the first to store
in its millisecond. -/
theorem tokensSeparate_step_iff (hissues : Issues history) (hseparate : TokensSeparate history)
    (hstep : tokenStep sha256 history event = some next) :
    TokensSeparate next ↔ FirstInMillisecond sha256 history event := by
  rw [tokensSeparate_iff_nodup (issues_tokenStep hissues hstep)]
  obtain ⟨hauth, hissued⟩ := tokenStep_eq_some.mp hstep
  rw [hissued]
  cases event with
  | verify clock authToken authCode =>
      simpa [newlyIssued, FirstInMillisecond] using hseparate.tokens_nodup
  | validate lookups clock context =>
      have hclock : history.auth.now ≤ clock.checkedAt := by
        by_contra hback
        simp [authStep, GateEvent.clock, hback] at hauth
      by_cases hasks : AsksForAuthentication sha256 history.auth.gateway lookups clock context
      · obtain ⟨pending, hnew, htoken, -⟩ := newlyIssued_of_asks hasks
        have hcollides : ∀ issued ∈ history.issued,
            (issued.token = pending.token ↔
              toMillis issued.drawnAt = toMillis clock.tokenAt ∧
                issued.pending.transactionContext.orderId = context.orderId ∧
                orNull issued.pending.transactionContext.userId = orNull context.userId) := by
          intro issued hmem
          rw [hissues.drawn issued hmem, htoken]
          exact generateAuthenticationToken_eq_iff
        rw [hnew, Option.toList_some, List.map_append, List.map_singleton, List.nodup_append]
        constructor
        · rintro ⟨-, -, hdistinct⟩ - - issued hmem hsame
          exact hdistinct issued.token (List.mem_map_of_mem hmem) pending.token
            (List.mem_singleton.mpr rfl) ((hcollides issued hmem).mpr hsame)
        · intro hfirst
          refine ⟨hseparate.tokens_nodup, List.nodup_singleton _, ?_⟩
          intro token htoken other hother heq
          obtain ⟨issued, hmem, rfl⟩ := List.mem_map.mp htoken
          rw [List.mem_singleton.mp hother] at heq
          exact hfirst hclock hasks issued hmem ((hcollides issued hmem).mp heq)
      · rw [newlyIssued_of_not_asks hasks]
        simpa [FirstInMillisecond, hasks] using hseparate.tokens_nodup

theorem tokensSeparate_initial (start : Instant) : TokensSeparate (.initial start) where
  tokens_nodup := List.nodup_nil
  kept _ hissued := absurd hissued List.not_mem_nil
  approves _ hissued := absurd hissued List.not_mem_nil

theorem tokenStep_eq_none (hdisabled : tokenStep sha256 history event = none) :
    ¬ history.auth.now ≤ event.clock.checkedAt := by
  intro hclock
  cases event <;> simp_all [tokenStep, authStep]

/-- In every run of the gate, the tokens are separate in every state reached
exactly when every validation that stores a pending authentication is the
first to do so in its millisecond for its order id and printed user id. -/
theorem tokensSeparate_throughout_iff (start : Instant) (events : List GateEvent) :
    Throughout (tokenStep sha256) TokensSeparate (.initial start) events ↔
      Guarded (tokenStep sha256) (FirstInMillisecond sha256) (.initial start) events := by
  apply throughout_iff_guarded
  · intro state event next hissues hstep
    exact issues_tokenStep hissues hstep
  · intro state event next hissues hseparate hstep
    exact tokensSeparate_step_iff hissues hseparate hstep
  · intro state event hdisabled
    have hclock := tokenStep_eq_none hdisabled
    cases event with
    | validate lookups clock context => exact fun hordered => absurd hordered hclock
    | verify clock authToken authCode => trivial
  · exact issues_initial start
  · exact tokensSeparate_initial start

def validations (calls : List (CatalogLookups × CallClock × TransactionContext)) :
    List GateEvent :=
  calls.map fun call => .validate call.1 call.2.1 call.2.2

def threeBooks (firstId : ℤ) : TransactionContext :=
  { twoBooks with
    totalAmount := ⟨300, 0⟩
    orderItems := [0, 1, 2].map fun offset =>
      ⟨firstId + offset, some (js "Book"), some ⟨100, 0⟩, 1, some bookHash⟩ }

/-- The same user orders other books a nanosecond later; the catalog does not
answer the checks. -/
def doubleClick : List (CatalogLookups × CallClock × TransactionContext) :=
  [(unreachableCatalog, .still 1, threeBooks 3), (unreachableCatalog, .still 2, threeBooks 6)]

/-- One token is issued for both, so the first one stands for the second
purchase. -/
theorem tokens_collide :
    ¬ ∀ (sha256 : Bytes → Bytes) (start : Instant)
      (calls : List (CatalogLookups × CallClock × TransactionContext)),
      Throughout (tokenStep sha256) TokensSeparate (.initial start) (validations calls) := by
  intro hseparate
  obtain ⟨history, hrun, hcheck⟩ := (Option.any_eq_true _ _).mp
    (show (run (tokenStep fun message => message) (.initial 0) (validations doubleClick)).any
      (fun history => !decide (history.issued.map IssuedToken.token).Nodup) = true by
        decide +kernel)
  have hfinal := holds_of_run (hseparate (fun message => message) 0 doubleClick) hrun
  simp [hfinal.tokens_nodup] at hcheck

end ShoppingWeb.PaymentSecurityGateway
