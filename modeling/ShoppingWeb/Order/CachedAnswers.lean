import ShoppingWeb.Order.ApprovalCache
import ShoppingWeb.Shared.RiskScore

/-!
# Answers from the approval cache

The cache keeps the decision and not the answer.  An answer from the cache is
built anew from that decision.
-/

namespace ShoppingWeb.PaymentSecurityGateway

open ShoppingWeb.Utf16
open ShoppingWeb.Shared
open ShoppingWeb.Shared.TransactionSecurityService
open ShoppingWeb.TransitionSystem

/-- What the payment is to be made with. -/
def AnswersAlike (first second : PaymentGateResult) : Prop :=
  first.status = second.status ∧ first.monitoringRequired = second.monitoringRequired ∧
    first.paymentProcessorRecommendation = second.paymentProcessorRecommendation

section Repeated

variable (sha256 : Bytes → Bytes) (lookups : CatalogLookups) (context : TransactionContext)

/-- A context is approved by validation, and is asked for again after some
calls, while the approval it led to is cached and has not expired. -/
structure AskedAgain (history : GateHistory) (clock : CallClock) (later : GateHistory)
    (laterClock : CallClock) : Prop where
  fresh : validApproval history.gateway clock.checkedAt context = none
  approved : (gateAnswerTo sha256 history (.validate lookups clock context)).1.approved = true
  reached : ∃ next between, gateStep sha256 history (.validate lookups clock context) = some next ∧
    run (gateStep sha256) next between = some later
  ordered : later.now ≤ laterClock.checkedAt
  cached : later.gateway.approvedTransactions (generateTransactionKey context) =
    (gateAnswerTo sha256 history (.validate lookups clock context)).2.approvedTransactions
      (generateTransactionKey context)
  unexpired : (validApproval later.gateway laterClock.checkedAt context).isSome = true

variable {sha256 lookups context} {history later : GateHistory} {clock laterClock : CallClock}

/-- What is recorded is the decision of the validation. -/
theorem AskedAgain.cached_eq
    (hagain : AskedAgain sha256 lookups context history clock later laterClock) :
    (validateTransaction sha256 lookups context).isApproved = true ∧
      later.gateway.approvedTransactions (generateTransactionKey context) =
        some ⟨validateTransaction sha256 lookups context, clock.stampedAt,
          plusSeconds clock.expiryFrom 900⟩ := by
  have happroved := hagain.approved
  have hcached := hagain.cached
  rw [gateAnswerTo] at happroved hcached
  rcases validatePaymentTransition_cases sha256 lookups clock context history.gateway with
    ⟨approval, hvalid, -⟩ | ⟨-, hdecision, hrecorded⟩
  · rw [hagain.fresh] at hvalid
    cases hvalid
  · have hisApproved : (validateTransaction sha256 lookups context).isApproved = true :=
      hdecision.symm.trans happroved
    refine ⟨hisApproved, ?_⟩
    rw [hcached, hrecorded, if_pos hisApproved, Function.update_self]

/-- The second answer comes from the cache. -/
theorem AskedAgain.answer_eq
    (hagain : AskedAgain sha256 lookups context history clock later laterClock)
    (laterLookups : CatalogLookups) :
    (gateAnswerTo sha256 later (.validate laterLookups laterClock context)).1 =
      .ofApproval (validateTransaction sha256 lookups context) := by
  obtain ⟨approval, hvalid⟩ := Option.isSome_iff_exists.mp hagain.unexpired
  have hcached := ((validApproval_eq_some_iff context _).mp hvalid).1
  obtain rfl := Option.some.inj (hagain.cached_eq.2.symm.trans hcached)
  simp only [gateAnswerTo, validatePaymentTransition, hvalid]

/-- The first answer is what the decision is processed to. -/
theorem AskedAgain.first_eq
    (hagain : AskedAgain sha256 lookups context history clock later laterClock) :
    (gateAnswerTo sha256 history (.validate lookups clock context)).1 =
      (processSecurityDecision clock (validateTransaction sha256 lookups context) context
        history.gateway).1 := by
  simp only [gateAnswerTo, validatePaymentTransition, hagain.fresh]
  split_ifs <;> rfl

/-- A cached answer is like the original exactly when the validation took away
at most 20.5 points. -/
theorem cachedAnswer_alike_iff
    (hagain : AskedAgain sha256 lookups context history clock later laterClock)
    (laterLookups : CatalogLookups) :
    AnswersAlike (gateAnswerTo sha256 history (.validate lookups clock context)).1
        (gateAnswerTo sha256 later (.validate laterLookups laterClock context)).1 ↔
      totalDeduction sha256 lookups context ≤ 410 := by
  have haction := validateTransaction_action_of_isApproved sha256 lookups context
    hagain.cached_eq.1
  rw [hagain.first_eq, hagain.answer_eq]
  split_ifs at haction with hplain
  · have halike : AnswersAlike (processSecurityDecision clock
        (validateTransaction sha256 lookups context) context history.gateway).1
        (.ofApproval (validateTransaction sha256 lookups context)) := by
      rw [processSecurityDecision, haction]
      exact ⟨rfl, rfl, rfl⟩
    exact iff_of_true halike hplain
  · have hdifferent : ¬ AnswersAlike (processSecurityDecision clock
        (validateTransaction sha256 lookups context) context history.gateway).1
        (.ofApproval (validateTransaction sha256 lookups context)) := by
      rw [processSecurityDecision, haction]
      rintro ⟨hstatus, -, -⟩
      cases hstatus
    exact iff_of_false hdifferent hplain

end Repeated

theorem twoBooks_askedAgain :
    AskedAgain (fun message => message) bookLookups twoBooks (.initial 0) (.still 1)
      twoBooksApproved (.still 2) where
  fresh := rfl
  approved := by decide +kernel
  reached := by
    obtain ⟨next, hnext, hrun⟩ := run_cons_eq_some.mp run_buyTwoBooks
    exact ⟨next, [], hnext, hrun⟩
  ordered := by decide
  cached := rfl
  unexpired := by decide +kernel

theorem cachedAnswer_alike_iff_twoBooks :
    AnswersAlike
        (gateAnswerTo (fun message => message) (.initial 0)
          (.validate bookLookups (.still 1) twoBooks)).1
        (gateAnswerTo (fun message => message) twoBooksApproved
          (.validate bookLookups (.still 2) twoBooks)).1 ↔
      totalDeduction (fun message => message) bookLookups twoBooks ≤ 410 :=
  cachedAnswer_alike_iff twoBooks_askedAgain bookLookups

/-- The gate after it has approved two books with monitoring. -/
def twoBooksMonitored : GateHistory :=
  ⟨(gateAnswerTo (fun message => message) (.initial 0)
    (.validate unreachableCatalog (.still 1) twoBooks)).2, [⟨twoBooks, 1⟩], 1⟩

theorem twoBooks_askedAgain_monitored :
    AskedAgain (fun message => message) unreachableCatalog twoBooks (.initial 0) (.still 1)
      twoBooksMonitored (.still 2) where
  fresh := rfl
  approved := by decide +kernel
  reached := by
    have hrecorded : recordedContext (fun message => message) (.initial 0)
        (.validate unreachableCatalog (.still 1) twoBooks) = some twoBooks := by
      decide +kernel
    refine ⟨twoBooksMonitored, [], ?_, rfl⟩
    rw [gateStep, if_pos (by decide), hrecorded]
    rfl
  ordered := by decide
  cached := rfl
  unexpired := by decide +kernel

/-- Asked again, the gate no longer requires the monitoring. -/
theorem not_cachedAnswer_alike_monitored :
    ¬ ∀ (sha256 : Bytes → Bytes) (lookups laterLookups : CatalogLookups)
      (context : TransactionContext) (history later : GateHistory) (clock laterClock : CallClock),
      AskedAgain sha256 lookups context history clock later laterClock →
        AnswersAlike (gateAnswerTo sha256 history (.validate lookups clock context)).1
          (gateAnswerTo sha256 later (.validate laterLookups laterClock context)).1 := by
  intro halike
  have hmonitoring := (halike (fun message => message) unreachableCatalog unreachableCatalog
    twoBooks _ _ _ _ twoBooks_askedAgain_monitored).2.1
  exact absurd hmonitoring (by decide +kernel)

end ShoppingWeb.PaymentSecurityGateway
