import ShoppingWeb.Order.ApprovalCache

/-!
# Reading the approvals back

`getPaymentRequirements` builds its key from the order id and the user id.  The
writers of the approval map append the total amount.  The two kinds of keys
never meet, so the reader finds none of the approvals.
-/

namespace ShoppingWeb.PaymentSecurityGateway

open ShoppingWeb.Utf16
open ShoppingWeb.DecimalText
open ShoppingWeb.Delimited
open ShoppingWeb.Shared
open ShoppingWeb.TransitionSystem

/-- No approval is recorded under a key that the reader asks for. -/
theorem generateTransactionKey_ne_requirementsKey (context : TransactionContext)
    (orderId userId : Option ℤ) :
    generateTransactionKey context ≠ requirementsKey orderId userId := by
  intro heq
  have hunderscore : js "_" = [95] := by decide
  simp only [generateTransactionKey, requirementsKey, hunderscore, List.append_assoc,
    List.singleton_append] at heq
  obtain ⟨-, hrest⟩ := join_injective_of_left (underscore_not_mem_orderIdText _)
    (underscore_not_mem_orderIdText _) heq
  -- What follows the order id has a separator in one key and none in the other.
  have htail : orNull context.userId ++ 95 :: context.totalAmount.toText = orderIdText userId :=
    hrest
  apply underscore_not_mem_orderIdText userId
  rw [← htail]
  exact List.mem_append_right _ List.mem_cons_self

theorem requiresValidation_getPaymentRequirements (orderId userId : Option ℤ)
    (state : GatewayState) :
    (getPaymentRequirements orderId userId state).requiresValidation =
      (state.approvedTransactions (requirementsKey orderId userId)).isNone := by
  rw [getPaymentRequirements]
  cases state.approvedTransactions (requirementsKey orderId userId) with
  | none => rfl
  | some approval => rfl

variable {sha256 : Bytes → Bytes}

/-- Whatever the gateway went through, the reader finds no approval. -/
theorem requiresValidation_of_run {start : Instant} {events : List GateEvent}
    {history : GateHistory}
    (hrun : run (gateStep sha256) (.initial start) events = some history)
    (orderId userId : Option ℤ) :
    (getPaymentRequirements orderId userId history.gateway).requiresValidation = true := by
  have hbacked : CacheBacked history := by
    apply run_invariant _ (cacheBacked_initial start) hrun
    intro state event next hstate hnext
    exact cacheBacked_step hstate hnext
  rw [requiresValidation_getPaymentRequirements, Option.isNone_iff_eq_none,
    Option.eq_none_iff_forall_ne_some]
  intro approval happroval
  obtain ⟨entry, -, hkey, -⟩ := hbacked.backed _ approval happroval
  exact generateTransactionKey_ne_requirementsKey entry.context orderId userId hkey

/-- An approval for the order and the user is recorded and has not expired. -/
def HasLiveApproval (history : GateHistory) (now : Instant) (orderId userId : Option ℤ) : Prop :=
  ∃ entry ∈ history.approvals, entry.context.orderId = orderId ∧
    entry.context.userId = userId.map intText ∧ now < plusSeconds entry.recordedAt 900

/-- The reader answers approved exactly when there is a live approval. -/
def RequirementsAgree (history : GateHistory) (now : Instant) (orderId userId : Option ℤ) :
    Prop :=
  (getPaymentRequirements orderId userId history.gateway).requiresValidation = false ↔
    HasLiveApproval history now orderId userId

/-- After every run the reader agrees with the approvals about an order and a
user exactly when there is no live approval for them. -/
theorem requirementsAgree_iff (start : Instant) (events : List GateEvent) (history : GateHistory)
    (hrun : run (gateStep sha256) (.initial start) events = some history)
    (now : Instant) (orderId userId : Option ℤ) :
    RequirementsAgree history now orderId userId ↔
      ¬ HasLiveApproval history now orderId userId := by
  have hvalidation := requiresValidation_of_run hrun orderId userId
  simp [RequirementsAgree, hvalidation]

/-- No approval is recorded for order 1, and none is answered. -/
theorem requirementsAgree_otherOrder :
    RequirementsAgree twoBooksApproved 2 (some 1) (some 7) := by
  apply (requirementsAgree_iff 0 [buyTwoBooks] twoBooksApproved run_buyTwoBooks 2 (some 1)
    (some 7)).mpr
  rintro ⟨entry, hentry, horder, -⟩
  rw [List.mem_singleton.mp hentry] at horder
  cases horder

/-- User 7 orders two books under order 1. -/
def orderedBooks : TransactionContext :=
  { twoBooks with
    orderId := some 1
    userId := some (js "7") }

def buyOrderedBooks : GateEvent :=
  .validate bookLookups (.still 1) orderedBooks

theorem run_buyOrderedBooks :
    ∃ history, run (gateStep fun message => message) (.initial 0) [buyOrderedBooks] =
        some history ∧
      HasLiveApproval history 2 (some 1) (some 7) := by
  obtain ⟨history, hrun, hcheck⟩ := (Option.any_eq_true _ _).mp
    (show (run (gateStep fun message => message) (.initial 0) [buyOrderedBooks]).any
      (fun history => history.approvals.any fun entry =>
        entry.context.orderId == some 1 && entry.context.userId == some (js "7") &&
          decide (2 < plusSeconds entry.recordedAt 900)) = true by
        decide +kernel)
  obtain ⟨entry, hentry, hfields⟩ := List.any_eq_true.mp hcheck
  simp only [Bool.and_eq_true, beq_iff_eq, decide_eq_true_eq] at hfields
  obtain ⟨⟨horder, huser⟩, hlive⟩ := hfields
  exact ⟨history, hrun, entry, hentry, horder, huser.trans (by decide), hlive⟩

/-- The approval just recorded is not found. -/
theorem requirementsAgree_missed :
    ¬ ∀ (start : Instant) (events : List GateEvent) (history : GateHistory),
      run (gateStep fun message => message) (.initial start) events = some history →
      ∀ now orderId userId, RequirementsAgree history now orderId userId := by
  intro hagree
  obtain ⟨history, hrun, hlive⟩ := run_buyOrderedBooks
  have happroved := (hagree 0 [buyOrderedBooks] history hrun 2 (some 1) (some 7)).mpr hlive
  rw [requiresValidation_of_run hrun] at happroved
  cases happroved

end ShoppingWeb.PaymentSecurityGateway
