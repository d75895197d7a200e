import ShoppingWeb.Lib.TransitionSystem
import ShoppingWeb.Checkout.CheckoutPage

/-!
# What a success on screen means

The page announces success when the order has been answered, whatever the
answer to the payment.  Its payment request carries no signature headers, so
the filter refuses it, and no transaction is ever recorded for the announced
order.
-/

namespace ShoppingWeb.Checkout

open ShoppingWeb.Utf16
open ShoppingWeb.Shared
open ShoppingWeb.OrderService
open ShoppingWeb.PaymentService
open ShoppingWeb.TransitionSystem
open ShoppingWeb.OrderIsolation (placement_of_createdId)

/-- The page, the services, and the order announced as successful. -/
structure PageHistory where
  world : CheckoutWorld
  announced : Option ℤ

/-- The button works while the page is idle. -/
def pageStep (backend : Backend) (history : PageHistory) (attempt : Attempt) :
    Option PageHistory :=
  if history.world.page.status = .idle then
    let answer := confirmPayment backend attempt history.world
    some ⟨answer.2, answer.1⟩
  else none

/-- A committed transaction records the success of a payment. -/
def RecordsPayment (payments : PaymentDatabase) (orderId : ℤ) : Prop :=
  ∃ transaction ∈ payments.transactions,
    transaction.orderId = orderId ∧ transaction.status = js "SUCCESS"

/-- Success on screen is success of a recorded payment. -/
def SuccessIsPaid (history : PageHistory) : Prop :=
  history.world.page.status = .success →
    ∃ orderId, history.announced = some orderId ∧
      RecordsPayment history.world.services.payments orderId

/-- Payments are for orders that have been created. -/
def PaymentsKnown (services : PaidOrders.World) : Prop :=
  ∀ transaction ∈ services.payments.transactions,
    transaction.orderId < services.shop.tables.orders.nextKey

/-- The attempt does not get to the end of the `try` block. -/
def Fails (backend : Backend) (history : PageHistory) (attempt : Attempt) : Prop :=
  ∀ jwt browser orderId, ¬ Completes backend attempt jwt browser history.world orderId

section Steps

variable {backend : Backend} {history next : PageHistory} {attempt : Attempt}

theorem pageStep_eq_some :
    pageStep backend history attempt = some next ↔
      history.world.page.status = .idle ∧
        confirmPayment backend attempt history.world = (next.announced, next.world) := by
  rw [pageStep]
  split
  · rename_i hidle
    constructor
    · intro hnext
      obtain rfl := Option.some.inj hnext
      exact ⟨hidle, rfl⟩
    · rintro ⟨-, hconfirm⟩
      rw [hconfirm]
  · rename_i hbusy
    simp [hbusy]

theorem paymentsKnown_step (hstep : pageStep backend history attempt = some next)
    (hknown : PaymentsKnown history.world.services) : PaymentsKnown next.world.services := by
  obtain ⟨-, hconfirm⟩ := pageStep_eq_some.mp hstep
  have hcontinues : Continues history.world (confirmPayment backend attempt history.world).2 :=
    continues_confirmPayment history.world
  rw [hconfirm] at hcontinues
  intro transaction hmem
  rw [hcontinues.transactions_eq] at hmem
  exact lt_of_lt_of_le (hknown transaction hmem) hcontinues.nextKey_le

/-- A failing attempt does not end in success. -/
theorem status_of_fails (hstep : pageStep backend history attempt = some next)
    (hfails : Fails backend history attempt) : next.world.page.status ≠ .success := by
  obtain ⟨hidle, hconfirm⟩ := pageStep_eq_some.mp hstep
  cases hannounced : next.announced with
  | none =>
      rw [hannounced] at hconfirm
      apply (page_confirmPayment_none hconfirm).noSuccess
      rw [hidle]
      exact PageStatus.noConfusion
  | some orderId =>
      rw [hannounced] at hconfirm
      obtain ⟨jwt, browser, hcompletes, -⟩ := confirmPayment_eq_some_iff.mp hconfirm
      exact absurd hcompletes (hfails jwt browser orderId)

/-- An attempt that completes announces an order nobody has paid. -/
theorem not_successIsPaid_of_completes {jwt : Jwt} {browser : WebCrypto} {orderId : ℤ}
    (hknown : PaymentsKnown history.world.services)
    (hcompletes : Completes backend attempt jwt browser history.world orderId)
    (hstep : pageStep backend history attempt = some next) :
    next.world.page.status = .success ∧ ¬ SuccessIsPaid next := by
  obtain ⟨-, hconfirm⟩ := pageStep_eq_some.mp hstep
  have hcompleted := confirmPayment_eq_some_iff.mpr ⟨jwt, browser, hcompletes, rfl⟩
  obtain ⟨hannounced, hworld⟩ := Prod.mk.inj (hcompleted.symm.trans hconfirm)
  have hsuccess : next.world.page.status = .success := by
    rw [← hworld]
    rfl
  refine ⟨hsuccess, ?_⟩
  intro hpaid
  obtain ⟨paidId, hpaidId, transaction, hmem, hid, -⟩ := hpaid hsuccess
  obtain rfl := Option.some.inj (hannounced.trans hpaidId)
  have hcontinues : Continues history.world (confirmPayment backend attempt history.world).2 :=
    continues_confirmPayment history.world
  rw [hconfirm] at hcontinues
  rw [hcontinues.transactions_eq] at hmem
  obtain ⟨placement, -, hkey, -⟩ := placement_of_createdId hcompletes.created
  have hlt := hknown transaction hmem
  rw [hid, ← hkey] at hlt
  exact lt_irrefl _ hlt

end Steps

/-- After success the button is gone. -/
theorem run_success {backend : Backend} {history final : PageHistory} {attempts : List Attempt}
    (hsuccess : history.world.page.status = .success)
    (hrun : run (pageStep backend) history attempts = some final) : history = final := by
  cases attempts with
  | nil => exact Option.some.inj hrun
  | cons attempt attempts =>
      obtain ⟨next, hstep, -⟩ := run_cons_eq_some.mp hrun
      obtain ⟨hidle, -⟩ := pageStep_eq_some.mp hstep
      exact absurd (hidle.symm.trans hsuccess) PageStatus.noConfusion

theorem guarded_of_successIsPaid {backend : Backend} {history final : PageHistory}
    {attempts : List Attempt} (hknown : PaymentsKnown history.world.services)
    (hrun : run (pageStep backend) history attempts = some final) (hpaid : SuccessIsPaid final) :
    Guarded (pageStep backend) (Fails backend) history attempts := by
  induction attempts generalizing history with
  | nil => trivial
  | cons attempt attempts ih =>
      obtain ⟨next, hstep, hrest⟩ := run_cons_eq_some.mp hrun
      constructor
      · intro jwt browser orderId hcompletes
        obtain ⟨hsuccess, hunpaid⟩ := not_successIsPaid_of_completes hknown hcompletes hstep
        obtain rfl := run_success hsuccess hrest
        exact hunpaid hpaid
      · intro other hother
        obtain rfl := Option.some.inj (hstep.symm.trans hother)
        exact ih (paymentsKnown_step hstep hknown) hrest

/-- Whatever the services have stored, a run of the page keeps to "success
means paid" exactly when none of its attempts gets as far as success. -/
theorem successIsPaid_iff {backend : Backend} {cartItems : List LocalItem}
    {phone address : JString} {services : PaidOrders.World} {attempts : List Attempt}
    {final : PageHistory} (hknown : PaymentsKnown services)
    (hrun : run (pageStep backend) ⟨⟨.load cartItems phone address, services⟩, none⟩ attempts =
      some final) :
    SuccessIsPaid final ↔
      Guarded (pageStep backend) (Fails backend)
        ⟨⟨.load cartItems phone address, services⟩, none⟩ attempts := by
  constructor
  · intro hpaid
    exact guarded_of_successIsPaid hknown hrun hpaid
  · intro hfails hsuccess
    have hnot : final.world.page.status ≠ .success := by
      apply run_preserves _ _ hfails hrun
      · intro history attempt next _ hfails hstep
        exact status_of_fails hstep hfails
      · exact PageStatus.noConfusion
    exact absurd hsuccess hnot

theorem paymentsKnown_empty : PaymentsKnown .empty := by
  intro transaction hmem
  cases hmem

/-- An order that the server refuses leaves the page without success. -/
theorem successIsPaid_refused :
    ∃ final,
      run (pageStep plainBackend) ⟨laptopPage, none⟩ [{ plainAttempt with java := sampleJava }] =
          some final ∧
        final.world.page.status = .idle ∧
        Guarded (pageStep plainBackend) (Fails plainBackend) ⟨laptopPage, none⟩
          [{ plainAttempt with java := sampleJava }] := by
  obtain ⟨final, hrun, hcheck⟩ := (Option.any_eq_true _ _).mp
    (show (run (pageStep plainBackend) ⟨laptopPage, none⟩
        [{ plainAttempt with java := sampleJava }]).any
          (fun final => final.world.page.status == .idle) = true by
      decide +kernel)
  have hidle : final.world.page.status = .idle := beq_iff_eq.mp hcheck
  refine ⟨final, hrun, hidle, (successIsPaid_iff paymentsKnown_empty hrun).mp ?_⟩
  intro hsuccess
  exact absurd (hidle.symm.trans hsuccess) PageStatus.noConfusion

/-- An order that the server takes is announced as successful, and the payment
service holds no payment at all. -/
theorem successIsPaid_unpaid :
    ¬ ∀ (backend : Backend) (cartItems : List LocalItem) (phone address : JString)
      (services : PaidOrders.World) (attempts : List Attempt) (final : PageHistory),
      PaymentsKnown services →
      run (pageStep backend) ⟨⟨.load cartItems phone address, services⟩, none⟩ attempts =
        some final →
      SuccessIsPaid final := by
  intro hpaid
  obtain ⟨final, hrun, hcheck⟩ := (Option.any_eq_true _ _).mp
    (show (run (pageStep plainBackend) ⟨laptopPage, none⟩ [plainAttempt]).any (fun final =>
        final.world.page.status == .success &&
          final.world.services.payments.transactions.isEmpty) = true by
      decide +kernel)
  simp only [Bool.and_eq_true, beq_iff_eq, List.isEmpty_iff] at hcheck
  obtain ⟨hsuccess, hempty⟩ := hcheck
  obtain ⟨orderId, -, transaction, hmem, -⟩ :=
    hpaid plainBackend oneLaptop _ _ .empty _ final paymentsKnown_empty hrun hsuccess
  rw [hempty] at hmem
  cases hmem

end ShoppingWeb.Checkout
