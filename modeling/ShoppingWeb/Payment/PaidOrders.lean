import ShoppingWeb.Lib.TransitionSystem
import ShoppingWeb.Order.CreateOrderSpec
import ShoppingWeb.Payment.PaymentService

/-!
# Paid orders

Order service and payment service together.  The payment service saves its
transaction first and has the order marked second, but commits last, in its
own database.  A lost reply or a failing commit after the order has been
marked, and any user's own status update, leave a paid order without payment.
-/

namespace ShoppingWeb.PaidOrders

open ShoppingWeb.Utf16
open ShoppingWeb.Shared
open ShoppingWeb.OrderService
open ShoppingWeb.PaymentService
open ShoppingWeb.TransitionSystem
open Program

structure World where
  shop : ShopState
  payments : PaymentDatabase
  calls : List PaymentCall

def World.empty : World := ⟨.empty, .empty, []⟩

/-- The steps of `processPayment` name the call by its position. -/
inductive Event where
  /-- The cart service serves requests of its own in between. -/
  | changeCarts (cartStore : CartService.CartStore)
  | createOrder (environment : CreateOrderEnvironment) (request : CreateOrderRequest)
  | updateOrderStatus (id : ℤ) (status : JString)
  | fetchOrder (delivery : Delivery) (request : PaymentRequest)
  | saveTransaction (position : ℕ) (vault : Option (JString → Option JString)) (iv : Bytes)
      (fails : Bool)
  | saveAuditLog (position : ℕ) (fails : Bool)
  | updateStatus (position : ℕ) (delivery : Delivery)
  | commit (position : ℕ) (fails : Bool)

namespace World

def setStage (world : World) (position : ℕ) (request : PaymentRequest) (stage : PaymentStage) :
    World :=
  { world with calls := world.calls.set position ⟨request, stage⟩ }

def withShop (world : World) (shop : ShopState) : World := { world with shop }

/-- An open transaction holds the unique order id. -/
def isLocked (world : World) (orderId : ℤ) : Bool :=
  world.calls.any fun call =>
    call.stage.openTransaction.any fun transaction => transaction.orderId == orderId

/-- `transactionRepository.save`: the identity column counts on, and the order
id must be new. -/
def insertTransaction (world : World) (position : ℕ) (request : PaymentRequest)
    (transaction : Transaction) : World :=
  let world :=
    { world with
      payments :=
        { world.payments with nextTransactionId := world.payments.nextTransactionId + 1 } }
  if world.payments.transactions.any fun other => other.orderId == request.orderId then
    world.setStage position request .ended
  else world.setStage position request (.transactionSaved transaction)

def insertAuditLog (world : World) (position : ℕ) (request : PaymentRequest)
    (transaction : Transaction) : World :=
  let auditLog := newAuditLog request world.payments.nextAuditLogId
  let world :=
    { world with
      payments := { world.payments with nextAuditLogId := world.payments.nextAuditLogId + 1 } }
  world.setStage position request (.auditSaved transaction auditLog)

def commitRows (world : World) (transaction : Transaction) (auditLog : AuditLog) : World :=
  { world with
    payments :=
      { world.payments with
        transactions := world.payments.transactions ++ [transaction]
        auditLogs := world.payments.auditLogs ++ [auditLog] } }

/-- The request to mark the order, and what becomes of the call. -/
def markOrder (world : World) (position : ℕ) (request : PaymentRequest)
    (transaction : Transaction) (auditLog : AuditLog) : Delivery → World
  | .failsBefore => world.setStage position request .ended
  | .replyLost =>
      (world.setStage position request .ended).withShop
        (OrderService.updateOrderStatus request.orderId paid world.shop).2
  | .success =>
      match OrderService.updateOrderStatus request.orderId paid world.shop with
      | (.done, shop) =>
          (world.setStage position request (.statusUpdated transaction auditLog)).withShop shop
      | (_, shop) => (world.setStage position request .ended).withShop shop

end World

section System

variable (configuration : OrderConfiguration) (reader : AmountReader)

/-- `createOrder` appears at its commit, before which nobody sees its rows.  A
payment that finds the order id locked waits, unless its insert fails. -/
def step (world : World) : Event → Option World
  | .changeCarts cartStore => some (world.withShop { world.shop with cartStore })
  | .createOrder environment request =>
      some (world.withShop
        (exec (OrderService.createOrder configuration environment request) world.shop).2)
  | .updateOrderStatus id status =>
      some (world.withShop (OrderService.updateOrderStatus id status world.shop).2)
  | .fetchOrder delivery request =>
      match fetchAmount reader delivery request world.shop with
      | .error _ => some world
      | .ok amount => some { world with calls := world.calls ++ [⟨request, .orderFetched amount⟩] }
  | .saveTransaction position vault iv fails =>
      match world.calls[position]? with
      | some ⟨request, .orderFetched amount⟩ =>
          if fails then some (world.setStage position request .ended)
          else if world.isLocked request.orderId then none
          else
            some (world.insertTransaction position request
              (newTransaction request amount
                (encryptData configuration.crypto vault iv (logPayload request amount))
                world.payments.nextTransactionId))
      | _ => none
  | .saveAuditLog position fails =>
      match world.calls[position]? with
      | some ⟨request, .transactionSaved transaction⟩ =>
          if fails then some (world.setStage position request .ended)
          else some (world.insertAuditLog position request transaction)
      | _ => none
  | .updateStatus position delivery =>
      match world.calls[position]? with
      | some ⟨request, .auditSaved transaction auditLog⟩ =>
          some (world.markOrder position request transaction auditLog delivery)
      | _ => none
  | .commit position fails =>
      match world.calls[position]? with
      | some ⟨request, .statusUpdated transaction auditLog⟩ =>
          if fails then some (world.setStage position request .ended)
          else some ((world.commitRows transaction auditLog).setStage position request .ended)
      | _ => none

end System

/-- A successful transaction over the total of the order. -/
def Settles (transaction : Transaction) (order : Order) : Prop :=
  transaction.orderId = order.id ∧ transaction.status = js "SUCCESS" ∧
    transaction.amount.toRat = order.totalAmount.toRat

/-- No `processPayment` is in progress. -/
def World.IsQuiet (world : World) : Prop :=
  ∀ call ∈ world.calls, call.stage = .ended

/-- Every paid order has its committed transaction. -/
def PaidMeansPaid (world : World) : Prop :=
  ∀ order ∈ world.shop.tables.orders.rows, order.status = paid →
    ∃ transaction ∈ world.payments.transactions, Settles transaction order

/-- A user marks an order paid only when it is; the reply to the payment
service's own update arrives; and its commit fails only if the order has been
given another status since. -/
def MarksOnlyPaid (world : World) : Event → Prop
  | .updateOrderStatus id status =>
      status = paid → ∀ order ∈ world.shop.tables.orders.rows, order.id = id →
        order.status = paid ∨ ∃ transaction ∈ world.payments.transactions, Settles transaction order
  | .updateStatus _ delivery => delivery ≠ .replyLost
  | .commit position fails =>
      fails = true → ∀ call, world.calls[position]? = some call →
        ∀ order ∈ world.shop.tables.orders.rows, order.id = call.request.orderId →
          order.status ≠ paid
  | _ => True

/-! ## The invariant -/

/-- The order has the given total. -/
def HasTotal (tables : OrderTables) (orderId : ℤ) (amount : BigDecimal) : Prop :=
  ∃ order ∈ tables.orders.rows, order.id = orderId ∧ amount.toRat = order.totalAmount.toRat

/-- The call's amount is the total of its order. -/
def PaysTotal (tables : OrderTables) (call : PaymentCall) : Prop :=
  match call.stage with
  | .orderFetched amount => HasTotal tables call.request.orderId amount
  | .transactionSaved transaction | .auditSaved transaction _ | .statusUpdated transaction _ =>
      transaction.orderId = call.request.orderId ∧ transaction.status = js "SUCCESS" ∧
        HasTotal tables transaction.orderId transaction.amount
  | .ended => True

/-- The call has marked the order and is about to commit its transaction. -/
def Backs (call : PaymentCall) (order : Order) : Prop :=
  ∃ transaction auditLog, call.stage = .statusUpdated transaction auditLog ∧
    Settles transaction order

/-- The order is paid for by a transaction that is committed or about to be. -/
def IsBacked (world : World) (order : Order) : Prop :=
  (∃ transaction ∈ world.payments.transactions, Settles transaction order) ∨
    ∃ call ∈ world.calls, Backs call order

structure Accounted (world : World) : Prop where
  paysTotal : ∀ call ∈ world.calls, PaysTotal world.shop.tables call
  backed : ∀ order ∈ world.shop.tables.orders.rows, order.status = paid → IsBacked world order

/-- No order disappears or changes its total. -/
def KeepsTotals (before after : OrderTables) : Prop :=
  ∀ order ∈ before.orders.rows, ∃ kept ∈ after.orders.rows,
    kept.id = order.id ∧ kept.totalAmount = order.totalAmount

theorem HasTotal.mono {before after : OrderTables} (hkeeps : KeepsTotals before after)
    {orderId : ℤ} {amount : BigDecimal} (htotal : HasTotal before orderId amount) :
    HasTotal after orderId amount := by
  obtain ⟨order, horder, rfl, hamount⟩ := htotal
  obtain ⟨kept, hkept, hid, heq⟩ := hkeeps order horder
  exact ⟨kept, hkept, hid, by rw [heq, hamount]⟩

theorem PaysTotal.mono {before after : OrderTables} (hkeeps : KeepsTotals before after)
    {call : PaymentCall} (hcall : PaysTotal before call) : PaysTotal after call := by
  obtain ⟨request, stage⟩ := call
  cases stage with
  | orderFetched amount => exact HasTotal.mono hkeeps hcall
  | transactionSaved _ | auditSaved _ _ | statusUpdated _ _ =>
      exact ⟨hcall.1, hcall.2.1, hcall.2.2.mono hkeeps⟩
  | ended => trivial

/-- Changes of the order service are accounted for when totals stay and every
paid order is backed. -/
theorem accounted_withShop {world : World} {shop : ShopState} (hworld : Accounted world)
    (hkeeps : KeepsTotals world.shop.tables shop.tables)
    (hbacked : ∀ order ∈ shop.tables.orders.rows, order.status = paid → IsBacked world order) :
    Accounted (world.withShop shop) where
  paysTotal call hcall := (hworld.paysTotal call hcall).mono hkeeps
  backed := hbacked

theorem accounted_createOrder {world : World} (hworld : Accounted world)
    (configuration : OrderConfiguration) (environment : CreateOrderEnvironment)
    (request : CreateOrderRequest) :
    Accounted (world.withShop
      (exec (OrderService.createOrder configuration environment request) world.shop).2) := by
  rcases orders_createOrder configuration environment request world.shop with
    hsame | ⟨created, hstatus, hnew⟩
  · apply accounted_withShop hworld (fun order horder => ⟨order, by rwa [hsame], rfl, rfl⟩)
    rw [hsame]
    exact hworld.backed
  · refine accounted_withShop hworld (fun order horder => ⟨order, ?_, rfl, rfl⟩) ?_
    · rw [hnew]
      exact List.mem_append_left _ horder
    · intro order horder hpaid
      rw [hnew] at horder
      rcases List.mem_append.mp horder with hold | hcreated
      · exact hworld.backed order hold hpaid
      · rw [List.mem_singleton.mp hcreated, hstatus] at hpaid
        exact absurd hpaid (by decide)

/-- Settling an order does not depend on its status. -/
theorem isBacked_status {world : World} {order : Order} {status : JString}
    (hbacked : IsBacked world order) : IsBacked world { order with status } := hbacked

theorem accounted_updateOrderStatus {world : World} {id : ℤ} {status : JString}
    (hworld : Accounted world)
    (hpaid : status = paid → ∀ order ∈ world.shop.tables.orders.rows, order.id = id →
      IsBacked world order) :
    Accounted (world.withShop (OrderService.updateOrderStatus id status world.shop).2) := by
  rcases updateOrderStatus_cases id status world.shop with ⟨-, hsame⟩ | ⟨found, -, hchanged⟩
  · rw [hsame]
    exact hworld
  · rw [hchanged]
    refine accounted_withShop hworld (fun order horder => ?_) fun order horder hstatus => ?_
    · refine ⟨_, List.mem_map_of_mem horder, ?_⟩
      split
      · exact ⟨rfl, rfl⟩
      · exact ⟨rfl, rfl⟩
    · rcases OrderTables.mem_saveStatus horder with ⟨hold, -⟩ | ⟨old, hold, hid, rfl⟩
      · exact hworld.backed order hold hstatus
      · exact isBacked_status (hpaid hstatus old hold hid)

/-- What leaves a list when an element is replaced. -/
theorem mem_set_or_eq {Item : Type} {items : List Item} {position : ℕ} {old item : Item}
    (hold : items[position]? = some old) (hitem : item ∈ items) (new : Item) :
    item ∈ items.set position new ∨ item = old := by
  obtain ⟨index, hindex, rfl⟩ := List.getElem_of_mem hitem
  by_cases hposition : position = index
  · subst hposition
    exact Or.inr (Option.some.inj ((List.getElem?_eq_getElem hindex).symm.trans hold))
  · left
    rw [List.mem_iff_getElem]
    exact ⟨index, by simpa using hindex, by rw [List.getElem_set_ne hposition]⟩

theorem accounted_withPayments {world : World} (hworld : Accounted world)
    (payments : PaymentDatabase)
    (hkept : world.payments.transactions ⊆ payments.transactions) :
    Accounted { world with payments } where
  paysTotal := hworld.paysTotal
  backed order horder hpaid := by
    rcases hworld.backed order horder hpaid with ⟨transaction, hmem, hsettles⟩ | hcall
    · exact Or.inl ⟨transaction, hkept hmem, hsettles⟩
    · exact Or.inr hcall

/-- A call moves on.  The orders it has marked must be paid for by now. -/
theorem accounted_setStage {world : World} {position : ℕ} {request : PaymentRequest}
    {before stage : PaymentStage} (hworld : Accounted world)
    (hcall : world.calls[position]? = some ⟨request, before⟩)
    (hpays : PaysTotal world.shop.tables ⟨request, stage⟩)
    (hmarked : ∀ order ∈ world.shop.tables.orders.rows, order.status = paid →
      Backs ⟨request, before⟩ order →
      ∃ transaction ∈ world.payments.transactions, Settles transaction order) :
    Accounted (world.setStage position request stage) where
  paysTotal other hother := by
    rcases List.mem_or_eq_of_mem_set hother with hold | rfl
    · exact hworld.paysTotal other hold
    · exact hpays
  backed order horder hpaid := by
    rcases hworld.backed order horder hpaid with hcommitted | ⟨other, hother, hbacks⟩
    · exact Or.inl hcommitted
    · rcases mem_set_or_eq hcall hother ⟨request, stage⟩ with hkept | rfl
      · exact Or.inr ⟨other, hkept, hbacks⟩
      · exact Or.inl (hmarked order horder hpaid hbacks)

/-- A call that has not marked its order may move on freely. -/
theorem accounted_advance {world : World} {position : ℕ} {request : PaymentRequest}
    {before stage : PaymentStage} (hworld : Accounted world)
    (hcall : world.calls[position]? = some ⟨request, before⟩)
    (hbefore : ∀ transaction auditLog, before ≠ .statusUpdated transaction auditLog)
    (hpays : PaysTotal world.shop.tables ⟨request, stage⟩) :
    Accounted (world.setStage position request stage) := by
  apply accounted_setStage hworld hcall hpays
  intro order _ _ hbacks
  obtain ⟨transaction, auditLog, heq, -⟩ := hbacks
  exact absurd heq (hbefore transaction auditLog)

section Steps

variable {configuration : OrderConfiguration} {reader : AmountReader} {world next : World}

theorem accounted_fetchOrder {delivery : Delivery} {request : PaymentRequest}
    (hworld : Accounted world)
    (hstep : step configuration reader world (.fetchOrder delivery request) = some next) :
    Accounted next := by
  simp only [step] at hstep
  split at hstep
  · obtain rfl := Option.some.inj hstep
    exact hworld
  · rename_i amount hfetch
    obtain rfl := Option.some.inj hstep
    obtain ⟨order, hfind, -, hamount⟩ := fetchAmount_ok hfetch
    obtain ⟨horder, hid⟩ := world.shop.tables.orders.find?_eq_some_iff.mp hfind
    constructor
    · intro call hcall
      rcases List.mem_append.mp hcall with hold | hnew
      · exact hworld.paysTotal call hold
      · rw [List.mem_singleton.mp hnew]
        exact ⟨order, horder, hid, hamount⟩
    · intro order horder hpaid
      rcases hworld.backed order horder hpaid with hcommitted | ⟨call, hcall, hbacks⟩
      · exact Or.inl hcommitted
      · exact Or.inr ⟨call, List.mem_append_left _ hcall, hbacks⟩

theorem accounted_saveTransaction {position : ℕ} {vault : Option (JString → Option JString)}
    {iv : Bytes} {fails : Bool} (hworld : Accounted world)
    (hstep : step configuration reader world (.saveTransaction position vault iv fails) =
      some next) : Accounted next := by
  simp only [step] at hstep
  split at hstep
  · rename_i request amount hcall
    have htotal : HasTotal world.shop.tables request.orderId amount :=
      hworld.paysTotal _ (List.mem_of_getElem? hcall)
    split at hstep
    · obtain rfl := Option.some.inj hstep
      exact accounted_advance hworld hcall (by simp) trivial
    · split at hstep
      · cases hstep
      · obtain rfl := Option.some.inj hstep
        have hcounted := accounted_withPayments hworld
          { world.payments with nextTransactionId := world.payments.nextTransactionId + 1 }
          (List.Subset.refl _)
        simp only [World.insertTransaction]
        split
        · exact accounted_advance hcounted hcall (by simp) trivial
        · exact accounted_advance hcounted hcall (by simp) ⟨rfl, rfl, htotal⟩
  · cases hstep

theorem accounted_saveAuditLog {position : ℕ} {fails : Bool} (hworld : Accounted world)
    (hstep : step configuration reader world (.saveAuditLog position fails) = some next) :
    Accounted next := by
  simp only [step] at hstep
  split at hstep
  · rename_i request transaction hcall
    have hpays := hworld.paysTotal _ (List.mem_of_getElem? hcall)
    split at hstep
    · obtain rfl := Option.some.inj hstep
      exact accounted_advance hworld hcall (by simp) trivial
    · obtain rfl := Option.some.inj hstep
      have hcounted := accounted_withPayments hworld
        { world.payments with nextAuditLogId := world.payments.nextAuditLogId + 1 }
        (List.Subset.refl _)
      exact accounted_advance hcounted hcall (by simp) hpays
  · cases hstep

/-- The call is moved to its new stage before the order changes, so that its
transaction backs the order when the status does. -/
theorem accounted_markOrder {position : ℕ} {request : PaymentRequest}
    {transaction : Transaction} {auditLog : AuditLog} (hworld : Accounted world)
    (hcall : world.calls[position]? = some ⟨request, .auditSaved transaction auditLog⟩) :
    Accounted ((world.setStage position request (.statusUpdated transaction auditLog)).withShop
      (OrderService.updateOrderStatus request.orderId paid world.shop).2) := by
  have hpays := hworld.paysTotal _ (List.mem_of_getElem? hcall)
  have hmoved : Accounted (world.setStage position request (.statusUpdated transaction auditLog)) :=
    accounted_advance hworld hcall (by simp) hpays
  refine accounted_updateOrderStatus hmoved fun _ order horder hid => Or.inr ?_
  obtain ⟨horderId, hstatus, other, hother, hsame, hamount⟩ := hpays
  have hpaidId : transaction.orderId = order.id := horderId.trans hid.symm
  obtain rfl : other = order :=
    world.shop.tables.orders.row_unique hother horder (hsame.trans hpaidId)
  exact ⟨⟨request, .statusUpdated transaction auditLog⟩,
    List.mem_set (List.getElem?_eq_some_iff.mp hcall).1 _, transaction, auditLog, rfl,
    hpaidId, hstatus, hamount⟩

theorem accounted_updateStatus {position : ℕ} {delivery : Delivery} (hworld : Accounted world)
    (hmarks : MarksOnlyPaid world (.updateStatus position delivery))
    (hstep : step configuration reader world (.updateStatus position delivery) = some next) :
    Accounted next := by
  simp only [step] at hstep
  split at hstep
  · rename_i request transaction auditLog hcall
    obtain rfl := Option.some.inj hstep
    cases delivery with
    | failsBefore => exact accounted_advance hworld hcall (by simp) trivial
    | replyLost => exact absurd rfl hmarks
    | success =>
        have hmarked := accounted_markOrder hworld hcall
        simp only [World.markOrder]
        rcases updateOrderStatus_cases request.orderId paid world.shop with
          ⟨-, hsame⟩ | ⟨order, -, hchanged⟩
        · rw [hsame]
          exact accounted_advance hworld hcall (by simp) trivial
        · rw [hchanged] at hmarked ⊢
          exact hmarked
  · cases hstep

theorem accounted_commit {position : ℕ} {fails : Bool} (hworld : Accounted world)
    (hmarks : MarksOnlyPaid world (.commit position fails))
    (hstep : step configuration reader world (.commit position fails) = some next) :
    Accounted next := by
  simp only [step] at hstep
  split at hstep
  · rename_i request transaction auditLog hcall
    have hpays := hworld.paysTotal _ (List.mem_of_getElem? hcall)
    split at hstep
    · rename_i hfails
      obtain rfl := Option.some.inj hstep
      refine accounted_setStage hworld hcall trivial fun order horder hpaid hbacks => ?_
      obtain ⟨_, _, heq, hsettles⟩ := hbacks
      obtain ⟨rfl, -⟩ := PaymentStage.statusUpdated.inj heq
      exact absurd hpaid (hmarks hfails _ hcall order horder (hsettles.1.symm.trans hpays.1))
    · obtain rfl := Option.some.inj hstep
      have hcommitted : Accounted (world.commitRows transaction auditLog) :=
        accounted_withPayments hworld _ (List.subset_append_left _ _)
      refine accounted_setStage hcommitted hcall trivial fun order horder hpaid hbacks => ?_
      obtain ⟨_, _, heq, hsettles⟩ := hbacks
      obtain ⟨rfl, -⟩ := PaymentStage.statusUpdated.inj heq
      exact ⟨transaction, List.mem_append_right _ (List.mem_singleton.mpr rfl), hsettles⟩
  · cases hstep

theorem accounted_step {event : Event} (hworld : Accounted world)
    (hmarks : MarksOnlyPaid world event)
    (hstep : step configuration reader world event = some next) : Accounted next := by
  cases event with
  | changeCarts cartStore =>
      obtain rfl := Option.some.inj hstep
      exact accounted_withShop hworld (fun order horder => ⟨order, horder, rfl, rfl⟩) hworld.backed
  | createOrder environment request =>
      obtain rfl := Option.some.inj hstep
      exact accounted_createOrder hworld configuration environment request
  | updateOrderStatus id status =>
      obtain rfl := Option.some.inj hstep
      apply accounted_updateOrderStatus hworld
      intro hpaid order horder hid
      rcases hmarks hpaid order horder hid with halready | hcommitted
      · exact hworld.backed order horder halready
      · exact Or.inl hcommitted
  | fetchOrder delivery request => exact accounted_fetchOrder hworld hstep
  | saveTransaction position vault iv fails => exact accounted_saveTransaction hworld hstep
  | saveAuditLog position fails => exact accounted_saveAuditLog hworld hstep
  | updateStatus position delivery => exact accounted_updateStatus hworld hmarks hstep
  | commit position fails => exact accounted_commit hworld hmarks hstep

end Steps

/-! ## Runs -/

theorem accounted_empty : Accounted .empty where
  paysTotal _ hcall := absurd hcall List.not_mem_nil
  backed _ horder := absurd horder List.not_mem_nil

/-- In every quiet state of a run that meets the condition, PAID means paid. -/
theorem paid_means_paid (configuration : OrderConfiguration) (reader : AmountReader)
    (events : List Event) (final : World)
    (hmarks : Guarded (step configuration reader) MarksOnlyPaid .empty events)
    (hrun : run (step configuration reader) .empty events = some final)
    (hquiet : final.IsQuiet) : PaidMeansPaid final := by
  have hfinal : Accounted final :=
    run_preserves (fun _ _ _ hworld hguard hnext => accounted_step hworld hguard hnext)
      accounted_empty hmarks hrun
  intro order horder hpaid
  rcases hfinal.backed order horder hpaid with hcommitted | ⟨call, hcall, _, _, hstage, -⟩
  · exact hcommitted
  · rw [hquiet call hcall] at hstage
    cases hstage

/-- A reader that prints every amount canonically. -/
def plainReader : AmountReader where
  text := BigDecimal.toText
  exact amount := by rw [BigDecimal.ofText_toText]

/-- The user puts two laptops in the cart and orders them. -/
def purchase : List Event :=
  [.changeCarts (CartService.CartStore.empty.addItemToCart (js "alice") 7 2),
    .createOrder (smoothEnvironment laptop) (plainRequest (js "alice"))]

def purchasePayment : PaymentRequest where
  orderId := 1
  paymentToken := js "tok"
  caller := js "alice"
  hmacSignature := none
  ipAddress := some (js "203.0.113.7")
  userAgent := some (js "Mozilla/5.0")

/-- The user pays, and marks the paid order once more. -/
def paidPurchase : List Event :=
  purchase ++
    [.fetchOrder .success purchasePayment, .saveTransaction 0 none [] false,
      .saveAuditLog 0 false, .updateStatus 0 .success, .commit 0 false,
      .updateOrderStatus 1 paid]

/-- The condition, evaluated where it is met plainly. -/
def checkMarks (world : World) : Event → Bool
  | .updateOrderStatus id status =>
      status != paid || world.shop.tables.orders.rows.all fun order =>
        order.id != id || order.status == paid
  | .updateStatus _ delivery => delivery != .replyLost
  | .commit _ fails => !fails
  | _ => true

theorem marksOnlyPaid_of_checkMarks {world : World} {event : Event}
    (hcheck : checkMarks world event = true) : MarksOnlyPaid world event := by
  cases event with
  | updateOrderStatus id status =>
      intro hpaid order horder hid
      simp only [checkMarks, hpaid, bne_self_eq_false, Bool.false_or, List.all_eq_true] at hcheck
      have horderCheck := hcheck order horder
      simp only [hid, bne_self_eq_false, Bool.false_or, beq_iff_eq] at horderCheck
      exact Or.inl horderCheck
  | updateStatus position delivery => simpa [checkMarks, MarksOnlyPaid] using hcheck
  | commit position fails =>
      intro hfails
      simp [checkMarks, hfails] at hcheck
  | _ => trivial

theorem isQuiet_of_all {world : World}
    (hcalls : world.calls.all (fun call => call.stage == .ended) = true) : world.IsQuiet :=
  fun call hcall => by simpa using List.all_eq_true.mp hcalls call hcall

theorem paidPurchase_paid :
    ∃ final, run (step plainConfiguration plainReader) .empty paidPurchase = some final ∧
      (∃ order ∈ final.shop.tables.orders.rows, order.status = paid) ∧ PaidMeansPaid final := by
  obtain ⟨final, hrun, hcheck⟩ := (Option.any_eq_true _ _).mp
    (show (run (step plainConfiguration plainReader) .empty paidPurchase).any (fun world =>
      (world.calls.all fun call => call.stage == .ended) &&
        world.shop.tables.orders.rows.any fun order => order.status == paid) = true by
        decide +kernel)
  simp only [Bool.and_eq_true] at hcheck
  obtain ⟨order, horder, hpaid⟩ := List.any_eq_true.mp hcheck.2
  exact ⟨final, hrun, ⟨order, horder, by simpa using hpaid⟩,
    paid_means_paid plainConfiguration plainReader paidPurchase final
      (guarded_of_checkGuarded (fun _ _ => marksOnlyPaid_of_checkMarks) (by decide +kernel)) hrun
      (isQuiet_of_all hcheck.1)⟩

/-- Any user marks the order paid; nobody pays. -/
def unpaidPurchase : List Event := purchase ++ [.updateOrderStatus 1 paid]

theorem unpaidPurchase_paid :
    ¬ ∀ (configuration : OrderConfiguration) (reader : AmountReader) (events : List Event)
      (final : World), run (step configuration reader) .empty events = some final →
      final.IsQuiet → PaidMeansPaid final := by
  intro hmeans
  obtain ⟨final, hrun, hcheck⟩ := (Option.any_eq_true _ _).mp
    (show (run (step plainConfiguration plainReader) .empty unpaidPurchase).any (fun world =>
      world.calls.isEmpty && world.payments.transactions.isEmpty &&
        world.shop.tables.orders.rows.any fun order => order.status == paid) = true by
        decide +kernel)
  simp only [Bool.and_eq_true, List.isEmpty_iff] at hcheck
  obtain ⟨⟨hcalls, htransactions⟩, horders⟩ := hcheck
  obtain ⟨order, horder, hpaid⟩ := List.any_eq_true.mp horders
  obtain ⟨transaction, hmem, -⟩ := hmeans plainConfiguration plainReader unpaidPurchase final hrun
    (fun call hcall => by rw [hcalls] at hcall; exact absurd hcall List.not_mem_nil) order horder
    (by simpa using hpaid)
  rw [htransactions] at hmem
  exact absurd hmem List.not_mem_nil

end ShoppingWeb.PaidOrders
