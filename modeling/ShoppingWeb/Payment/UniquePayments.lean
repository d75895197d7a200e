import ShoppingWeb.Payment.PaidOrders

/-!
# Unique payments

The interleaved calls of `processPayment`, observed together with the orders
as `createOrder` saved them and with the requests whose transactions have been
committed.  An open transaction holds its order id, so no two calls can commit
for one order, and what a call commits was fetched from its caller's order.
-/

namespace ShoppingWeb.PaidOrders

open ShoppingWeb.Utf16
open ShoppingWeb.Shared
open ShoppingWeb.OrderService
open ShoppingWeb.PaymentService
open ShoppingWeb.TransitionSystem
open Program

/-- The two services, the orders saved so far, and the committed transactions
with the requests they were made for. -/
structure PaymentHistory where
  world : World
  created : List Order
  committed : List (PaymentRequest × Transaction)

def PaymentHistory.empty : PaymentHistory := ⟨.empty, [], []⟩

section System

variable (configuration : OrderConfiguration) (reader : AmountReader)

def createdBy (world : World) : Event → List Order
  | .createOrder environment request =>
      returnedOrder
        (exec (OrderService.createOrder configuration environment request) world.shop).1
  | _ => []

def committedBy (world : World) : Event → List (PaymentRequest × Transaction)
  | .commit position false =>
      match world.calls[position]? with
      | some ⟨request, .statusUpdated transaction _⟩ => [(request, transaction)]
      | _ => []
  | _ => []

def historyStep (history : PaymentHistory) (event : Event) : Option PaymentHistory :=
  (step configuration reader history.world event).map fun world =>
    { world
      created := history.created ++ createdBy configuration history.world event
      committed := history.committed ++ committedBy history.world event }

/-- Observing a run does not change it. -/
theorem run_historyStep_world (events : List Event) :
    (run (historyStep configuration reader) .empty events).map PaymentHistory.world =
      run (step configuration reader) .empty events := by
  apply run_map
  intro history event
  simp only [historyStep, Option.map_map]
  exact congrFun Option.map_id _

end System

/-- An order as it was saved, whatever its status has become. -/
def withoutStatus (order : Order) : Order := { order with status := [] }

theorem withoutStatus_updateOrderStatus (id : ℤ) (status : JString) (shop : ShopState) :
    (OrderService.updateOrderStatus id status shop).2.tables.orders.rows.map withoutStatus =
      shop.tables.orders.rows.map withoutStatus := by
  rcases updateOrderStatus_cases id status shop with ⟨-, hsame⟩ | ⟨order, -, hchanged⟩
  · rw [hsame]
  · rw [hchanged]
    show ((shop.tables.orders.rows.map _).map withoutStatus) = _
    rw [List.map_map]
    apply List.map_congr_left
    intro order _
    simp only [Function.comp_apply]
    split
    · rfl
    · rfl

/-- The amount is the total of an order that was saved for the caller. -/
def PaysOwnOrder (created : List Order) (request : PaymentRequest) (amount : BigDecimal) : Prop :=
  ∃ order ∈ created, order.id = request.orderId ∧ order.userId = request.caller ∧
    amount.toRat = order.totalAmount.toRat

/-- The transaction is for the order of the request, over its total. -/
def IsPaymentOf (created : List Order) (request : PaymentRequest) (transaction : Transaction) :
    Prop :=
  transaction.orderId = request.orderId ∧ PaysOwnOrder created request transaction.amount

/-- The committed transactions, in one state of a run. -/
structure UniqueAndFaithful (history : PaymentHistory) : Prop where
  observed : history.world.payments.transactions = history.committed.map Prod.snd
  unique : (history.world.payments.transactions.map Transaction.orderId).Nodup
  ordersDistinct : (history.created.map Order.id).Nodup
  faithful : ∀ entry ∈ history.committed, IsPaymentOf history.created entry.1 entry.2

/-- The call at a position has an open transaction for the order. -/
def Holds (world : World) (position : ℕ) (orderId : ℤ) : Prop :=
  ∃ call transaction, world.calls[position]? = some call ∧
    call.stage.openTransaction = some transaction ∧ transaction.orderId = orderId

/-- What a call carries belongs to an order of its caller. -/
def CallPays (created : List Order) (request : PaymentRequest) (stage : PaymentStage) : Prop :=
  (∀ amount, stage = .orderFetched amount → PaysOwnOrder created request amount) ∧
    ∀ transaction, stage.openTransaction = some transaction →
      IsPaymentOf created request transaction

structure Faithful (history : PaymentHistory) : Prop where
  ordersKept : history.world.shop.tables.orders.rows.map withoutStatus =
    history.created.map withoutStatus
  observed : history.world.payments.transactions = history.committed.map Prod.snd
  callsPay : ∀ call ∈ history.world.calls, CallPays history.created call.request call.stage
  committedPay : ∀ entry ∈ history.committed, IsPaymentOf history.created entry.1 entry.2
  unique : (history.world.payments.transactions.map Transaction.orderId).Nodup
  heldOnce : ∀ {left right orderId}, Holds history.world left orderId →
    Holds history.world right orderId → left = right
  heldUncommitted : ∀ {position orderId}, Holds history.world position orderId →
    ∀ transaction ∈ history.world.payments.transactions, transaction.orderId ≠ orderId

theorem faithful_empty : Faithful .empty where
  ordersKept := rfl
  observed := rfl
  callsPay _ hcall := absurd hcall List.not_mem_nil
  committedPay _ hentry := absurd hentry List.not_mem_nil
  unique := List.nodup_nil
  heldOnce := by
    rintro left right orderId ⟨call, transaction, hcall, -⟩ -
    cases hcall
  heldUncommitted := by
    rintro position orderId ⟨call, transaction, hcall, -⟩ -
    cases hcall

theorem PaysOwnOrder.mono {created : List Order} {request : PaymentRequest}
    {amount : BigDecimal} (hpays : PaysOwnOrder created request amount) (more : List Order) :
    PaysOwnOrder (created ++ more) request amount := by
  obtain ⟨order, horder, hrest⟩ := hpays
  exact ⟨order, List.mem_append_left _ horder, hrest⟩

theorem IsPaymentOf.mono {created : List Order} {request : PaymentRequest}
    {transaction : Transaction} (hpayment : IsPaymentOf created request transaction)
    (more : List Order) : IsPaymentOf (created ++ more) request transaction :=
  ⟨hpayment.1, hpayment.2.mono more⟩

theorem CallPays.mono {created : List Order} {request : PaymentRequest} {stage : PaymentStage}
    (hcall : CallPays created request stage) (more : List Order) :
    CallPays (created ++ more) request stage :=
  ⟨fun amount hamount => (hcall.1 amount hamount).mono more,
    fun transaction hopen => (hcall.2 transaction hopen).mono more⟩

/-- An order in the database was saved with the same owner and total. -/
theorem Faithful.paysOwnOrder {history : PaymentHistory} (hfaithful : Faithful history)
    {request : PaymentRequest} {amount : BigDecimal} {order : Order}
    (horder : order ∈ history.world.shop.tables.orders.rows) (hid : order.id = request.orderId)
    (howner : order.userId = request.caller) (hamount : amount.toRat = order.totalAmount.toRat) :
    PaysOwnOrder history.created request amount := by
  have hkept : withoutStatus order ∈ history.created.map withoutStatus := by
    rw [← hfaithful.ordersKept]
    exact List.mem_map_of_mem horder
  obtain ⟨saved, hsaved, hsame⟩ := List.mem_map.mp hkept
  simp only [withoutStatus, Order.mk.injEq] at hsame
  obtain ⟨hsavedId, -, hsavedOwner, hsavedTotal, -⟩ := hsame
  exact ⟨saved, hsaved, hsavedId.trans hid, hsavedOwner.trans howner, by rw [hsavedTotal, hamount]⟩

/-! ## Steps of the order service -/

/-- The order service may change statuses and carts. -/
theorem faithful_withShop {history : PaymentHistory} (hfaithful : Faithful history)
    {shop : ShopState} (hkept : shop.tables.orders.rows.map withoutStatus =
      history.world.shop.tables.orders.rows.map withoutStatus) :
    Faithful { history with world := history.world.withShop shop } where
  ordersKept := hkept.trans hfaithful.ordersKept
  observed := hfaithful.observed
  callsPay := hfaithful.callsPay
  committedPay := hfaithful.committedPay
  unique := hfaithful.unique
  heldOnce := hfaithful.heldOnce
  heldUncommitted := hfaithful.heldUncommitted

/-- New orders are saved. -/
theorem faithful_created {history : PaymentHistory} (hfaithful : Faithful history)
    {shop : ShopState} {created : List Order}
    (hrows : shop.tables.orders.rows = history.world.shop.tables.orders.rows ++ created) :
    Faithful
      { history with
        world := history.world.withShop shop
        created := history.created ++ created } where
  ordersKept := by
    show shop.tables.orders.rows.map withoutStatus = _
    rw [hrows, List.map_append, List.map_append, hfaithful.ordersKept]
  observed := hfaithful.observed
  callsPay call hcall := (hfaithful.callsPay call hcall).mono created
  committedPay entry hentry := (hfaithful.committedPay entry hentry).mono created
  unique := hfaithful.unique
  heldOnce := hfaithful.heldOnce
  heldUncommitted := hfaithful.heldUncommitted

/-- Only the identity columns have counted on. -/
theorem faithful_withPayments {history : PaymentHistory} (hfaithful : Faithful history)
    {payments : PaymentDatabase}
    (hsame : payments.transactions = history.world.payments.transactions) :
    Faithful { history with world := { history.world with payments } } where
  ordersKept := hfaithful.ordersKept
  observed := hsame.trans hfaithful.observed
  callsPay := hfaithful.callsPay
  committedPay := hfaithful.committedPay
  unique := by
    rw [hsame]
    exact hfaithful.unique
  heldOnce := hfaithful.heldOnce
  heldUncommitted := by
    rw [hsame]
    exact hfaithful.heldUncommitted

theorem holds_setStage {world : World} {position other : ℕ} {request : PaymentRequest}
    {stage : PaymentStage} {orderId : ℤ}
    (hholds : Holds (world.setStage position request stage) other orderId) :
    (other = position ∧ ∃ transaction, stage.openTransaction = some transaction ∧
      transaction.orderId = orderId) ∨ Holds world other orderId := by
  obtain ⟨call, transaction, hcall, hopen, horder⟩ := hholds
  simp only [World.setStage, List.getElem?_set] at hcall
  split at hcall
  · rename_i hposition
    split at hcall
    · obtain rfl := Option.some.inj hcall
      exact Or.inl ⟨hposition.symm, transaction, hopen, horder⟩
    · cases hcall
  · exact Or.inr ⟨call, transaction, hcall, hopen, horder⟩

/-- A call moves on.  The order of its transaction is one that it holds
already, or one that is free. -/
theorem faithful_setStage {history : PaymentHistory} (hfaithful : Faithful history)
    {position : ℕ} {request : PaymentRequest} {stage : PaymentStage}
    (hpays : CallPays history.created request stage)
    (hmay : ∀ transaction, stage.openTransaction = some transaction →
      Holds history.world position transaction.orderId ∨
        (∀ other, ¬ Holds history.world other transaction.orderId) ∧
          ∀ committed ∈ history.world.payments.transactions,
            committed.orderId ≠ transaction.orderId) :
    Faithful { history with world := history.world.setStage position request stage } where
  ordersKept := hfaithful.ordersKept
  observed := hfaithful.observed
  callsPay call hcall := by
    rcases List.mem_or_eq_of_mem_set hcall with hold | rfl
    · exact hfaithful.callsPay call hold
    · exact hpays
  committedPay := hfaithful.committedPay
  unique := hfaithful.unique
  heldOnce := by
    intro left right orderId hleft hright
    rcases holds_setStage hleft with ⟨rfl, transaction, hopen, rfl⟩ | hleftHeld
    · rcases holds_setStage hright with ⟨hsame, -⟩ | hrightHeld
      · exact hsame.symm
      · rcases hmay transaction hopen with hheld | ⟨hfree, -⟩
        · exact hfaithful.heldOnce hheld hrightHeld
        · exact absurd hrightHeld (hfree right)
    · rcases holds_setStage hright with ⟨rfl, transaction, hopen, rfl⟩ | hrightHeld
      · rcases hmay transaction hopen with hheld | ⟨hfree, -⟩
        · exact hfaithful.heldOnce hleftHeld hheld
        · exact absurd hleftHeld (hfree left)
      · exact hfaithful.heldOnce hleftHeld hrightHeld
  heldUncommitted := by
    intro other orderId hholds
    rcases holds_setStage hholds with ⟨rfl, transaction, hopen, rfl⟩ | hheld
    · rcases hmay transaction hopen with hheld | ⟨-, huncommitted⟩
      · exact hfaithful.heldUncommitted hheld
      · exact huncommitted
    · exact hfaithful.heldUncommitted hheld

theorem faithful_ended {history : PaymentHistory} (hfaithful : Faithful history) (position : ℕ)
    (request : PaymentRequest) :
    Faithful { history with world := history.world.setStage position request .ended } := by
  apply faithful_setStage hfaithful
  · constructor
    · intro amount hamount
      cases hamount
    · intro transaction hopen
      cases hopen
  · intro transaction hopen
    cases hopen

/-- A call moves on with the transaction it has. -/
theorem faithful_advance {history : PaymentHistory} (hfaithful : Faithful history)
    {position : ℕ} {request : PaymentRequest} {before stage : PaymentStage}
    {transaction : Transaction}
    (hcall : history.world.calls[position]? = some ⟨request, before⟩)
    (hbefore : before.openTransaction = some transaction)
    (hstage : stage.openTransaction = some transaction) :
    Faithful { history with world := history.world.setStage position request stage } := by
  have hpays := (hfaithful.callsPay _ (List.mem_of_getElem? hcall)).2 transaction hbefore
  apply faithful_setStage hfaithful
  · constructor
    · intro amount hamount
      rw [hamount] at hstage
      cases hstage
    · intro other hother
      obtain rfl := Option.some.inj (hstage.symm.trans hother)
      exact hpays
  · intro other hother
    obtain rfl := Option.some.inj (hstage.symm.trans hother)
    exact Or.inl ⟨_, transaction, hcall, hbefore, rfl⟩

theorem not_holds_of_not_isLocked {world : World} {orderId : ℤ}
    (hlocked : ¬ world.isLocked orderId = true) (position : ℕ) :
    ¬ Holds world position orderId := by
  rintro ⟨call, transaction, hcall, hopen, horder⟩
  apply hlocked
  simp only [World.isLocked, List.any_eq_true]
  exact ⟨call, List.mem_of_getElem? hcall, by simp [hopen, horder]⟩

section Steps

variable {configuration : OrderConfiguration} {reader : AmountReader} {history : PaymentHistory}

theorem faithful_fetchOrder {delivery : Delivery} {request : PaymentRequest} {world : World}
    (hfaithful : Faithful history)
    (hstep : step configuration reader history.world (.fetchOrder delivery request) =
      some world) : Faithful { history with world } := by
  simp only [step] at hstep
  split at hstep
  · obtain rfl := Option.some.inj hstep
    exact hfaithful
  · rename_i amount hfetch
    obtain rfl := Option.some.inj hstep
    obtain ⟨order, hfind, howner, hamount⟩ := fetchAmount_ok hfetch
    obtain ⟨horder, hid⟩ := history.world.shop.tables.orders.find?_eq_some_iff.mp hfind
    have hpays := hfaithful.paysOwnOrder horder hid howner hamount
    -- The new call has no transaction yet.
    have hheld : ∀ {position orderId}, Holds { history.world with calls :=
        history.world.calls ++ [⟨request, .orderFetched amount⟩] } position orderId →
          Holds history.world position orderId := by
      rintro position orderId ⟨call, transaction, hcall, hopen, hsame⟩
      simp only [List.getElem?_append] at hcall
      split at hcall
      · exact ⟨call, transaction, hcall, hopen, hsame⟩
      · obtain rfl := List.mem_singleton.mp (List.mem_of_getElem? hcall)
        cases hopen
    constructor
    · exact hfaithful.ordersKept
    · exact hfaithful.observed
    · intro call hcall
      rcases List.mem_append.mp hcall with hold | hnew
      · exact hfaithful.callsPay call hold
      · obtain rfl := List.mem_singleton.mp hnew
        constructor
        · intro other hother
          obtain rfl := PaymentStage.orderFetched.inj hother
          exact hpays
        · intro transaction hopen
          cases hopen
    · exact hfaithful.committedPay
    · exact hfaithful.unique
    · intro left right orderId hleft hright
      exact hfaithful.heldOnce (hheld hleft) (hheld hright)
    · intro position orderId hholds
      exact hfaithful.heldUncommitted (hheld hholds)

theorem faithful_saveTransaction {position : ℕ} {vault : Option (JString → Option JString)}
    {iv : Bytes} {fails : Bool} {world : World} (hfaithful : Faithful history)
    (hstep : step configuration reader history.world (.saveTransaction position vault iv fails) =
      some world) : Faithful { history with world } := by
  simp only [step] at hstep
  split at hstep
  · rename_i request amount hcall
    have hpays := (hfaithful.callsPay _ (List.mem_of_getElem? hcall)).1 amount rfl
    split at hstep
    · obtain rfl := Option.some.inj hstep
      exact faithful_ended hfaithful position request
    · split at hstep
      · cases hstep
      · rename_i hlocked
        obtain rfl := Option.some.inj hstep
        have hcounted : Faithful { history with world := { history.world with payments :=
            { history.world.payments with
              nextTransactionId := history.world.payments.nextTransactionId + 1 } } } :=
          faithful_withPayments hfaithful rfl
        simp only [World.insertTransaction]
        split
        · exact faithful_ended hcounted position request
        · rename_i hnew
          simp only [List.any_eq_true, beq_iff_eq, not_exists, not_and] at hnew
          apply faithful_setStage hcounted
          · constructor
            · intro other hother
              cases hother
            · intro transaction hopen
              obtain rfl := Option.some.inj hopen
              exact ⟨rfl, hpays⟩
          · intro transaction hopen
            obtain rfl := Option.some.inj hopen
            exact Or.inr ⟨not_holds_of_not_isLocked hlocked, hnew⟩
  · cases hstep

theorem faithful_saveAuditLog {position : ℕ} {fails : Bool} {world : World}
    (hfaithful : Faithful history)
    (hstep : step configuration reader history.world (.saveAuditLog position fails) =
      some world) : Faithful { history with world } := by
  simp only [step] at hstep
  split at hstep
  · rename_i request transaction hcall
    split at hstep
    · obtain rfl := Option.some.inj hstep
      exact faithful_ended hfaithful position request
    · obtain rfl := Option.some.inj hstep
      have hcounted : Faithful { history with world := { history.world with payments :=
          { history.world.payments with
            nextAuditLogId := history.world.payments.nextAuditLogId + 1 } } } :=
        faithful_withPayments hfaithful rfl
      exact faithful_advance hcounted hcall rfl rfl
  · cases hstep

theorem faithful_updateStatus {position : ℕ} {delivery : Delivery} {world : World}
    (hfaithful : Faithful history)
    (hstep : step configuration reader history.world (.updateStatus position delivery) =
      some world) : Faithful { history with world } := by
  simp only [step] at hstep
  split at hstep
  · rename_i request transaction auditLog hcall
    obtain rfl := Option.some.inj hstep
    have hended := faithful_ended hfaithful position request
    have hkept := withoutStatus_updateOrderStatus request.orderId paid history.world.shop
    cases delivery with
    | failsBefore => exact hended
    | replyLost => exact faithful_withShop hended hkept
    | success =>
        simp only [World.markOrder]
        split
        · rename_i shop hupdate
          rw [hupdate] at hkept
          have hmoved := faithful_advance hfaithful hcall rfl
            (show (PaymentStage.statusUpdated transaction auditLog).openTransaction = _ from rfl)
          exact faithful_withShop hmoved hkept
        · rename_i shop hupdate
          rw [hupdate] at hkept
          exact faithful_withShop hended hkept
  · cases hstep

theorem faithful_commit {position : ℕ} {fails : Bool} {world : World}
    (hfaithful : Faithful history)
    (hstep : step configuration reader history.world (.commit position fails) = some world) :
    Faithful
      { history with
        world
        committed := history.committed ++ committedBy history.world (.commit position fails) } := by
  simp only [step] at hstep
  split at hstep
  · rename_i request transaction auditLog hcall
    split at hstep
    · rename_i hfails
      obtain rfl := Option.some.inj hstep
      simp only [hfails, committedBy, List.append_nil]
      exact faithful_ended hfaithful position request
    · rename_i hfails
      obtain rfl := Option.some.inj hstep
      simp only [Bool.not_eq_true] at hfails
      simp only [hfails, committedBy, hcall]
      have hpayment := (hfaithful.callsPay _ (List.mem_of_getElem? hcall)).2 transaction rfl
      have hholds : Holds history.world position transaction.orderId :=
        ⟨_, transaction, hcall, rfl, rfl⟩
      have hended := faithful_ended hfaithful position request
      constructor
      · exact hended.ordersKept
      · simp [World.setStage, World.commitRows, hfaithful.observed]
      · exact hended.callsPay
      · intro entry hentry
        rcases List.mem_append.mp hentry with hold | hnew
        · exact hfaithful.committedPay entry hold
        · obtain rfl := List.mem_singleton.mp hnew
          exact hpayment
      · show ((history.world.payments.transactions ++ [transaction]).map
          Transaction.orderId).Nodup
        rw [List.map_append, List.map_singleton]
        apply List.Nodup.append hfaithful.unique (List.nodup_singleton _)
        intro orderId hcommitted hnew
        obtain ⟨other, hother, rfl⟩ := List.mem_map.mp hcommitted
        exact hfaithful.heldUncommitted hholds other hother (List.mem_singleton.mp hnew)
      · exact hended.heldOnce
      · intro other orderId hother committed hcommitted hsame
        rcases holds_setStage hother with ⟨-, ended, hopen, -⟩ | hheld
        · cases hopen
        · rcases List.mem_append.mp hcommitted with hold | hnew
          · exact hfaithful.heldUncommitted hheld committed hold hsame
          · -- The call itself is the only one that held the order, and has ended.
            obtain rfl := List.mem_singleton.mp hnew
            subst hsame
            obtain rfl := hfaithful.heldOnce hheld hholds
            obtain ⟨call, open', hended', hopen, -⟩ := hother
            have hlt := (List.getElem?_eq_some_iff.mp hcall).1
            simp only [World.setStage, World.commitRows, List.getElem?_set_self hlt] at hended'
            obtain rfl := Option.some.inj hended'
            cases hopen
  · cases hstep

theorem faithful_historyStep {next : PaymentHistory} {event : Event}
    (hfaithful : Faithful history)
    (hstep : historyStep configuration reader history event = some next) : Faithful next := by
  obtain ⟨world, hworld, rfl⟩ := Option.map_eq_some_iff.mp hstep
  cases event with
  | changeCarts cartStore =>
      obtain rfl := Option.some.inj hworld
      simp only [createdBy, committedBy, List.append_nil]
      exact faithful_withShop hfaithful rfl
  | createOrder environment request =>
      obtain rfl := Option.some.inj hworld
      simp only [createdBy, committedBy, List.append_nil]
      exact faithful_created hfaithful
        (rows_createOrder configuration environment request history.world.shop)
  | updateOrderStatus id status =>
      obtain rfl := Option.some.inj hworld
      simp only [createdBy, committedBy, List.append_nil]
      exact faithful_withShop hfaithful
        (withoutStatus_updateOrderStatus id status history.world.shop)
  | fetchOrder delivery request =>
      simp only [createdBy, committedBy, List.append_nil]
      exact faithful_fetchOrder hfaithful hworld
  | saveTransaction position vault iv fails =>
      simp only [createdBy, committedBy, List.append_nil]
      exact faithful_saveTransaction hfaithful hworld
  | saveAuditLog position fails =>
      simp only [createdBy, committedBy, List.append_nil]
      exact faithful_saveAuditLog hfaithful hworld
  | updateStatus position delivery =>
      simp only [createdBy, committedBy, List.append_nil]
      exact faithful_updateStatus hfaithful hworld
  | commit position fails =>
      simp only [createdBy, List.append_nil]
      exact faithful_commit hfaithful hworld

end Steps

/-- In every state of every interleaving each order has at most one committed
transaction, over its total and made for its owner. -/
theorem payments_uniqueAndFaithful (configuration : OrderConfiguration) (reader : AmountReader)
    (events : List Event) (history : PaymentHistory)
    (hrun : run (historyStep configuration reader) .empty events = some history) :
    UniqueAndFaithful history := by
  have hfaithful : Faithful history :=
    run_invariant (fun _ _ _ => faithful_historyStep) faithful_empty hrun
  constructor
  · exact hfaithful.observed
  · exact hfaithful.unique
  · have hids : history.created.map Order.id =
        history.world.shop.tables.orders.rows.map Order.id :=
      calc
        history.created.map Order.id =
            (history.created.map withoutStatus).map Order.id := by
          rw [List.map_map]
          rfl
        _ = (history.world.shop.tables.orders.rows.map withoutStatus).map Order.id := by
          rw [hfaithful.ordersKept]
        _ = history.world.shop.tables.orders.rows.map Order.id := by
          rw [List.map_map]
          rfl
    rw [hids]
    exact history.world.shop.tables.orders.keys_nodup
  · exact hfaithful.committedPay

/-- Two calls for one order fetch it before either has saved anything. -/
def racingPayments : List Event :=
  purchase ++
    [.fetchOrder .success purchasePayment, .fetchOrder .success purchasePayment,
      .saveTransaction 0 none [] false, .saveAuditLog 0 false, .updateStatus 0 .success,
      .commit 0 false, .saveTransaction 1 none [] false]

/-- One of the two commits. -/
theorem racingPayments_uniqueAndFaithful :
    ∃ history, run (historyStep plainConfiguration plainReader) .empty racingPayments =
        some history ∧
      history.committed.length = 1 ∧ UniqueAndFaithful history := by
  obtain ⟨history, hrun, hcheck⟩ := (Option.any_eq_true _ _).mp
    (show (run (historyStep plainConfiguration plainReader) .empty racingPayments).any
      (fun history => history.committed.length == 1) = true by
        decide +kernel)
  exact ⟨history, hrun, by simpa using hcheck,
    payments_uniqueAndFaithful plainConfiguration plainReader racingPayments history hrun⟩

end ShoppingWeb.PaidOrders
