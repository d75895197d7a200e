import ShoppingWeb.Order.ApprovalCache
import ShoppingWeb.Order.CreateOrderSpec
import ShoppingWeb.Order.OrderController

/-!
# What a user can see

The part of the order service that belongs to one user: the user's orders
without generated ids, cart contents, and cached approvals.  `createOrder`
acts on the user it runs for, and a status update on one order, so both leave
everybody else's part alone.
-/

namespace ShoppingWeb.OrderIsolation

open ShoppingWeb.Utf16
open ShoppingWeb.Shared
open ShoppingWeb.CartService
open ShoppingWeb.OrderService
open ShoppingWeb.PaymentSecurityGateway
open Program

/-- An order as it would read in any other run: without generated ids. -/
def withoutIds (details : OrderDetails) : OrderDetails :=
  ⟨{ details.order with id := 0 }, details.items.map OrderItem.content⟩

/-- The details of the orders that pass a test. -/
def detailsWhere (test : Order → Bool) (tables : OrderTables) : List OrderDetails :=
  (tables.orders.rows.filter test).map tables.detailsOf

def ownOrders (user : JString) (tables : OrderTables) : List OrderDetails :=
  (getOrdersByUserId tables user).map withoutIds

/-- The orders of everybody else, ids included. -/
def othersOrders (user : JString) (tables : OrderTables) : List OrderDetails :=
  detailsWhere (fun order => order.userId != user) tables

/-- Products and quantities in the user's cart. -/
def ownLines (user : JString) (store : CartStore) : List (ℤ × Int32) :=
  (store.linesOf user).map fun item => (item.productId, item.quantity)

/-- Cached approvals under the keys of the user. -/
def ownApprovals (user : JString) (gateway : GatewayState) (context : TransactionContext) :
    Option ApprovedTransaction :=
  gateway.approvedTransactions (generateTransactionKey { context with userId := some user })

structure UserView where
  orders : List OrderDetails
  lines : List (ℤ × Int32)
  approvals : TransactionContext → Option ApprovedTransaction

def viewOf (user : JString) (state : ShopState) : UserView where
  orders := ownOrders user state.tables
  lines := ownLines user state.cartStore
  approvals := ownApprovals user state.gateway

/-- The foreign key of the item table. -/
def ItemsBelong (tables : OrderTables) : Prop :=
  ∀ item ∈ tables.orderItems.rows, ∃ order ∈ tables.orders.rows, order.id = item.orderId

theorem itemsBelong_empty : ItemsBelong .empty := by
  intro item hitem
  cases hitem

theorem itemsBelong_of_contents {before after : OrderTables}
    (hcontents : after.contents = before.contents) (hbefore : ItemsBelong before) :
    ItemsBelong after := by
  simp only [OrderTables.contents, Prod.mk.injEq] at hcontents
  obtain ⟨horders, hitems, -⟩ := hcontents
  intro item hitem
  rw [hitems] at hitem
  rw [horders]
  exact hbefore item hitem

theorem detailsWhere_of_contents {before after : OrderTables}
    (hcontents : after.contents = before.contents) (test : Order → Bool) :
    detailsWhere test after = detailsWhere test before := by
  simp only [OrderTables.contents, Prod.mk.injEq] at hcontents
  obtain ⟨horders, hitems, -⟩ := hcontents
  have hdetails : after.detailsOf = before.detailsOf := by
    funext order
    simp only [OrderTables.detailsOf, hitems]
  rw [detailsWhere, detailsWhere, horders, hdetails]

section Placing

variable {configuration : OrderConfiguration} {environment : CreateOrderEnvironment}
  {request : CreateOrderRequest} {state : ShopState} {placement : Placement}

theorem rows_placement :
    (placement.tables configuration environment state).orders.rows =
      state.tables.orders.rows ++ [placement.order environment state] := rfl

theorem itemsBelong_placement (hbelong : ItemsBelong state.tables) :
    ItemsBelong (placement.tables configuration environment state) := by
  obtain ⟨saved, hrows, horder, -⟩ := rows_insertItems state.tables.orderItems
    state.tables.orders.nextKey placement.draft.jpaOrderItems
  intro item hitem
  rw [rows_placement]
  rcases List.mem_append.mp (hrows ▸ hitem : item ∈ state.tables.orderItems.rows ++ saved) with
    hold | hnew
  · obtain ⟨order, hmem, hid⟩ := hbelong item hold
    exact ⟨order, List.mem_append_left _ hmem, hid⟩
  · exact ⟨placement.order environment state,
      List.mem_append_right _ (List.mem_singleton.mpr rfl), (horder item hnew).symm⟩

/-- The items of a new order do not show in the details of an older one. -/
theorem detailsOf_placement_older {saved : List OrderItem}
    (hitems : (placement.tables configuration environment state).orderItems.rows =
      state.tables.orderItems.rows ++ saved)
    (hsaved : ∀ item ∈ saved, item.orderId = state.tables.orders.nextKey)
    {order : Order} (hmem : order ∈ state.tables.orders.rows) :
    (placement.tables configuration environment state).detailsOf order =
      state.tables.detailsOf order := by
  have hlt : order.id < state.tables.orders.nextKey := state.tables.orders.key_lt order hmem
  have hnone : saved.filter (fun item => item.orderId == order.id) = [] := by
    rw [List.filter_eq_nil_iff]
    intro item hitem heq
    rw [← beq_iff_eq.mp heq, hsaved item hitem] at hlt
    exact lt_irrefl _ hlt
  simp only [OrderTables.detailsOf, hitems, List.filter_append, hnone, List.append_nil]

/-- The new order shows the items saved for it and no others. -/
theorem detailsOf_placement_order {saved : List OrderItem} (hbelong : ItemsBelong state.tables)
    (hitems : (placement.tables configuration environment state).orderItems.rows =
      state.tables.orderItems.rows ++ saved)
    (hsaved : ∀ item ∈ saved, item.orderId = state.tables.orders.nextKey) :
    (placement.tables configuration environment state).detailsOf
        (placement.order environment state) =
      ⟨placement.order environment state, saved⟩ := by
  have hnone : state.tables.orderItems.rows.filter
      (fun item => item.orderId == (placement.order environment state).id) = [] := by
    rw [List.filter_eq_nil_iff]
    intro item hitem heq
    obtain ⟨order, hmem, hid⟩ := hbelong item hitem
    have hlt := state.tables.orders.key_lt order hmem
    exact absurd (hid.trans (beq_iff_eq.mp heq)) (ne_of_lt hlt)
  have hall : saved.filter
      (fun item => item.orderId == (placement.order environment state).id) = saved :=
    List.filter_eq_self.mpr fun item hitem => beq_iff_eq.mpr (hsaved item hitem)
  simp only [OrderTables.detailsOf, hitems, List.filter_append, hnone, hall, List.nil_append]

variable (configuration environment placement) in
/-- The placed order comes last, with the items of the placement; the details
of older orders are as before. -/
theorem detailsWhere_placement (hbelong : ItemsBelong state.tables) (test : Order → Bool) :
    ∃ saved : List OrderItem,
      saved.map OrderItem.content = placement.draft.jpaOrderItems.map OrderItem.content ∧
        detailsWhere test (placement.tables configuration environment state) =
          detailsWhere test state.tables ++
            if test (placement.order environment state) then
              [⟨placement.order environment state, saved⟩]
            else [] := by
  obtain ⟨saved, hrows, hsaved, hcontent⟩ := rows_insertItems state.tables.orderItems
    state.tables.orders.nextKey placement.draft.jpaOrderItems
  have hitems : (placement.tables configuration environment state).orderItems.rows =
      state.tables.orderItems.rows ++ saved := hrows
  refine ⟨saved, hcontent, ?_⟩
  rw [detailsWhere, rows_placement, List.filter_append, List.map_append, detailsWhere]
  congr 1
  · apply List.map_congr_left
    intro order horder
    exact detailsOf_placement_older hitems hsaved (List.mem_of_mem_filter horder)
  · cases htest : test (placement.order environment state) with
    | true => simp [htest, detailsOf_placement_order hbelong hitems hsaved]
    | false => simp [htest]

end Placing

def setStatus (id : ℤ) (status : JString) (details : OrderDetails) : OrderDetails :=
  if details.order.id = id then { details with order := { details.order with status } }
  else details

/-- Every list of orders shows the new status, and nothing else changes. -/
theorem detailsWhere_saveStatus {test : Order → Bool}
    (htest : ∀ (order : Order) (status : JString), test { order with status } = test order)
    (tables : OrderTables) (id : ℤ) (status : JString) :
    detailsWhere test (tables.saveStatus id status) =
      (detailsWhere test tables).map (setStatus id status) := by
  simp only [detailsWhere, OrderTables.saveStatus, Table.update, List.filter_map, List.map_map]
  have hfilter : (test ∘ fun row => if Keyed.key row = id then { row with status } else row) =
      test := by
    funext row
    simp only [Function.comp_apply]
    split
    · exact htest row status
    · rfl
  rw [hfilter]
  apply List.map_congr_left
  intro row _
  simp only [Function.comp_apply, setStatus, OrderTables.detailsOf]
  by_cases hid : row.id = id
  · have hkey : Keyed.key row = id := hid
    simp [hkey, hid]
  · have hkey : ¬ Keyed.key row = id := hid
    simp [hkey, hid]

/-- A status update of an order that is not listed changes nothing listed. -/
theorem detailsWhere_saveStatus_other {test : Order → Bool}
    (htest : ∀ (order : Order) (status : JString), test { order with status } = test order)
    {tables : OrderTables} {id : ℤ} (status : JString)
    (hother : ∀ order ∈ tables.orders.rows, order.id = id → test order = false) :
    detailsWhere test (tables.saveStatus id status) = detailsWhere test tables := by
  have hkept : ∀ details ∈ detailsWhere test tables, setStatus id status details = details := by
    intro details hdetails
    obtain ⟨order, horder, rfl⟩ := List.mem_map.mp hdetails
    obtain ⟨hmem, hpasses⟩ := List.mem_filter.mp horder
    apply if_neg
    intro hid
    rw [hother order hmem hid] at hpasses
    cases hpasses
  rw [detailsWhere_saveStatus htest, List.map_congr_left hkept, List.map_id']

theorem itemsBelong_saveStatus {tables : OrderTables} (hbelong : ItemsBelong tables) (id : ℤ)
    (status : JString) : ItemsBelong (tables.saveStatus id status) := by
  intro item hitem
  obtain ⟨order, hmem, hid⟩ := hbelong item hitem
  refine ⟨_, List.mem_map_of_mem hmem, ?_⟩
  split
  · exact hid
  · exact hid

section Approvals

variable (sha256 : Bytes → Bytes) (lookups : CatalogLookups) (clock : CallClock)
  {context : TransactionContext} {user : JString}

/-- What a validation leaves in the cache under the key of its context. -/
def approvalAfter (context : TransactionContext) (cached : Option ApprovedTransaction) :
    Option ApprovedTransaction :=
  let decision := TransactionSecurityService.validateTransaction sha256 lookups context
  match cached.filter (isApprovalStillValid clock.checkedAt) with
  | some _ => cached
  | none =>
      if decision.isApproved then
        some ⟨decision, clock.stampedAt, plusSeconds clock.expiryFrom 900⟩
      else cached

theorem approvedTransactions_validate (context : TransactionContext) (gateway : GatewayState) :
    (validatePaymentTransition sha256 lookups clock context gateway).2.approvedTransactions =
      Function.update gateway.approvedTransactions (generateTransactionKey context)
        (approvalAfter sha256 lookups clock context
          (gateway.approvedTransactions (generateTransactionKey context))) := by
  have hfilter : (gateway.approvedTransactions (generateTransactionKey context)).filter
      (isApprovalStillValid clock.checkedAt) = validApproval gateway clock.checkedAt context := rfl
  rcases validatePaymentTransition_cases sha256 lookups clock context gateway with
    ⟨approval, hvalid, hanswer⟩ | ⟨hvalid, -, hcache⟩
  · simp only [approvalAfter, hfilter, hvalid, hanswer, Function.update_eq_self]
  · rw [hcache]
    simp only [approvalAfter, hfilter, hvalid]
    split
    · rfl
    · rw [Function.update_eq_self]

/-- The gate's answer depends on the cache only through the context's key. -/
theorem validate_answer_congr {first second : GatewayState}
    (hcached : first.approvedTransactions (generateTransactionKey context) =
      second.approvedTransactions (generateTransactionKey context)) :
    (validatePaymentTransition sha256 lookups clock context first).1 =
      (validatePaymentTransition sha256 lookups clock context second).1 := by
  have hprocessed (decision : RiskDecision) :
      (processSecurityDecision clock decision context first).1 =
        (processSecurityDecision clock decision context second).1 := by
    rw [processSecurityDecision, processSecurityDecision]
    cases decision.action <;> rfl
  have hvalid : validApproval first clock.checkedAt context =
      validApproval second clock.checkedAt context := by
    rw [validApproval, validApproval, hcached]
  rw [validatePaymentTransition, validatePaymentTransition, hvalid]
  cases validApproval second clock.checkedAt context with
  | some approval => rfl
  | none =>
      simp only [hprocessed]
      split
      · rfl
      · exact hprocessed _

/-- The user's own purchase is looked up among the user's own approvals. -/
theorem ownApprovals_own (hcontext : context.userId = some user) (gateway : GatewayState) :
    ownApprovals user gateway context =
      gateway.approvedTransactions (generateTransactionKey context) := by
  rw [ownApprovals, ← hcontext]

theorem ownApprovals_validate_congr (hcontext : context.userId = some user)
    {first second : GatewayState} (hsame : ownApprovals user first = ownApprovals user second) :
    ownApprovals user (validatePaymentTransition sha256 lookups clock context first).2 =
      ownApprovals user (validatePaymentTransition sha256 lookups clock context second).2 := by
  have hcached := congrFun hsame context
  rw [ownApprovals_own hcontext, ownApprovals_own hcontext] at hcached
  funext other
  have hother := congrFun hsame other
  simp only [ownApprovals, approvedTransactions_validate, Function.update_apply, hcached]
    at hother ⊢
  split
  · rfl
  · exact hother

/-- Two users never share a key. -/
theorem ownApprovals_validate_other {other : JString} (hcontext : context.userId = some other)
    (hne : other ≠ user) (gateway : GatewayState) :
    ownApprovals user (validatePaymentTransition sha256 lookups clock context gateway).2 =
      ownApprovals user gateway := by
  funext own
  have hkey : generateTransactionKey { own with userId := some user } ≠
      generateTransactionKey context := by
    intro heq
    have husers := (sharesKeyFields_of_key_eq heq).2.1
    rw [hcontext] at husers
    exact hne husers.symm
  simp only [ownApprovals, approvedTransactions_validate, Function.update_of_ne hkey]

end Approvals

section CreateOrder

variable {configuration : OrderConfiguration} {environment : CreateOrderEnvironment}
  {request : CreateOrderRequest} {state : ShopState} {user caller : JString}

/-- The call leaves the tables alone or adds one order of the caller. -/
theorem tables_createOrder (hcaller : request.userId = some caller) :
    (exec (createOrder configuration environment request) state).2.tables.contents =
        state.tables.contents ∨
      ∃ placement : Placement, placement.userId = caller ∧
        (exec (createOrder configuration environment request) state).2.tables =
          placement.tables configuration environment state := by
  cases hexec : exec (createOrder configuration environment request) state with
  | mk outcome final =>
      cases outcome with
      | error exception => exact Or.inl (exec_createOrder_error hexec).1
      | ok order =>
          obtain ⟨placement, ⟨-, -, hplace⟩, -, -, -, rfl⟩ := exec_createOrder_ok.mp hexec
          exact Or.inr ⟨placement, Option.some.inj (hplace.hasUserId.symm.trans hcaller), rfl⟩

theorem itemsBelong_createOrder (hcaller : request.userId = some caller)
    (hbelong : ItemsBelong state.tables) :
    ItemsBelong (exec (createOrder configuration environment request) state).2.tables := by
  rcases tables_createOrder hcaller with hcontents | ⟨placement, -, htables⟩
  · exact itemsBelong_of_contents hcontents hbelong
  · rw [htables]
    exact itemsBelong_placement hbelong

/-- No list without orders of the caller changes. -/
theorem detailsWhere_createOrder (hcaller : request.userId = some caller)
    (hbelong : ItemsBelong state.tables) {test : Order → Bool}
    (htest : ∀ order : Order, order.userId = caller → test order = false) :
    detailsWhere test (exec (createOrder configuration environment request) state).2.tables =
      detailsWhere test state.tables := by
  rcases tables_createOrder hcaller with hcontents | ⟨placement, howner, htables⟩
  · exact detailsWhere_of_contents hcontents test
  · obtain ⟨saved, -, hdetails⟩ := detailsWhere_placement configuration environment placement
      hbelong test
    rw [htables, hdetails, htest _ howner]
    simp

/-- The call of another user is invisible. -/
theorem viewOf_createOrder (hsubject : request.bearerSubject = caller)
    (hcaller : request.userId = some caller) (hne : caller ≠ user)
    (hbelong : ItemsBelong state.tables) :
    viewOf user (exec (createOrder configuration environment request) state).2 =
      viewOf user state := by
  have horders : ownOrders user
      (exec (createOrder configuration environment request) state).2.tables =
        ownOrders user state.tables :=
    congrArg (List.map withoutIds) (detailsWhere_createOrder hcaller hbelong fun order howner => by
      simpa [howner] using hne)
  have hlines : Keeps (fun state : ShopState => ownLines user state.cartStore)
      (createOrder configuration environment request) := by
    refine keeps_createOrder (fun _ _ => rfl) (fun state => ?_)
      (fun context _ => keeps_passGate _ context) fun state => ?_
    · simp only [ownLines, CartStore.linesOf_getOrCreateCart]
    · rw [hsubject]
      simp only [ownLines, CartStore.linesOf_clearCart_other _ hne]
  have happrovals : Keeps (fun state : ShopState => ownApprovals user state.gateway)
      (createOrder configuration environment request) := by
    refine keeps_createOrder (fun _ _ => rfl) (fun _ => rfl) (fun context hcontext state => ?_)
      fun _ => rfl
    rw [exec_passGate]
    exact ownApprovals_validate_other _ _ _ (hcontext.trans hcaller) hne state.gateway
  simp only [viewOf, horders, hlines state, happrovals state]

end CreateOrder

end ShoppingWeb.OrderIsolation
