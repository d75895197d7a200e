import ShoppingWeb.Lib.PairedRuns
import ShoppingWeb.Checkout.ConfirmPayment
import ShoppingWeb.Order.CreateOrderAgreement

/-!
# Isolation of orders

Two runs of the order service that differ only in what other users do, as one
user sees them.  The list of all orders and the status update look at no
owner, so the user is isolated only while the first shows nobody else's orders
and the second is kept to the user's own orders.
-/

namespace ShoppingWeb.OrderIsolation

open ShoppingWeb.Utf16
open ShoppingWeb.Shared
open ShoppingWeb.CartService
open ShoppingWeb.OrderService
open ShoppingWeb.PairedRuns
open Program

inductive OrderRequest where
  | createOrder (environment : CreateOrderEnvironment) (jwt : Jwt) (payload : OrderPayload)
      (client : ClientInfo)
  | getOrders (jwt : Jwt)
  | getAllOrders (jwt : Jwt)
  | getOrder (jwt : Jwt) (id : ℤ)
  | updateOrderStatus (jwt : Jwt) (id : ℤ) (status : JString)

def OrderRequest.sender : OrderRequest → JString
  | .createOrder _ jwt _ _ | .getOrders jwt | .getAllOrders jwt | .getOrder jwt _
  | .updateOrderStatus jwt _ _ => jwt.subject

inductive Event where
  | request (request : OrderRequest)
  /-- The cart service serves requests of its own in between. -/
  | changeCarts (cartStore : CartStore)

section System

variable (configuration : OrderConfiguration) (java : JavaSecurity) (user : JString)

def respond (state : ShopState) : Event → OrderResponse × ShopState
  | .request (.createOrder environment jwt payload client) =>
      postOrder configuration java environment jwt payload client state
  | .request (.getOrders jwt) => (OrderService.getOrders jwt state, state)
  | .request (.getAllOrders _) => (getAll state, state)
  | .request (.getOrder jwt id) => (OrderService.getOrder jwt id state, state)
  | .request (.updateOrderStatus _ id status) => OrderService.updateOrderStatus id status state
  | .changeCarts cartStore => (.done, { state with cartStore })

def responseWithoutIds : OrderResponse → OrderResponse
  | .created _ trackingNumber totalAmount status => .created 0 trackingNumber totalAmount status
  | .orderList orders => .orderList (orders.map withoutIds)
  | .order details => .order (withoutIds details)
  | .done => .done
  | .failed status message => .failed status message

/-- The responses the user receives, up to generated ids. -/
def received : Event → OrderResponse → Option OrderResponse
  | .request request, response =>
      if request.sender = user then some (responseWithoutIds response) else none
  | .changeCarts _, _ => none

/-- A request of the user changes no field of an order of another user. -/
def LeavesOthers (state : ShopState) : Event → Prop
  | .request request => request.sender = user →
      othersOrders user (respond configuration java state (.request request)).2.tables =
        othersOrders user state.tables
  | .changeCarts _ => True

/-- An event that may occur in one run only: another user's request about
orders of other users, or a change of other carts. -/
def IsForeign (state : ShopState) : Event → Prop
  | .request (.updateOrderStatus jwt id _) =>
      jwt.subject ≠ user ∧ ∀ order ∈ state.tables.orders.rows, order.id = id → order.userId ≠ user
  | .request request => request.sender ≠ user
  | .changeCarts cartStore => ownLines user cartStore = ownLines user state.cartStore

def ownIds (tables : OrderTables) : List ℤ :=
  (getOrdersByUserId tables user).map fun details => details.order.id

/-- The two ids name the same order of the user, or no order in either run. -/
def SameOwnId (left right : ShopState) (id id' : ℤ) : Prop :=
  (∃ position : ℕ, (ownIds user left.tables)[position]? = some id ∧
      (ownIds user right.tables)[position]? = some id') ∨
    left.tables.orders.find? id = none ∧ right.tables.orders.find? id' = none

/-- The id names an order of another user. -/
def IsForeignId (state : ShopState) (id : ℤ) : Prop :=
  ∃ order, state.tables.orders.find? id = some order ∧ order.userId ≠ user

/-- All orders are the user's own. -/
def HasOnlyOwnOrders (state : ShopState) : Prop :=
  ∀ order ∈ state.tables.orders.rows, order.userId = user

/-- An event in both runs.  The user lists all orders only where these are the
user's own, updates own orders only, asks for another user's order in both runs
or in none, and draws no tracking number of another user. -/
inductive Corresponds (left right : ShopState) : Event → Event → Prop
  | createOrder {environment : CreateOrderEnvironment} {jwt : Jwt} {payload : OrderPayload}
      {client : ClientInfo} (hsubject : jwt.subject = user)
      (hleft : NoForeignTracking user environment left.tables)
      (hright : NoForeignTracking user environment right.tables) :
      Corresponds left right (.request (.createOrder environment jwt payload client))
        (.request (.createOrder environment jwt payload client))
  | getOrders {jwt : Jwt} (hsubject : jwt.subject = user) :
      Corresponds left right (.request (.getOrders jwt)) (.request (.getOrders jwt))
  | getAllOrders {jwt : Jwt} (hsubject : jwt.subject = user)
      (hleft : HasOnlyOwnOrders user left) (hright : HasOnlyOwnOrders user right) :
      Corresponds left right (.request (.getAllOrders jwt)) (.request (.getAllOrders jwt))
  | getOrder {jwt : Jwt} {id id' : ℤ} (hsubject : jwt.subject = user)
      (hids : SameOwnId user left right id id') :
      Corresponds left right (.request (.getOrder jwt id)) (.request (.getOrder jwt id'))
  | getForeignOrder {jwt : Jwt} {id id' : ℤ} (hsubject : jwt.subject = user)
      (hleft : IsForeignId user left id) (hright : IsForeignId user right id') :
      Corresponds left right (.request (.getOrder jwt id)) (.request (.getOrder jwt id'))
  | updateOrderStatus {jwt : Jwt} {id id' : ℤ} {status : JString}
      (hids : SameOwnId user left right id id') :
      Corresponds left right (.request (.updateOrderStatus jwt id status))
        (.request (.updateOrderStatus jwt id' status))
  | changeCarts {cartStore cartStore' : CartStore}
      (hlines : ownLines user cartStore = ownLines user cartStore') :
      Corresponds left right (.changeCarts cartStore) (.changeCarts cartStore')

end System

section Own

variable {user : JString} {tables : OrderTables}

theorem ownIds_nodup : (ownIds user tables).Nodup := by
  have hids : ownIds user tables =
      (tables.orders.rows.filter fun order => order.userId == user).map Keyed.key := by
    rw [ownIds, getOrdersByUserId, List.map_map]
    rfl
  rw [hids]
  exact tables.orders.keys_nodup.sublist (List.filter_sublist.map Keyed.key)

/-- An id in the user's list is the id of an order of the user. -/
theorem find?_of_ownIds {position : ℕ} {id : ℤ}
    (hid : (ownIds user tables)[position]? = some id) :
    ∃ order, tables.orders.find? id = some order ∧ order.userId = user ∧
      (getOrdersByUserId tables user)[position]? = some (tables.detailsOf order) := by
  simp only [ownIds, getOrdersByUserId, List.map_map, List.getElem?_map,
    Option.map_eq_some_iff] at hid
  obtain ⟨order, horder, rfl⟩ := hid
  obtain ⟨hmem, howner⟩ := List.mem_filter.mp (List.mem_of_getElem? horder)
  refine ⟨order, tables.orders.find?_eq_some_iff.mpr ⟨hmem, rfl⟩, beq_iff_eq.mp howner, ?_⟩
  rw [getOrdersByUserId, List.getElem?_map, horder]
  rfl

theorem ownOrders_getElem? {position : ℕ} {id : ℤ}
    (hid : (ownIds user tables)[position]? = some id) :
    ∃ order, tables.orders.find? id = some order ∧ order.userId = user ∧
      (ownOrders user tables)[position]? = some (withoutIds (tables.detailsOf order)) := by
  obtain ⟨order, hfind, howner, hdetails⟩ := find?_of_ownIds hid
  refine ⟨order, hfind, howner, ?_⟩
  rw [ownOrders, List.getElem?_map, hdetails]
  rfl

/-- Setting the status of one of the user's orders, seen without ids. -/
theorem withoutIds_setStatus {details : List OrderDetails} {position : ℕ} {id : ℤ}
    (hnodup : (details.map fun order => order.order.id).Nodup)
    (hid : (details.map fun order => order.order.id)[position]? = some id) (status : JString) :
    (details.map (setStatus id status)).map withoutIds =
      (details.map withoutIds).modify position
        fun shown => { shown with order := { shown.order with status } } := by
  apply List.ext_getElem?
  intro index
  rw [List.getElem?_modify, List.getElem?_map, List.getElem?_map, List.getElem?_map]
  cases hdetails : details[index]? with
  | none => rfl
  | some shown =>
      have hshown : (details.map fun order => order.order.id)[index]? = some shown.order.id := by
        rw [List.getElem?_map, hdetails]
        rfl
      by_cases hposition : position = index
      · subst hposition
        obtain rfl : id = shown.order.id := Option.some.inj (hid.symm.trans hshown)
        simp [setStatus, withoutIds]
      · have hne : shown.order.id ≠ id := by
          rintro rfl
          have hlength := (List.getElem?_eq_some_iff.mp hid).1
          exact hposition ((List.getElem?_inj hlength hnodup).mp (hid.trans hshown.symm))
        simp [setStatus, hne, hposition]

end Own

/-! ## Foreign events -/

section Foreign

variable {configuration : OrderConfiguration} {java : JavaSecurity} {user : JString}
  {state : ShopState}

variable (configuration java state) in
/-- What a POST does to the state: nothing, or a call of `createOrder`. -/
theorem postOrder_state (environment : CreateOrderEnvironment) (jwt : Jwt)
    (payload : OrderPayload) (client : ClientInfo) :
    (postOrder configuration java environment jwt payload client state).2 = state ∨
      (postOrder configuration java environment jwt payload client state).2 =
        (exec (OrderService.createOrder configuration environment
          (requestOf jwt payload client)) state).2 := by
  rw [postOrder]
  cases checkOrderSignature java payload with
  | error exception => exact Or.inl rfl
  | ok done =>
      right
      cases exec (OrderService.createOrder configuration environment
          (requestOf jwt payload client)) state with
      | mk outcome final => cases outcome <;> rfl

/-- A POST that announces an order has placed it. -/
theorem placement_of_createdId {environment : CreateOrderEnvironment} {jwt : Jwt}
    {payload : OrderPayload} {client : ClientInfo} {orderId : ℤ}
    (hcreated : createdId
      (postOrder configuration java environment jwt payload client state).1 = some orderId) :
    ∃ placement,
      ReachesClear configuration environment (requestOf jwt payload client) state placement ∧
        state.tables.orders.nextKey = orderId ∧
        (postOrder configuration java environment jwt payload client state).2.tables =
          placement.tables configuration environment state := by
  have hfailed : ∀ exception, createdId (handleException exception) = none := by
    intro exception
    cases exception with
    | illegalArgument message | security message | runtime message => rfl
  rw [postOrder] at hcreated ⊢
  cases hcheck : checkOrderSignature java payload with
  | error exception =>
      rw [hcheck] at hcreated
      simp only [hfailed, reduceCtorEq] at hcreated
  | ok done =>
      rw [hcheck] at hcreated
      simp only at hcreated ⊢
      cases hexec : exec (OrderService.createOrder configuration environment
          (requestOf jwt payload client)) state with
      | mk outcome final =>
          rw [hexec] at hcreated
          cases outcome with
          | error exception => simp only [hfailed, reduceCtorEq] at hcreated
          | ok order =>
              obtain ⟨placement, hreaches, -, -, rfl, rfl⟩ := exec_createOrder_ok.mp hexec
              exact ⟨placement, hreaches, Option.some.inj hcreated, rfl⟩

/-- A status update of an order that is on no list, or of no order. -/
theorem detailsWhere_updateOrderStatus {test : Order → Bool}
    (htest : ∀ (order : Order) (status : JString), test { order with status } = test order)
    {id : ℤ} {status : JString}
    (hother : ∀ order ∈ state.tables.orders.rows, order.id = id → test order = false) :
    detailsWhere test (OrderService.updateOrderStatus id status state).2.tables =
      detailsWhere test state.tables := by
  rcases updateOrderStatus_cases id status state with ⟨-, hsame⟩ | ⟨order, -, hchanged⟩
  · rw [hsame]
  · rw [hchanged]
    exact detailsWhere_saveStatus_other htest status hother

theorem itemsBelong_respond (hbelong : ItemsBelong state.tables) (event : Event) :
    ItemsBelong (respond configuration java state event).2.tables := by
  cases event with
  | changeCarts cartStore => exact hbelong
  | request request =>
      cases request with
      | createOrder environment jwt payload client =>
          rcases postOrder_state configuration java state environment jwt payload client with
            hsame | hcreated
          · simp only [respond, hsame]
            exact hbelong
          · simp only [respond, hcreated]
            exact itemsBelong_createOrder rfl hbelong
      | updateOrderStatus jwt id status =>
          rcases updateOrderStatus_cases id status state with ⟨-, hsame⟩ | ⟨order, -, hchanged⟩
          · simp only [respond, hsame]
            exact hbelong
          · simp only [respond, hchanged]
            exact itemsBelong_saveStatus hbelong id status
      | getOrders jwt | getAllOrders jwt | getOrder jwt id => exact hbelong

/-- The user sees nothing of a foreign event. -/
theorem viewOf_foreign {event : Event} (hbelong : ItemsBelong state.tables)
    (hforeign : IsForeign user state event) :
    viewOf user (respond configuration java state event).2 = viewOf user state := by
  cases event with
  | changeCarts cartStore =>
      have hlines : ownLines user cartStore = ownLines user state.cartStore := hforeign
      simp only [viewOf, respond, hlines]
  | request request =>
      cases request with
      | createOrder environment jwt payload client =>
          rcases postOrder_state configuration java state environment jwt payload client with
            hsame | hcreated
          · simp only [respond, hsame]
          · simp only [respond, hcreated]
            have hne : jwt.subject ≠ user := hforeign
            exact viewOf_createOrder rfl rfl hne hbelong
      | updateOrderStatus jwt id status =>
          obtain ⟨-, hothers⟩ := hforeign
          have horders : ownOrders user (OrderService.updateOrderStatus id status state).2.tables =
              ownOrders user state.tables :=
            congrArg (List.map withoutIds) (detailsWhere_updateOrderStatus (fun _ _ => rfl)
              fun order hmem hid => by simpa using hothers order hmem hid)
          rcases updateOrderStatus_cases id status state with ⟨-, hsame⟩ | ⟨order, -, hchanged⟩
          · simp only [respond, hsame]
          · rw [hchanged] at horders
            simp only [respond, hchanged, viewOf, horders]
      | getOrders jwt | getAllOrders jwt | getOrder jwt id => rfl

theorem sender_ne_of_isForeign {request : OrderRequest}
    (hforeign : IsForeign user state (.request request)) : request.sender ≠ user := by
  cases request with
  | updateOrderStatus jwt id status => exact hforeign.1
  | createOrder _ _ _ _ | getOrders _ | getAllOrders _ | getOrder _ _ => exact hforeign

end Foreign

section Matched

variable {configuration : OrderConfiguration} {java : JavaSecurity} {user : JString}
  {left right : ShopState}

theorem postOrder_alike (hsimilar : Similar user left right)
    {environment : CreateOrderEnvironment} {jwt : Jwt} (payload : OrderPayload)
    (client : ClientInfo) (hsubject : jwt.subject = user)
    (hleft : NoForeignTracking user environment left.tables)
    (hright : NoForeignTracking user environment right.tables) :
    responseWithoutIds (postOrder configuration java environment jwt payload client left).1 =
        responseWithoutIds (postOrder configuration java environment jwt payload client right).1 ∧
      Similar user (postOrder configuration java environment jwt payload client left).2
        (postOrder configuration java environment jwt payload client right).2 := by
  obtain ⟨houtcome, hafter⟩ := createOrder_alike configuration hsimilar
    (show (requestOf jwt payload client).bearerSubject = user from hsubject)
    (congrArg some hsubject) hleft hright
  rw [postOrder, postOrder]
  cases checkOrderSignature java payload with
  | error exception => exact ⟨rfl, hsimilar⟩
  | ok done =>
      cases hexec : exec (OrderService.createOrder configuration environment
          (requestOf jwt payload client)) left with
      | mk outcome final =>
          cases hexec' : exec (OrderService.createOrder configuration environment
              (requestOf jwt payload client)) right with
          | mk outcome' final' =>
              rw [hexec, hexec'] at houtcome hafter
              cases outcome with
              | error exception =>
                  cases outcome' with
                  | ok order' => exact houtcome.elim
                  | error exception' =>
                      obtain rfl : exception = exception' := houtcome
                      exact ⟨rfl, hafter⟩
              | ok order =>
                  cases outcome' with
                  | error exception' => exact houtcome.elim
                  | ok order' =>
                      have hsame : SameOrder order order' := houtcome
                      simp only [SameOrder, Order.mk.injEq] at hsame
                      simp only [responseWithoutIds, hsame]
                      exact ⟨trivial, hafter⟩

/-- Where all orders are the user's own, both lists show the same. -/
theorem getAllOrders_of_hasOnlyOwnOrders {state : ShopState} (hown : HasOnlyOwnOrders user state) :
    getAllOrders state.tables = getOrdersByUserId state.tables user := by
  have hall : state.tables.orders.rows.filter (fun order => order.userId == user) =
      state.tables.orders.rows :=
    List.filter_eq_self.mpr fun order horder => beq_iff_eq.mpr (hown order horder)
  rw [getAllOrders, getOrdersByUserId, hall]

/-- The answer to a request for one order. -/
theorem getOrder_alike (hsimilar : Similar user left right) {jwt : Jwt}
    (hsubject : jwt.subject = user) {id id' : ℤ} (hids : SameOwnId user left right id id') :
    responseWithoutIds (OrderService.getOrder jwt id left) =
      responseWithoutIds (OrderService.getOrder jwt id' right) := by
  rcases hids with ⟨position, hleft, hright⟩ | ⟨hleft, hright⟩
  · obtain ⟨order, hfind, howner, hdetails⟩ := ownOrders_getElem? hleft
    obtain ⟨order', hfind', howner', hdetails'⟩ := ownOrders_getElem? hright
    rw [hsimilar.orders, hdetails'] at hdetails
    rw [getOrder_eq_order_iff.mpr ⟨order, hfind, howner.trans hsubject.symm, rfl⟩,
      getOrder_eq_order_iff.mpr ⟨order', hfind', howner'.trans hsubject.symm, rfl⟩]
    simp only [responseWithoutIds, Option.some.inj hdetails]
  · simp only [OrderService.getOrder, getOrderById, hleft, hright]

/-- A request for somebody else's order is refused. -/
theorem getOrder_foreign {state : ShopState} {jwt : Jwt} {id : ℤ} (hsubject : jwt.subject = user)
    (hforeign : IsForeignId user state id) :
    OrderService.getOrder jwt id state = .failed 403 (js "Unauthorized access to order") := by
  obtain ⟨order, hfind, howner⟩ := hforeign
  rw [← hsubject] at howner
  simp [OrderService.getOrder, getOrderById, hfind, howner, handleException]

/-- The user's orders after a status update of the same order in both runs. -/
theorem ownOrders_saveStatus_alike (hsimilar : Similar user left right) {position : ℕ}
    {id id' : ℤ} (hleft : (ownIds user left.tables)[position]? = some id)
    (hright : (ownIds user right.tables)[position]? = some id') (status : JString) :
    ownOrders user (left.tables.saveStatus id status) =
      ownOrders user (right.tables.saveStatus id' status) := by
  have hsaved (tables : OrderTables) (id : ℤ) :
      getOrdersByUserId (tables.saveStatus id status) user =
        (getOrdersByUserId tables user).map (setStatus id status) :=
    detailsWhere_saveStatus (fun _ _ => rfl) tables id status
  have hsame := hsimilar.orders
  rw [ownOrders, ownOrders] at hsame
  rw [ownOrders, hsaved, withoutIds_setStatus ownIds_nodup hleft, ownOrders, hsaved,
    withoutIds_setStatus ownIds_nodup hright, hsame]

/-- The two answers to a status update, and the lists of orders afterwards. -/
theorem updateOrderStatus_alike (hsimilar : Similar user left right) {id id' : ℤ}
    (status : JString) (hids : SameOwnId user left right id id') :
    (OrderService.updateOrderStatus id status left).1 =
        (OrderService.updateOrderStatus id' status right).1 ∧
      Similar user (OrderService.updateOrderStatus id status left).2
        (OrderService.updateOrderStatus id' status right).2 := by
  rcases hids with ⟨position, hleft, hright⟩ | ⟨hleft, hright⟩
  · obtain ⟨order, hfind, -⟩ := find?_of_ownIds hleft
    obtain ⟨order', hfind', -⟩ := find?_of_ownIds hright
    have horders := ownOrders_saveStatus_alike hsimilar hleft hright status
    rcases updateOrderStatus_cases id status left with ⟨hnone, -⟩ | ⟨_, -, hchanged⟩
    · rw [hfind] at hnone
      cases hnone
    · rcases updateOrderStatus_cases id' status right with ⟨hnone, -⟩ | ⟨_, -, hchanged'⟩
      · rw [hfind'] at hnone
        cases hnone
      · rw [hchanged, hchanged']
        refine ⟨rfl, ?_, itemsBelong_saveStatus hsimilar.leftBelong id status,
          itemsBelong_saveStatus hsimilar.rightBelong id' status⟩
        simp only [viewOf, horders, hsimilar.lines, hsimilar.approvals]
  · rcases updateOrderStatus_cases id status left with ⟨-, hsame⟩ | ⟨_, hsome, -⟩
    · rcases updateOrderStatus_cases id' status right with ⟨-, hsame'⟩ | ⟨_, hsome', -⟩
      · rw [hsame, hsame']
        exact ⟨rfl, hsimilar⟩
      · rw [hright] at hsome'
        cases hsome'
    · rw [hleft] at hsome
      cases hsome

variable (configuration java user) in
/-- The user cannot tell two such runs apart, event by event. -/
theorem orders_unwinding :
    Unwinding (respond configuration java) (IsForeign user) (Corresponds user) (received user)
      (Similar user) where
  skip_left hsimilar hforeign :=
    ⟨(viewOf_foreign hsimilar.leftBelong hforeign).trans hsimilar.view,
      itemsBelong_respond hsimilar.leftBelong _, hsimilar.rightBelong⟩
  skip_right hsimilar hforeign :=
    ⟨hsimilar.view.trans (viewOf_foreign hsimilar.rightBelong hforeign).symm,
      hsimilar.leftBelong, itemsBelong_respond hsimilar.rightBelong _⟩
  skip_unseen {state event} hforeign := by
    cases event with
    | changeCarts cartStore => rfl
    | request request => exact if_neg (sender_ne_of_isForeign hforeign)
  both_similar {left right event other} hsimilar hmatched := by
    cases hmatched with
    | createOrder hsubject hleft hright =>
        exact (postOrder_alike hsimilar _ _ hsubject hleft hright).2
    | getOrders _ => exact hsimilar
    | getAllOrders _ _ _ => exact hsimilar
    | getOrder _ _ => exact hsimilar
    | getForeignOrder _ _ _ => exact hsimilar
    | updateOrderStatus hids => exact (updateOrderStatus_alike hsimilar _ hids).2
    | changeCarts hlines =>
        refine ⟨?_, hsimilar.leftBelong, hsimilar.rightBelong⟩
        simp only [viewOf, respond, hsimilar.orders, hlines, hsimilar.approvals]
  both_alike {left right event other} hsimilar hmatched := by
    cases hmatched with
    | createOrder hsubject hleft hright =>
        simp only [received, respond,
          (postOrder_alike hsimilar _ _ hsubject hleft hright).1]
    | getOrders hsubject =>
        have horders := hsimilar.orders
        rw [ownOrders, ownOrders] at horders
        simp only [received, respond, OrderService.getOrders, responseWithoutIds, hsubject, horders]
    | getAllOrders hsubject hleft hright =>
        have horders := hsimilar.orders
        rw [ownOrders, ownOrders] at horders
        simp only [received, respond, getAll, getAllOrders_of_hasOnlyOwnOrders hleft,
          getAllOrders_of_hasOnlyOwnOrders hright, responseWithoutIds, horders]
    | getOrder hsubject hids =>
        simp only [received, respond, getOrder_alike hsimilar hsubject hids]
        rfl
    | getForeignOrder hsubject hleft hright =>
        simp only [received, respond, getOrder_foreign hsubject hleft,
          getOrder_foreign hsubject hright]
        rfl
    | updateOrderStatus hids =>
        simp only [received, respond, (updateOrderStatus_alike hsimilar _ hids).1]
        rfl
    | changeCarts _ => rfl

end Matched

/-! ## Isolation -/

section Isolation

variable {configuration : OrderConfiguration} {java : JavaSecurity} {user : JString}
  {left right state : ShopState}

theorem leavesOthers_updateOrderStatus {jwt : Jwt} {id : ℤ} {status : JString}
    (hown : ∀ order ∈ state.tables.orders.rows, order.id = id → order.userId = user) :
    LeavesOthers configuration java user state (.request (.updateOrderStatus jwt id status)) :=
  fun _ => detailsWhere_updateOrderStatus (fun _ _ => rfl) fun order hmem hid => by
    simpa using hown order hmem hid

theorem leavesOthers_createOrder (hbelong : ItemsBelong state.tables)
    {environment : CreateOrderEnvironment} {jwt : Jwt} {payload : OrderPayload}
    {client : ClientInfo} :
    LeavesOthers configuration java user state
      (.request (.createOrder environment jwt payload client)) := by
  intro hsender
  rcases postOrder_state configuration java state environment jwt payload client with
    hsame | hcreated
  · simp only [respond, hsame]
  · simp only [respond, hcreated]
    apply detailsWhere_createOrder rfl hbelong
    intro order howner
    have hown : order.userId = user := howner.trans hsender
    simpa using hown

/-- An id of the user's own list, or of no order, is nobody else's. -/
theorem userId_of_ownId {id : ℤ}
    (hid : (∃ position : ℕ, (ownIds user state.tables)[position]? = some id) ∨
      state.tables.orders.find? id = none) :
    ∀ order ∈ state.tables.orders.rows, order.id = id → order.userId = user := by
  intro order hmem horder
  have hfind := state.tables.orders.find?_eq_some_iff.mpr ⟨hmem, horder⟩
  rcases hid with ⟨position, hposition⟩ | hnone
  · obtain ⟨found, hfound, howner, -⟩ := find?_of_ownIds hposition
    obtain rfl : found = order := Option.some.inj (hfound.symm.trans hfind)
    exact howner
  · rw [hnone] at hfind
    cases hfind

theorem leavesOthers_foreign {event : Event} (hforeign : IsForeign user state event) :
    LeavesOthers configuration java user state event := by
  cases event with
  | changeCarts cartStore => trivial
  | request request => exact fun hsender => absurd hsender (sender_ne_of_isForeign hforeign)

theorem leavesOthers_matched {event other : Event} (hsimilar : Similar user left right)
    (hmatched : Corresponds user left right event other) :
    LeavesOthers configuration java user left event ∧
      LeavesOthers configuration java user right other := by
  cases hmatched with
  | createOrder _ _ _ =>
      exact ⟨leavesOthers_createOrder hsimilar.leftBelong,
        leavesOthers_createOrder hsimilar.rightBelong⟩
  | getOrders _ => exact ⟨fun _ => rfl, fun _ => rfl⟩
  | getAllOrders _ _ _ => exact ⟨fun _ => rfl, fun _ => rfl⟩
  | getOrder _ _ => exact ⟨fun _ => rfl, fun _ => rfl⟩
  | getForeignOrder _ _ _ => exact ⟨fun _ => rfl, fun _ => rfl⟩
  | updateOrderStatus hids =>
      constructor
      · exact leavesOthers_updateOrderStatus (userId_of_ownId
          (hids.imp (fun ⟨position, hleft, _⟩ => ⟨position, hleft⟩) And.left))
      · exact leavesOthers_updateOrderStatus (userId_of_ownId
          (hids.imp (fun ⟨position, _, hright⟩ => ⟨position, hright⟩) And.right))
  | changeCarts _ => exact ⟨trivial, trivial⟩

/-- In two runs that differ in other users' orders, and whose common events meet
the condition, no request of the user changes an order of another user, and the
user receives the same responses. -/
theorem orders_isolated (configuration : OrderConfiguration) (java : JavaSecurity)
    (user : JString) (left right : ShopState) (events others : List Event)
    (hsimilar : Similar user left right)
    (hpaired : Paired (respond configuration java) (IsForeign user) (Corresponds user)
      left events right others) :
    EveryStep (respond configuration java) (LeavesOthers configuration java user) left events ∧
      EveryStep (respond configuration java) (LeavesOthers configuration java user) right others ∧
      observed (respond configuration java) (received user) left events =
        observed (respond configuration java) (received user) right others := by
  have hunwinding := orders_unwinding configuration java user
  obtain ⟨hleft, hright⟩ := everyStep_of_paired hunwinding leavesOthers_foreign
    leavesOthers_matched hpaired hsimilar
  exact ⟨hleft, hright, observed_eq hunwinding hpaired hsimilar⟩

end Isolation

open ShoppingWeb.Checkout

def aliceJwt : Jwt := ⟨js "alice", none⟩

def bobJwt : Jwt := ⟨js "bob", none⟩

def plainClient : ClientInfo where
  xForwardedFor := some (js "203.0.113.7")
  remoteAddr := none
  userAgent := some (js "Mozilla/5.0")
  sessionId := js "session-1"

/-- A payload whose signature is in the encoding the server expects. -/
def signedPayload : OrderPayload where
  shippingAddress := some (js "1 Main Street")
  phoneNumber := some (js "0900000000")
  timestamp := some (js "1700000000000")
  signature := some (Base64.encode sampleSignature.derBytes)
  publicKey := some (Base64.encode sampleSpki)

def aliceOrders : Event :=
  .request (.createOrder (smoothEnvironment laptop) aliceJwt signedPayload plainClient)

def bobOrders : Event :=
  .request (.createOrder { smoothEnvironment laptop with trackingSuffix := js "BA9876543210" }
    bobJwt signedPayload plainClient)

def aliceCart : CartStore := CartStore.empty.addItemToCart (js "alice") 7 2

/-- Bob orders first, so Alice's order has id 2. -/
def runWithBob : List Event :=
  [.changeCarts (aliceCart.addItemToCart (js "bob") 7 1), bobOrders, aliceOrders,
    .request (.updateOrderStatus aliceJwt 2 (js "CANCELLED")), .request (.getOrder aliceJwt 2)]

def runWithoutBob : List Event :=
  [.changeCarts aliceCart, aliceOrders,
    .request (.updateOrderStatus aliceJwt 1 (js "CANCELLED")), .request (.getOrder aliceJwt 1)]

theorem similar_empty (user : JString) : Similar user .empty .empty where
  view := rfl
  leftBelong _ hitem := absurd hitem List.not_mem_nil
  rightBelong _ hitem := absurd hitem List.not_mem_nil

theorem paired_runs :
    Paired (respond plainConfiguration sampleJava) (IsForeign (js "alice"))
      (Corresponds (js "alice")) .empty runWithBob .empty runWithoutBob := by
  refine .both (.changeCarts (by decide +kernel)) (.skipLeft ?_ (.both (.createOrder rfl ?_ ?_)
    (.both (.updateOrderStatus (Or.inl ⟨0, ?_, ?_⟩)) (.both (.getOrder rfl (Or.inl ⟨0, ?_, ?_⟩))
      .nil))))
  · exact (by decide : js "bob" ≠ js "alice")
  · unfold NoForeignTracking
    decide +kernel
  · unfold NoForeignTracking
    decide +kernel
  · decide +kernel
  · decide +kernel
  · decide +kernel
  · decide +kernel

theorem orders_isolated_from_bob :
    EveryStep (respond plainConfiguration sampleJava)
        (LeavesOthers plainConfiguration sampleJava (js "alice")) .empty runWithBob ∧
      EveryStep (respond plainConfiguration sampleJava)
        (LeavesOthers plainConfiguration sampleJava (js "alice")) .empty runWithoutBob ∧
      observed (respond plainConfiguration sampleJava) (received (js "alice")) .empty
          runWithBob =
        observed (respond plainConfiguration sampleJava) (received (js "alice")) .empty
          runWithoutBob :=
  orders_isolated plainConfiguration sampleJava (js "alice") .empty .empty runWithBob
    runWithoutBob (similar_empty _) paired_runs

/-- Alice cancels the order of Bob. -/
def intrusion : List Event :=
  [.changeCarts (CartStore.empty.addItemToCart (js "bob") 7 1), bobOrders,
    .request (.updateOrderStatus aliceJwt 1 (js "CANCELLED"))]

/-- Alice asks for all orders. -/
def curiosity : List Event :=
  [.changeCarts (CartStore.empty.addItemToCart (js "bob") 7 1), bobOrders,
    .request (.getAllOrders aliceJwt)]

/-- Alice can change Bob's order, and she can tell whether it exists. -/
theorem orders_not_isolated :
    (¬ ∀ (configuration : OrderConfiguration) (java : JavaSecurity) (user : JString)
        (events : List Event),
        EveryStep (respond configuration java) (LeavesOthers configuration java user) .empty
          events) ∧
      ¬ ∀ (configuration : OrderConfiguration) (java : JavaSecurity) (user : JString)
        (events others : List Event),
        Paired (respond configuration java) (IsForeign user)
          (fun _ _ event other => event = other) .empty events .empty others →
        observed (respond configuration java) (received user) .empty events =
          observed (respond configuration java) (received user) .empty others := by
  constructor
  · intro hleaves
    obtain ⟨-, -, hupdate, -⟩ := hleaves plainConfiguration sampleJava (js "alice") intrusion
    exact absurd (hupdate rfl) (by decide +kernel)
  · intro hsame
    have hpaired : Paired (respond plainConfiguration sampleJava) (IsForeign (js "alice"))
        (fun _ _ event other => event = other) .empty curiosity .empty
        [.request (.getAllOrders aliceJwt)] := by
      refine .skipLeft ?_ (.skipLeft ?_ (.both rfl .nil))
      · exact (by decide +kernel : ownLines (js "alice")
          (CartStore.empty.addItemToCart (js "bob") 7 1) =
            ownLines (js "alice") ShopState.empty.cartStore)
      · exact (by decide : js "bob" ≠ js "alice")
    exact absurd (hsame plainConfiguration sampleJava (js "alice") curiosity _ hpaired)
      (by decide +kernel)

end ShoppingWeb.OrderIsolation
