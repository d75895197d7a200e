import ShoppingWeb.Lib.Agreement
import ShoppingWeb.Order.UserView

/-!
# createOrder in two runs

A call for a user reads the user's cart, the user's cached approvals, and
whether its tracking number is taken.  From two states that agree on these, it
has the same outcome up to the generated order id.
-/

namespace ShoppingWeb.OrderIsolation

open ShoppingWeb.Utf16
open ShoppingWeb.Shared
open ShoppingWeb.CartService
open ShoppingWeb.OrderService
open ShoppingWeb.PaymentSecurityGateway
open Program

/-- What a call for the user reads. -/
structure SameInput (user : JString) (environment : CreateOrderEnvironment)
    (first second : ShopState) : Prop where
  approvals : ownApprovals user first.gateway = ownApprovals user second.gateway
  lines : ownLines user first.cartStore = ownLines user second.cartStore
  tracking : trackingIsFree environment first.tables.orders.rows =
    trackingIsFree environment second.tables.orders.rows

/-- Orders that differ in their ids only. -/
def SameOrder (first second : Order) : Prop :=
  { first with id := 0 } = { second with id := 0 }

section Agreement

variable {configuration : OrderConfiguration} {environment : CreateOrderEnvironment}
  {request : CreateOrderRequest} {user : JString} {related : ShopState → ShopState → Prop}

theorem agree_failWhen (condition : Bool) :
    Agree related (fun _ _ => True) (failWhen condition) (failWhen condition) := by
  cases condition with
  | true => exact agree_throw _
  | false => exact agree_pure trivial

theorem agree_notNull {Value : Type} (column : Option Value) :
    Agree related (fun value value' => value = value' ∧ column = some value) (notNull column)
      (notNull column) := by
  cases column with
  | none => exact agree_throw _
  | some value => exact agree_pure ⟨rfl, rfl⟩

/-- Cart items that differ in their ids only. -/
def SameLines (first second : List CartItem) : Prop :=
  first.map (fun item => (item.productId, item.quantity)) =
    second.map fun item => (item.productId, item.quantity)

theorem agree_retrieveCart (hsubject : request.bearerSubject = user) :
    Agree (SameInput user environment) SameLines (retrieveCart environment request)
      (retrieveCart environment request) := by
  have hreply : Agree (SameInput user environment)
      (fun reply reply' => ∃ items items', reply = some ⟨some items⟩ ∧
        reply' = some ⟨some items'⟩ ∧ SameLines items items')
      (getCartEndpoint request.bearerSubject) (getCartEndpoint request.bearerSubject) := by
    intro first second hsame
    rw [exec_getCartEndpoint, exec_getCartEndpoint, hsubject]
    refine ⟨⟨_, _, rfl, rfl, hsame.lines⟩, hsame.approvals, ?_, hsame.tracking⟩
    simpa only [ownLines, CartStore.linesOf_getOrCreateCart] using hsame.lines
  apply agree_bind (agree_remote hreply _ _)
  rintro _ _ ⟨items, items', rfl, rfl, hlines⟩
  cases items with
  | nil =>
      obtain rfl : items' = [] := by simpa [SameLines] using hlines.symm
      exact agree_throw _
  | cons item items =>
      cases items' with
      | nil => simp [SameLines] at hlines
      | cons item' items' => exact agree_pure hlines

/-- Items are built from products and quantities alone. -/
theorem buildItems_congr {crypto : Crypto} {product : ℕ → CatalogAnswer}
    {items items' : List CartItem} (hlines : SameLines items items') :
    buildItems crypto product items = buildItems crypto product items' := by
  have hfold : ∀ (items items' : List CartItem) (position : ℕ) (draft : Draft),
      SameLines items items' →
      (items.zipIdx position).foldlM (addCartItem crypto product) draft =
        (items'.zipIdx position).foldlM (addCartItem crypto product) draft := by
    intro items
    induction items with
    | nil =>
        intro items' position draft hlines
        obtain rfl : items' = [] := by simpa [SameLines] using hlines.symm
        rfl
    | cons item items ih =>
        intro items' position draft hlines
        cases items' with
        | nil => simp [SameLines] at hlines
        | cons item' items' =>
            simp only [SameLines, List.map_cons, List.cons.injEq, Prod.mk.injEq] at hlines
            obtain ⟨⟨hproduct, hquantity⟩, hrest⟩ := hlines
            have hstep : addCartItem crypto product draft (item, position) =
                addCartItem crypto product draft (item', position) := by
              simp only [addCartItem, hproduct, hquantity]
            simp only [List.zipIdx_cons, List.foldlM_cons, hstep]
            congr 1
            funext next
            exact ih items' (position + 1) next hrest
  exact hfold items items' 0 _ hlines

theorem agree_passGate {context : TransactionContext} (hcontext : context.userId = some user) :
    Agree (SameInput user environment) (fun _ _ => True)
      (passGate configuration environment context)
      (passGate configuration environment context) := by
  intro first second hsame
  have hcached := congrFun hsame.approvals context
  rw [ownApprovals_own hcontext, ownApprovals_own hcontext] at hcached
  have hanswer : (gateAnswer configuration environment context first.gateway).1 =
      (gateAnswer configuration environment context second.gateway).1 :=
    validate_answer_congr _ _ _ hcached
  rw [exec_passGate, exec_passGate]
  simp only [hanswer]
  refine ⟨?_, ownApprovals_validate_congr _ _ _ hcontext hsame.approvals, hsame.lines,
    hsame.tracking⟩
  split
  · trivial
  · rfl

theorem agree_saveNewOrder (totalAmount : BigDecimal) :
    Agree (SameInput user environment) SameOrder (saveNewOrder environment request totalAmount)
      (saveNewOrder environment request totalAmount) := by
  apply agree_bind (agree_notNull _)
  rintro userId _ ⟨rfl, -⟩
  refine agree_bind (agree_failWhen _) fun _ _ _ => agree_get_bind fun first second hsame => ?_
  have htaken : (first.tables.orders.rows.any fun order =>
      order.trackingNumber == trackingNumberOf environment) =
      second.tables.orders.rows.any fun order =>
        order.trackingNumber == trackingNumberOf environment := by
    simpa [trackingIsFree] using hsame.tracking
  simp only [htaken]
  refine agree_bind (agree_failWhen _) (fun _ _ _ => ?_) first second hsame
  refine agree_bind (agree_modify fun first second hsame => ?_) fun _ _ _ => agree_pure rfl
  exact ⟨hsame.approvals, hsame.lines, by simp [trackingIsFree, Keyed.withKey]⟩

theorem agree_saveItem (savedOrder savedOrder' : Order) (entry : OrderItem × ℕ) :
    Agree (SameInput user environment) (fun _ _ => True) (saveItem environment savedOrder entry)
      (saveItem environment savedOrder' entry) :=
  agree_bind (agree_failWhen _) fun _ _ _ =>
    agree_modify fun _ _ hsame => ⟨hsame.approvals, hsame.lines, hsame.tracking⟩

theorem agree_saveShippingInfo (savedOrder savedOrder' : Order) :
    Agree (SameInput user environment) (fun _ _ => True)
      (saveShippingInfo configuration environment request savedOrder)
      (saveShippingInfo configuration environment request savedOrder') := by
  have hindex : Agree (SameInput user environment) Eq
      (calculateBlindIndex configuration request.phone)
      (calculateBlindIndex configuration request.phone) := by
    cases request.phone with
    | none => exact agree_throw _
    | some phone => exact agree_pure rfl
  apply agree_bind hindex
  rintro phoneBlindIndex _ rfl
  refine agree_bind (agree_failWhen _) fun _ _ _ => agree_bind (agree_notNull _) ?_
  rintro customerName _ ⟨rfl, -⟩
  apply agree_bind (agree_notNull _)
  rintro encryptedAddress _ ⟨rfl, -⟩
  apply agree_bind (agree_notNull _)
  rintro encryptedPhone _ ⟨rfl, -⟩
  exact agree_modify fun _ _ hsame => ⟨hsame.approvals, hsame.lines, hsame.tracking⟩

theorem agree_placeOrder (huser : request.userId = some user) {items items' : List CartItem}
    (hlines : SameLines items items') :
    Agree (SameInput user environment) SameOrder
      (placeOrder configuration environment request items)
      (placeOrder configuration environment request items') := by
  have hbuild : Agree (SameInput user environment) Eq
      (Program.ofExcept (buildItems configuration.crypto environment.product items))
      (Program.ofExcept (buildItems configuration.crypto environment.product items')) := by
    rw [buildItems_congr hlines]
    cases buildItems configuration.crypto environment.product items' with
    | error exception => exact agree_throw _
    | ok draft => exact agree_pure rfl
  apply agree_bind hbuild
  rintro draft _ rfl
  refine agree_bind (agree_passGate huser) fun _ _ _ =>
    agree_bind (agree_saveNewOrder _) fun savedOrder savedOrder' hsaved =>
    agree_bind (agree_each (agree_saveItem savedOrder savedOrder') _) fun _ _ _ =>
    agree_bind (agree_saveShippingInfo savedOrder savedOrder') fun _ _ _ => agree_pure hsaved

/-- From the same input a call has the same outcome, up to the order's id. -/
theorem agree_createOrder (hsubject : request.bearerSubject = user)
    (huser : request.userId = some user) :
    Agree (SameInput user environment) SameOrder (createOrder configuration environment request)
      (createOrder configuration environment request) := by
  have hclear : Agree (SameInput user environment) (fun _ _ => True)
      (clearCartEndpoint request.bearerSubject) (clearCartEndpoint request.bearerSubject) := by
    refine agree_modify fun first second hsame => ⟨hsame.approvals, ?_, hsame.tracking⟩
    simp only [ownLines, hsubject, CartStore.linesOf_clearCart]
  refine agree_transactional ?_ _ fun first second middle middle' hbefore hafter =>
    ⟨hafter.approvals, hafter.lines, hbefore.tracking⟩
  refine agree_bind (agree_retrieveCart hsubject) fun items items' hlines =>
    agree_bind (agree_placeOrder huser hlines) fun savedOrder savedOrder' hsaved =>
    agree_bind (agree_remote hclear _ _) fun _ _ _ => agree_pure hsaved

end Agreement

section Views

variable {configuration : OrderConfiguration} {environment : CreateOrderEnvironment}
  {request : CreateOrderRequest} {user : JString} {left right : ShopState}

/-- The user sees the same, and both databases are consistent. -/
structure Similar (user : JString) (left right : ShopState) : Prop where
  view : viewOf user left = viewOf user right
  leftBelong : ItemsBelong left.tables
  rightBelong : ItemsBelong right.tables

theorem Similar.orders (hsimilar : Similar user left right) :
    ownOrders user left.tables = ownOrders user right.tables :=
  congrArg UserView.orders hsimilar.view

theorem Similar.lines (hsimilar : Similar user left right) :
    ownLines user left.cartStore = ownLines user right.cartStore :=
  congrArg UserView.lines hsimilar.view

theorem Similar.approvals (hsimilar : Similar user left right) :
    ownApprovals user left.gateway = ownApprovals user right.gateway :=
  congrArg UserView.approvals hsimilar.view

/-- No other user's order has the tracking number drawn for the call. -/
def NoForeignTracking (user : JString) (environment : CreateOrderEnvironment)
    (tables : OrderTables) : Prop :=
  ∀ order ∈ tables.orders.rows, order.userId ≠ user →
    order.trackingNumber ≠ trackingNumberOf environment

/-- Then only the user's own orders can take it. -/
theorem trackingIsFree_of_noForeignTracking {tables : OrderTables}
    (hforeign : NoForeignTracking user environment tables) :
    trackingIsFree environment tables.orders.rows =
      !(ownOrders user tables).any fun details =>
        details.order.trackingNumber == trackingNumberOf environment := by
  rw [trackingIsFree, Bool.eq_iff_iff]
  simp only [Bool.not_eq_true', List.any_eq_false, ownOrders, getOrdersByUserId, List.mem_map,
    forall_exists_index, and_imp, List.mem_filter]
  constructor
  · rintro hfree details _ order hmem howner rfl rfl
    exact hfree order hmem
  · intro hfree order hmem
    by_cases howner : order.userId = user
    · exact hfree _ _ order hmem (beq_iff_eq.mpr howner) rfl rfl
    · simpa using hforeign order hmem howner

/-- The user's orders after a placement for the user. -/
theorem ownOrders_placement {state : ShopState} {placement : Placement}
    (hbelong : ItemsBelong state.tables) (howner : placement.userId = user) :
    ownOrders user (placement.tables configuration environment state) =
      ownOrders user state.tables ++
        [⟨newOrder environment 0 user placement.draft.totalAmount,
          placement.draft.jpaOrderItems.map OrderItem.content⟩] := by
  obtain ⟨saved, hcontent, hdetails⟩ := detailsWhere_placement configuration environment placement
    hbelong fun order => order.userId == user
  have hown : (placement.order environment state).userId = user := howner
  rw [ownOrders, show getOrdersByUserId _ user = _ from hdetails, hown, List.map_append]
  simp only [beq_self_eq_true, if_true, List.map_singleton, withoutIds, hcontent]
  rw [← howner]
  rfl

/-- A call that returns has added one order, built from the user's cart. -/
theorem ownOrders_createOrder_ok {state final : ShopState} {order : Order}
    (hbelong : ItemsBelong state.tables) (hsubject : request.bearerSubject = user)
    (huser : request.userId = some user)
    (hexec : exec (createOrder configuration environment request) state = (.ok order, final)) :
    ∃ draft, buildItems configuration.crypto environment.product
        (state.cartStore.linesOf user) = .ok draft ∧
      ownOrders user final.tables =
        ownOrders user state.tables ++
          [⟨newOrder environment 0 user draft.totalAmount,
            draft.jpaOrderItems.map OrderItem.content⟩] := by
  obtain ⟨placement, ⟨-, -, hplace⟩, -, -, -, rfl⟩ := exec_createOrder_ok.mp hexec
  have howner : placement.userId = user :=
    Option.some.inj (hplace.hasUserId.symm.trans huser)
  exact ⟨placement.draft, hsubject ▸ hplace.built, ownOrders_placement hbelong howner⟩

/-- A call that throws leaves the user's orders as they were. -/
theorem ownOrders_createOrder_error {state final : ShopState} {exception : ServiceException}
    (hexec : exec (createOrder configuration environment request) state =
      (.error exception, final)) :
    ownOrders user final.tables = ownOrders user state.tables :=
  congrArg (List.map withoutIds) (detailsWhere_of_contents (exec_createOrder_error hexec).1 _)

/-- Calls with the same outcome, on carts with the same lines, leave the user
with the same orders. -/
theorem ownOrders_createOrder_alike (hsimilar : Similar user left right)
    (hsubject : request.bearerSubject = user) (huser : request.userId = some user)
    (houtcome : SameOutcome SameOrder (exec (createOrder configuration environment request) left).1
      (exec (createOrder configuration environment request) right).1) :
    ownOrders user (exec (createOrder configuration environment request) left).2.tables =
      ownOrders user (exec (createOrder configuration environment request) right).2.tables := by
  cases hexec : exec (createOrder configuration environment request) left with
  | mk outcome final =>
      cases hexec' : exec (createOrder configuration environment request) right with
      | mk outcome' final' =>
          rw [hexec, hexec'] at houtcome
          cases outcome with
          | error exception =>
              cases outcome' with
              | ok order' => exact houtcome.elim
              | error exception' =>
                  calc
                    ownOrders user final.tables = ownOrders user left.tables :=
                      ownOrders_createOrder_error hexec
                    _ = ownOrders user right.tables := hsimilar.orders
                    _ = ownOrders user final'.tables := (ownOrders_createOrder_error hexec').symm
          | ok order =>
              cases outcome' with
              | error exception' => exact houtcome.elim
              | ok order' =>
                  obtain ⟨draft, hbuild, hadded⟩ :=
                    ownOrders_createOrder_ok hsimilar.leftBelong hsubject huser hexec
                  obtain ⟨draft', hbuild', hadded'⟩ :=
                    ownOrders_createOrder_ok hsimilar.rightBelong hsubject huser hexec'
                  have hlines : ownLines user left.cartStore = ownLines user right.cartStore :=
                    hsimilar.lines
                  rw [buildItems_congr hlines, hbuild'] at hbuild
                  obtain rfl : draft' = draft := Except.ok.inj hbuild
                  rw [hadded, hadded', hsimilar.orders]

variable (configuration) in
/-- Both calls place the same order, or both throw the same exception. -/
theorem createOrder_alike (hsimilar : Similar user left right)
    (hsubject : request.bearerSubject = user) (huser : request.userId = some user)
    (hleft : NoForeignTracking user environment left.tables)
    (hright : NoForeignTracking user environment right.tables) :
    SameOutcome SameOrder (exec (createOrder configuration environment request) left).1
        (exec (createOrder configuration environment request) right).1 ∧
      Similar user (exec (createOrder configuration environment request) left).2
        (exec (createOrder configuration environment request) right).2 := by
  have hinput : SameInput user environment left right :=
    { approvals := hsimilar.approvals
      lines := hsimilar.lines
      tracking := by
        rw [trackingIsFree_of_noForeignTracking hleft,
          trackingIsFree_of_noForeignTracking hright, hsimilar.orders] }
  have hagree : Agree (SameInput user environment) SameOrder
      (createOrder configuration environment request)
      (createOrder configuration environment request) := agree_createOrder hsubject huser
  obtain ⟨houtcome, hafter⟩ := hagree left right hinput
  have hown := ownOrders_createOrder_alike hsimilar hsubject huser houtcome
  constructor
  · exact houtcome
  · exact
      { view := by simp only [viewOf, hown, hafter.lines, hafter.approvals]
        leftBelong := itemsBelong_createOrder huser hsimilar.leftBelong
        rightBelong := itemsBelong_createOrder huser hsimilar.rightBelong }

end Views

end ShoppingWeb.OrderIsolation
