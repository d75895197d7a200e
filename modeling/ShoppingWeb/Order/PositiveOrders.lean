import Mathlib.Algebra.Order.BigOperators.Group.List
import ShoppingWeb.Lib.TransitionSystem
import ShoppingWeb.Order.CreateOrderSpec

/-!
# Positive orders

Cart operations and `createOrder` calls by any users.  Updating a quantity to
zero or less removes the item; adding has no such check, and its 32-bit sum
may wrap around.  The risk engine compares the total with the catalog, not
with zero.
-/

namespace ShoppingWeb.PositiveOrders

open ShoppingWeb.Utf16
open ShoppingWeb.Shared
open ShoppingWeb.CartService
open ShoppingWeb.OrderService
open ShoppingWeb.TransitionSystem
open Program

inductive ShopEvent where
  | addItemToCart (userId : JString) (productId : ℤ) (quantity : Int32)
  | updateItemQuantity (userId : JString) (itemId : ℤ) (quantity : Int32)
  | removeItemFromCart (userId : JString) (itemId : ℤ)
  | clearCart (userId : JString)
  | createOrder (environment : CreateOrderEnvironment) (request : CreateOrderRequest)

/-- The store after a cart request; a failed request is rolled back. -/
def orElse (store : CartStore) : Except ServiceException CartStore → CartStore
  | .ok after => after
  | .error _ => store

/-- Every event happens in every state, whether or not its request succeeds. -/
def effect (configuration : OrderConfiguration) (state : ShopState) : ShopEvent → ShopState
  | .addItemToCart userId productId quantity =>
      { state with cartStore := state.cartStore.addItemToCart userId productId quantity }
  | .updateItemQuantity userId itemId quantity =>
      { state with
        cartStore := orElse state.cartStore
          (state.cartStore.updateItemQuantity userId itemId quantity) }
  | .removeItemFromCart userId itemId =>
      { state with
        cartStore := orElse state.cartStore (state.cartStore.removeItemFromCart userId itemId) }
  | .clearCart userId => { state with cartStore := state.cartStore.clearCart userId }
  | .createOrder environment request =>
      (exec (createOrder configuration environment request) state).2

def step (configuration : OrderConfiguration) (state : ShopState) (event : ShopEvent) :
    Option ShopState :=
  some (effect configuration state event)

/-- Every price the catalog answers with during the event is greater than 0. -/
def PositivePrices : ShopEvent → Prop
  | .createOrder environment _ =>
      ∀ position name price, environment.product position = .product name (some price) →
        0 < price.toRat
  | _ => True

/-- An addition leaves a positive 32-bit quantity. -/
def AddsPositive (state : ShopState) : ShopEvent → Prop
  | .addItemToCart userId productId quantity =>
      1 ≤ (state.cartStore.existingQuantity userId productId).toInt + quantity.toInt ∧
        (state.cartStore.existingQuantity userId productId).toInt + quantity.toInt < 2 ^ 31
  | _ => True

instance (state : ShopState) (event : ShopEvent) : Decidable (AddsPositive state event) :=
  match event with
  | .addItemToCart _ _ _ => inferInstanceAs (Decidable (_ ∧ _))
  | .updateItemQuantity _ _ _ | .removeItemFromCart _ _ | .clearCart _ | .createOrder _ _ =>
      inferInstanceAs (Decidable True)

/-- A quantity of at least 1. -/
def AtLeastOne (quantity : Int32) : Prop := 1 ≤ quantity.toInt

/-- Saved items and saved totals are positive. -/
structure OrdersPositive (tables : OrderTables) : Prop where
  quantities : ∀ item ∈ tables.orderItems.rows, 1 ≤ item.quantity.toInt
  totals : ∀ order ∈ tables.orders.rows, 0 < order.totalAmount.toRat

/-- Carts are positive too. -/
structure ShopPositive (state : ShopState) : Prop where
  orders : OrdersPositive state.tables
  carts : state.cartStore.EveryQuantity AtLeastOne

theorem ordersPositive_of_contents {before after : OrderTables}
    (hcontents : after.contents = before.contents) (hbefore : OrdersPositive before) :
    OrdersPositive after := by
  simp only [OrderTables.contents, Prod.mk.injEq] at hcontents
  obtain ⟨horders, hitems, -⟩ := hcontents
  exact ⟨by rw [hitems]; exact hbefore.quantities, by rw [horders]; exact hbefore.totals⟩

/-- A cart of positive quantities at positive prices has a positive total. -/
theorem cartTotal_pos {product : ℕ → CatalogAnswer} {cartItems : List CartItem}
    (hitems : cartItems ≠ [])
    (hprices : ∀ entry ∈ cartItems.zipIdx,
      0 < (TransactionSecurityService.getCurrentPrice (product entry.2)).toRat)
    (hquantities : ∀ item ∈ cartItems, AtLeastOne item.quantity) :
    0 < cartTotal product cartItems := by
  have hterms : ∀ term ∈ cartItems.zipIdx.map (fun entry =>
      (TransactionSecurityService.getCurrentPrice (product entry.2)).toRat *
        (entry.1.quantity.toInt : ℚ)), 0 < term := by
    intro term hterm
    obtain ⟨entry, hentry, rfl⟩ := List.mem_map.mp hterm
    have hquantity := hquantities entry.1 (List.fst_mem_of_mem_zipIdx hentry)
    exact mul_pos (hprices entry hentry) (by exact_mod_cast hquantity)
  apply List.sum_pos _ hterms
  simpa using hitems

section Steps

variable {configuration : OrderConfiguration} {state : ShopState}

/-- A placed order is positive when the cart is. -/
theorem ordersPositive_placement {environment : CreateOrderEnvironment}
    {request : CreateOrderRequest} {placement : Placement} {cartItems : List CartItem}
    (hstate : OrdersPositive state.tables) (hitems : cartItems ≠ [])
    (hquantities : ∀ item ∈ cartItems, AtLeastOne item.quantity)
    (hprices : PositivePrices (.createOrder environment request))
    (hplace : CanPlace configuration environment request state cartItems placement) :
    OrdersPositive (placement.tables configuration environment state) where
  quantities row hrow := by
    obtain ⟨saved, hrows, -, hcontent⟩ := rows_insertItems state.tables.orderItems
      state.tables.orders.nextKey placement.draft.jpaOrderItems
    rcases List.mem_append.mp (hrows ▸ hrow : row ∈ state.tables.orderItems.rows ++ saved) with
      hold | hnew
    · exact hstate.quantities row hold
    · have hsaved : row.content ∈ placement.draft.jpaOrderItems.map OrderItem.content :=
        hcontent ▸ List.mem_map_of_mem hnew
      obtain ⟨item, hitem, hsame⟩ := List.mem_map.mp hsaved
      have hpair : (item.productId, item.quantity) ∈
          cartItems.map fun item => (item.productId, item.quantity) := by
        rw [← buildItems_quantities hplace.built]
        exact List.mem_map_of_mem hitem
      obtain ⟨cartItem, hcartItem, heq⟩ := List.mem_map.mp hpair
      have hquantity : row.quantity = cartItem.quantity := by
        calc
          row.quantity = item.quantity := (congrArg OrderItem.quantity hsame).symm
          _ = cartItem.quantity := (congrArg Prod.snd heq).symm
      rw [hquantity]
      exact hquantities cartItem hcartItem
  totals order horder := by
    rcases List.mem_append.mp horder with hold | hnew
    · exact hstate.totals order hold
    · rw [List.mem_singleton.mp hnew]
      change 0 < placement.draft.totalAmount.toRat
      rw [buildItems_totalAmount hplace.built]
      refine cartTotal_pos hitems (fun entry hentry => ?_) hquantities
      obtain ⟨name, price, hproduct⟩ := buildItems_ok_iff.mp ⟨_, hplace.built⟩ entry hentry
      simpa [hproduct, TransactionSecurityService.getCurrentPrice] using
        hprices entry.2 (some name) price hproduct

theorem shopPositive_createOrder {environment : CreateOrderEnvironment}
    {request : CreateOrderRequest} (hstate : ShopPositive state)
    (hprices : PositivePrices (.createOrder environment request)) :
    ShopPositive (exec (createOrder configuration environment request) state).2 where
  orders := by
    cases hexec : exec (createOrder configuration environment request) state with
    | mk outcome final =>
        cases outcome with
        | error exception =>
            exact ordersPositive_of_contents (exec_createOrder_error hexec).1 hstate.orders
        | ok order =>
            obtain ⟨placement, ⟨-, hitems, hplace⟩, -, -, -, rfl⟩ := exec_createOrder_ok.mp hexec
            exact ordersPositive_placement hstate.orders hitems
              (fun _ => CartStore.everyQuantity_linesOf hstate.carts) hprices hplace
  carts := by
    obtain ⟨opened, hitems, hopened⟩ := cartStore_createOrder configuration environment request
      state
    have hpositive : opened.EveryQuantity AtLeastOne := by
      intro item hitem
      rw [hitems] at hitem
      exact hstate.carts item hitem
    rcases hopened with hsame | hcleared
    · rwa [hsame]
    · rw [hcleared]
      exact CartStore.everyQuantity_clearCart hpositive request.bearerSubject

theorem everyQuantity_orElse {store : CartStore} {result : Except ServiceException CartStore}
    (hstore : store.EveryQuantity AtLeastOne)
    (hresult : ∀ after, result = .ok after → after.EveryQuantity AtLeastOne) :
    (orElse store result).EveryQuantity AtLeastOne := by
  cases result with
  | error exception => exact hstore
  | ok after => exact hresult after rfl

theorem shopPositive_effect {event : ShopEvent} (hstate : ShopPositive state)
    (hprices : PositivePrices event) (hadds : AddsPositive state event) :
    ShopPositive (effect configuration state event) := by
  cases event with
  | addItemToCart userId productId quantity =>
      obtain ⟨hlower, hupper⟩ := hadds
      refine ⟨hstate.orders, CartStore.everyQuantity_addItemToCart hstate.carts ?_⟩
      rw [AtLeastOne, toInt_add_of_fits (by omega) hupper]
      exact hlower
  | updateItemQuantity userId itemId quantity =>
      refine ⟨hstate.orders, everyQuantity_orElse hstate.carts fun after hupdate => ?_⟩
      exact CartStore.everyQuantity_updateItemQuantity hstate.carts
        (fun hpositive => Int32.lt_iff_toInt_lt.mp hpositive) hupdate
  | removeItemFromCart userId itemId =>
      refine ⟨hstate.orders, everyQuantity_orElse hstate.carts fun after hremove => ?_⟩
      exact CartStore.everyQuantity_removeItemFromCart hstate.carts hremove
  | clearCart userId =>
      exact ⟨hstate.orders, CartStore.everyQuantity_clearCart hstate.carts userId⟩
  | createOrder environment request => exact shopPositive_createOrder hstate hprices

end Steps

theorem shopPositive_empty : ShopPositive .empty where
  orders :=
    ⟨fun _ hitem => absurd hitem List.not_mem_nil, fun _ horder => absurd horder List.not_mem_nil⟩
  carts _ hitem := absurd hitem List.not_mem_nil

/-- Orders stay positive as long as every addition leaves a positive quantity
that fits in 32 bits. -/
theorem orders_positive (configuration : OrderConfiguration) (events : List ShopEvent)
    (final : ShopState) (hprices : ∀ event ∈ events, PositivePrices event)
    (hadds : Guarded (step configuration) AddsPositive .empty events)
    (hrun : run (step configuration) .empty events = some final) :
    OrdersPositive final.tables := by
  have hfinal : ShopPositive final :=
    run_preserves (fun state event next hstate hguard hnext => by
      obtain rfl := Option.some.inj hnext
      exact shopPositive_effect hstate hguard.1 hguard.2)
      shopPositive_empty (guarded_and_of_forall hprices hadds) hrun
  exact hfinal.orders

/-- A purchase of two laptops, after a change of mind. -/
def plainPurchase : List ShopEvent :=
  [.addItemToCart (js "alice") 7 3, .addItemToCart (js "alice") 7 (-1),
    .updateItemQuantity (js "alice") 1 2,
    .createOrder (smoothEnvironment laptop) (plainRequest (js "alice"))]

theorem positivePrices_smoothEnvironment (request : CreateOrderRequest) :
    PositivePrices (.createOrder (smoothEnvironment laptop) request) := by
  intro position name price hproduct
  obtain ⟨-, rfl⟩ : _ ∧ (⟨500, 0⟩ : BigDecimal) = price := by
    simpa [smoothEnvironment, laptop] using hproduct
  norm_num [BigDecimal.toRat]

theorem plainPurchase_positive :
    ∃ final, run (step plainConfiguration) .empty plainPurchase = some final ∧
      final.tables.orders.rows ≠ [] ∧ OrdersPositive final.tables := by
  obtain ⟨final, hrun, hsaved⟩ := (Option.any_eq_true _ _).mp
    (show (run (step plainConfiguration) .empty plainPurchase).any
      (fun state => !state.tables.orders.rows.isEmpty) = true by decide +kernel)
  refine ⟨final, hrun, by simpa using hsaved, orders_positive plainConfiguration plainPurchase
    final ?_ (guarded_of_checkGuarded (fun _ _ => of_decide_eq_true) (by decide +kernel)) hrun⟩
  intro event hevent
  simp only [plainPurchase, List.mem_cons, List.not_mem_nil, or_false] at hevent
  rcases hevent with rfl | rfl | rfl | rfl
  · trivial
  · trivial
  · trivial
  · exact positivePrices_smoothEnvironment _

/-- The user adds minus one laptop and orders it. -/
def negativePurchase : List ShopEvent :=
  [.addItemToCart (js "alice") 7 (-1),
    .createOrder (smoothEnvironment laptop) (plainRequest (js "alice"))]

/-- The order over -500 is approved and saved. -/
theorem negativePurchase_saved :
    ¬ ∀ (configuration : OrderConfiguration) (events : List ShopEvent) (final : ShopState),
      (∀ event ∈ events, PositivePrices event) →
      run (step configuration) .empty events = some final → OrdersPositive final.tables := by
  intro hpositive
  obtain ⟨final, hrun, hsaved⟩ := (Option.any_eq_true _ _).mp
    (show (run (step plainConfiguration) .empty negativePurchase).any
      (fun state => state.tables.orderItems.rows.any fun item => item.quantity == -1) = true by
        decide +kernel)
  obtain ⟨item, hitem, hquantity⟩ := List.any_eq_true.mp hsaved
  have horders := hpositive plainConfiguration negativePurchase final (fun event hevent => by
    simp only [negativePurchase, List.mem_cons, List.not_mem_nil, or_false] at hevent
    rcases hevent with rfl | rfl
    · trivial
    · exact positivePrices_smoothEnvironment _) hrun
  have hminus : item.quantity = -1 := by simpa using hquantity
  exact absurd (horders.quantities item hitem) (by rw [hminus]; decide)

end ShoppingWeb.PositiveOrders
