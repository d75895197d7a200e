import ShoppingWeb.Lib.TransitionSystem
import ShoppingWeb.Lib.UnitLedger
import ShoppingWeb.Order.UserView

/-!
# Conservation of units

One user's cart requests interleaved with `createOrder` calls of the same
user, each split into its cart request, its save and its final clear.  A
ledger follows every single unit.  What a call has read is in its order from
the save on, and in the cart until a clear; nothing ties the clear to what the
call has read.
-/

namespace ShoppingWeb.UnitConservation

open ShoppingWeb.Utf16
open ShoppingWeb.Shared
open ShoppingWeb.CartService
open ShoppingWeb.OrderService
open ShoppingWeb.OrderIsolation (ItemsBelong itemsBelong_empty)
open ShoppingWeb.TransitionSystem
open ShoppingWeb.UnitLedger
open Program

inductive CallStage where
  | cartRead
  | orderSaved (orderId : ℤ)
  | cartCleared (orderId : ℤ)
  deriving DecidableEq, Repr

def CallStage.orderId? : CallStage → Option ℤ
  | .cartRead => none
  | .orderSaved orderId | .cartCleared orderId => some orderId

/-- A `createOrder` call, the answer its cart request got, and the units that
were in the cart then. -/
structure CreateOrderCall where
  environment : CreateOrderEnvironment
  request : CreateOrderRequest
  cartItems : List CartItem
  units : List (SerialUnit ℤ)
  stage : CallStage

/-- The order that the call has saved. -/
def CreateOrderCall.orderId? (call : CreateOrderCall) : Option ℤ := call.stage.orderId?

structure World where
  shop : ShopState
  calls : List CreateOrderCall
  ledger : Ledger ℤ

/-- An item is set to a new quantity: more is an addition, less a removal. -/
def changeQuantity (choice : Choice ℤ) (ledger : Ledger ℤ) (item : Option CartItem)
    (quantity : ℤ) : Ledger ℤ :=
  match item with
  | none => ledger
  | some item =>
      if item.quantity.toInt ≤ quantity then
        ledger.issue item.productId (quantity - item.quantity.toInt).toNat
      else ledger.remove choice item.productId (item.quantity.toInt - quantity).toNat

/-- The units of a cart that is there already. -/
def issueItems (items : List CartItem) : Ledger ℤ :=
  items.foldl (fun ledger item => ledger.issue item.productId item.quantity.toInt.toNat) .empty

def World.start (user : JString) (shop : ShopState) : World :=
  ⟨shop, [], issueItems (shop.cartStore.linesOf user)⟩

def World.withCart (world : World) (cartStore : CartStore) (ledger : Ledger ℤ) : World :=
  { world with
    shop := { world.shop with cartStore }
    ledger }

inductive Event where
  | addItemToCart (productId : ℤ) (quantity : Int32)
  | updateItemQuantity (itemId : ℤ) (quantity : Int32)
  | removeItemFromCart (itemId : ℤ)
  | clearCart
  | getCart (environment : CreateOrderEnvironment) (request : CreateOrderRequest)
  | saveOrder (position : ℕ)
  | finishOrder (position : ℕ)

section System

variable (configuration : OrderConfiguration) (choice : Choice ℤ) (user : JString)

/-- A step that fails is not enabled: every call completes without failure. -/
def step (world : World) : Event → Option World
  | .addItemToCart productId quantity =>
      some (world.withCart (world.shop.cartStore.addItemToCart user productId quantity)
        (world.ledger.issue productId quantity.toInt.toNat))
  | .updateItemQuantity itemId quantity =>
      match world.shop.cartStore.updateItemQuantity user itemId quantity with
      | .error _ => none
      | .ok cartStore =>
          some (world.withCart cartStore
            (changeQuantity choice world.ledger (world.shop.cartStore.items.find? itemId)
              (max 0 quantity.toInt)))
  | .removeItemFromCart itemId =>
      match world.shop.cartStore.removeItemFromCart user itemId with
      | .error _ => none
      | .ok cartStore =>
          some (world.withCart cartStore
            (changeQuantity choice world.ledger (world.shop.cartStore.items.find? itemId) 0))
  | .clearCart =>
      some (world.withCart (world.shop.cartStore.clearCart user) world.ledger.removeAll)
  | .getCart environment request =>
      if request.bearerSubject = user then
        match exec (retrieveCart environment request) world.shop with
        | (.error _, _) => none
        | (.ok cartItems, shop) =>
            some
              { world with
                shop
                calls := world.calls ++
                  [⟨environment, request, cartItems, world.ledger.held, .cartRead⟩] }
      else none
  | .saveOrder position =>
      match world.calls[position]? with
      | some ⟨environment, request, cartItems, units, .cartRead⟩ =>
          match exec (placeOrder configuration environment request cartItems) world.shop with
          | (.error _, _) => none
          | (.ok order, shop) =>
              some
                { world with
                  shop
                  calls := world.calls.set position
                    ⟨environment, request, cartItems, units, .orderSaved order.id⟩ }
      | _ => none
  | .finishOrder position =>
      match world.calls[position]? with
      | some ⟨environment, request, cartItems, units, .orderSaved orderId⟩ =>
          match environment.clearCart, environment.commitFails with
          | .success, false =>
              some
                { shop := (exec (clearCartEndpoint user) world.shop).2
                  calls := world.calls.set position
                    ⟨environment, request, cartItems, units, .cartCleared orderId⟩
                  ledger := world.ledger.handOver }
          | _, _ => none
      | _ => none

/-- An addition adds and fits in 32 bits, and a call clears the very units that
it has read. -/
def KeepsUnits (world : World) : Event → Prop
  | .addItemToCart productId quantity =>
      0 ≤ quantity.toInt ∧
        (world.shop.cartStore.existingQuantity user productId).toInt + quantity.toInt < 2 ^ 31
  | .finishOrder position =>
      ∀ call, world.calls[position]? = some call → call.units.Perm world.ledger.held
  | _ => True

end System

/-! ## Places -/

inductive Place where
  | cart
  | removed
  | order (orderId : ℤ)
  deriving DecidableEq, Repr

def World.Holds (world : World) (unit : SerialUnit ℤ) : Place → Prop
  | .cart => unit ∈ world.ledger.held
  | .removed => unit ∈ world.ledger.removed
  | .order orderId => ∃ call ∈ world.calls, call.orderId? = some orderId ∧ unit ∈ call.units

/-- Units of a product in an item of an order. -/
def unitsOf (productId : ℤ) (item : OrderItem) : ℤ :=
  if item.productId = productId then item.quantity.toInt else 0

/-- Units of a product in a saved order. -/
def orderUnits (tables : OrderTables) (orderId productId : ℤ) : ℤ :=
  tables.orderItems.total fun item => if item.orderId = orderId then unitsOf productId item else 0

/-- No two calls have saved one order. -/
def OwnOrders (calls : List CreateOrderCall) : Prop :=
  ∀ (i j : ℕ) (left right : CreateOrderCall) (orderId : ℤ), calls[i]? = some left →
    calls[j]? = some right → left.orderId? = some orderId → right.orderId? = some orderId → i = j

/-- Every unit is in one place, and the cart and the orders list as many units of
each product as are in them. -/
structure IsConserved (user : JString) (world : World) : Prop where
  placed : ∀ unit ∈ world.ledger.issued, ∃! place, world.Holds unit place
  inCart : world.ledger.held.Nodup ∧ ∀ productId,
    (countOf world.ledger.held productId : ℤ) = world.shop.cartStore.units user productId
  inOrders : ∀ call ∈ world.calls, ∀ orderId, call.orderId? = some orderId →
    call.units.Nodup ∧ ∀ productId,
      (countOf call.units productId : ℤ) = orderUnits world.shop.tables orderId productId
  ownOrders : OwnOrders world.calls

/-- Saving the items of a cart gives the new order the units of the cart, and
other orders nothing. -/
theorem total_insertItems (orderItems : Table OrderItem) (newId orderId productId : ℤ)
    {items : List OrderItem} {cartItems : List CartItem}
    (hitems : items.map (fun item => (item.productId, item.quantity)) =
      cartItems.map fun item => (item.productId, item.quantity)) :
    ((insertItems orderItems newId items).total fun item =>
        if item.orderId = orderId then unitsOf productId item else 0) =
      (orderItems.total fun item => if item.orderId = orderId then unitsOf productId item else 0) +
        if newId = orderId then unitsIn cartItems productId else 0 := by
  obtain ⟨saved, hrows, hsavedId, hcontent⟩ := rows_insertItems orderItems newId items
  have hsaved : saved.map (unitsOf productId) = items.map (unitsOf productId) := by
    have hunits := congrArg (List.map (unitsOf productId)) hcontent
    rw [List.map_map, List.map_map] at hunits
    exact hunits
  have hcart : items.map (unitsOf productId) =
      cartItems.map fun item => if item.productId = productId then item.quantity.toInt else 0 := by
    have hunits := congrArg
      (List.map fun entry : ℤ × Int32 => if entry.1 = productId then entry.2.toInt else 0) hitems
    rw [List.map_map, List.map_map] at hunits
    exact hunits
  have hshare : (saved.map fun item =>
      if item.orderId = orderId then unitsOf productId item else 0) =
        saved.map fun item => if newId = orderId then unitsOf productId item else 0 := by
    apply List.map_congr_left
    intro item hitem
    rw [hsavedId item hitem]
  rw [Table.total, hrows, List.map_append, List.sum_append, hshare]
  congr 1
  split
  · rw [hsaved, hcart]
    rfl
  · apply List.sum_eq_zero
    intro units hunits
    obtain ⟨_, -, rfl⟩ := List.mem_map.mp hunits
    rfl

/-- The units that calls have taken out of the cart by their clears. -/
def clearedUnits (calls : List CreateOrderCall) : List (SerialUnit ℤ) :=
  calls.flatMap fun call =>
    match call.stage with
    | .cartCleared _ => call.units
    | _ => []

/-- The orders of the calls are in the tables, one for each call. -/
structure OrdersOf (tables : OrderTables) (calls : List CreateOrderCall) : Prop where
  belong : ∀ item ∈ tables.orderItems.rows, item.orderId < tables.orders.nextKey
  saved : ∀ call ∈ calls, ∀ orderId, call.orderId? = some orderId →
    orderId < tables.orders.nextKey ∧
      ∀ productId, orderUnits tables orderId productId = unitsIn call.cartItems productId
  distinct : OwnOrders calls

/-- The ledger follows the cart, and the calls their orders. -/
structure Tracked (user : JString) (world : World) : Prop where
  nonneg : world.shop.cartStore.EveryQuantity (0 ≤ ·)
  inCart : ∀ productId,
    (countOf world.ledger.held productId : ℤ) = world.shop.cartStore.units user productId
  keeps : world.ledger.Keeps (clearedUnits world.calls)
  read : ∀ call ∈ world.calls, ∀ productId,
    (countOf call.units productId : ℤ) = unitsIn call.cartItems productId
  orders : OrdersOf world.shop.tables world.calls

theorem issueItems_spec {items : List CartItem} (hitems : ∀ item ∈ items, 0 ≤ item.quantity)
    {ledger : Ledger ℤ} (hkeeps : ledger.Keeps []) :
    let final := items.foldl
      (fun ledger item => ledger.issue item.productId item.quantity.toInt.toNat) ledger
    final.Keeps [] ∧ ∀ productId, (countOf final.held productId : ℤ) =
      countOf ledger.held productId + unitsIn items productId := by
  induction items generalizing ledger with
  | nil => exact ⟨hkeeps, fun productId => by simp⟩
  | cons item items ih =>
      obtain ⟨hitem, hrest⟩ := List.forall_mem_cons.mp hitems
      obtain ⟨hfinal, hcount⟩ := ih hrest
        (Ledger.keeps_issue hkeeps item.productId item.quantity.toInt.toNat)
      refine ⟨hfinal, fun productId => ?_⟩
      have hnonneg : 0 ≤ item.quantity.toInt := Int32.le_iff_toInt_le.mp hitem
      rw [List.foldl_cons, hcount, Ledger.countOf_issue, unitsIn, unitsIn, List.map_cons,
        List.sum_cons]
      split_ifs
      · push_cast
        omega
      · push_cast
        omega

theorem tracked_start {user : JString} {shop : ShopState}
    (hnonneg : shop.cartStore.EveryQuantity (0 ≤ ·)) (hbelong : ItemsBelong shop.tables) :
    Tracked user (World.start user shop) := by
  obtain ⟨hkeeps, hcount⟩ := issueItems_spec
    (fun item hitem => CartStore.everyQuantity_linesOf hnonneg hitem) Ledger.keeps_empty
  constructor
  · exact hnonneg
  · intro productId
    rw [World.start, issueItems, hcount]
    exact zero_add _
  · exact hkeeps
  · exact fun _ hcall => absurd hcall List.not_mem_nil
  · refine ⟨fun item hitem => ?_, fun _ hcall => absurd hcall List.not_mem_nil, ?_⟩
    · obtain ⟨order, horder, hid⟩ := hbelong item hitem
      rw [← hid]
      exact shop.tables.orders.key_lt order horder
    · intro i j left right orderId hleft
      simp [World.start] at hleft

section Steps

variable {configuration : OrderConfiguration} {choice : Choice ℤ} {user : JString}
  {world next : World}

/-- Setting an item to a new quantity moves the units that it says. -/
theorem changeQuantity_spec (choice : Choice ℤ) (htracked : Tracked user world) {item : CartItem}
    (hitem : item ∈ world.shop.cartStore.linesOf user) {quantity : ℤ} (hquantity : 0 ≤ quantity)
    {cartStore : CartStore}
    (hunits : ∀ productId, cartStore.units user productId =
      world.shop.cartStore.units user productId +
        if item.productId = productId then quantity - item.quantity.toInt else 0) :
    (changeQuantity choice world.ledger (some item) quantity).Keeps (clearedUnits world.calls) ∧
      ∀ productId, (countOf (changeQuantity choice world.ledger (some item) quantity).held
        productId : ℤ) = cartStore.units user productId := by
  rw [changeQuantity]
  split
  · rename_i hmore
    refine ⟨Ledger.keeps_issue htracked.keeps _ _, fun productId => ?_⟩
    rw [Ledger.countOf_issue, hunits, ← htracked.inCart productId]
    split_ifs
    · push_cast
      omega
    · simp
  · rename_i hless
    refine ⟨Ledger.keeps_remove htracked.keeps choice _ _, fun productId => ?_⟩
    have hheld := CartStore.le_units_of_mem_linesOf htracked.nonneg hitem
    rw [← htracked.inCart item.productId] at hheld
    have hamount : (item.quantity.toInt - quantity).toNat ≤
        countOf world.ledger.held item.productId := by omega
    have hcount := Ledger.countOf_remove choice hamount productId
    rw [hunits, ← htracked.inCart productId, ← hcount]
    split_ifs
    · push_cast
      omega
    · simp

theorem tracked_withCart (htracked : Tracked user world) {cartStore : CartStore}
    {ledger : Ledger ℤ} (hnonneg : cartStore.EveryQuantity (0 ≤ ·))
    (hinCart : ∀ productId, (countOf ledger.held productId : ℤ) = cartStore.units user productId)
    (hkeeps : ledger.Keeps (clearedUnits world.calls)) :
    Tracked user (world.withCart cartStore ledger) :=
  ⟨hnonneg, hinCart, hkeeps, htracked.read, htracked.orders⟩

theorem tracked_addItemToCart (htracked : Tracked user world) {productId : ℤ} {quantity : Int32}
    (hkeeps : KeepsUnits user world (.addItemToCart productId quantity)) :
    Tracked user (world.withCart (world.shop.cartStore.addItemToCart user productId quantity)
      (world.ledger.issue productId quantity.toInt.toNat)) := by
  obtain ⟨hquantity, hfits⟩ := hkeeps
  have hexisting := CartStore.existingQuantity_nonneg htracked.nonneg user productId
  have hexact := toInt_add_of_fits (by omega) hfits
  apply tracked_withCart htracked
  · apply CartStore.everyQuantity_addItemToCart htracked.nonneg
    rw [Int32.le_iff_toInt_le, hexact]
    exact add_nonneg hexisting hquantity
  · intro product
    rw [Ledger.countOf_issue, CartStore.units_addItemToCart _ user product productId quantity
      hexact, ← htracked.inCart product]
    split_ifs
    · push_cast
      omega
    · simp
  · exact Ledger.keeps_issue htracked.keeps _ _

theorem tracked_updateItemQuantity (htracked : Tracked user world) {itemId : ℤ}
    {quantity : Int32} {cartStore : CartStore}
    (hupdate : world.shop.cartStore.updateItemQuantity user itemId quantity = .ok cartStore) :
    Tracked user (world.withCart cartStore (changeQuantity choice world.ledger
      (world.shop.cartStore.items.find? itemId) (max 0 quantity.toInt))) := by
  obtain ⟨item, hitem, rfl, hunits⟩ := CartStore.units_updateItemQuantity _ user hupdate
  rw [CartStore.find?_of_mem_linesOf _ user hitem]
  obtain ⟨hkeeps, hinCart⟩ := changeQuantity_spec choice htracked hitem (le_max_left 0 _) hunits
  apply tracked_withCart htracked _ hinCart hkeeps
  exact CartStore.everyQuantity_updateItemQuantity htracked.nonneg Int32.le_of_lt hupdate

theorem tracked_removeItemFromCart (htracked : Tracked user world) {itemId : ℤ}
    {cartStore : CartStore}
    (hremove : world.shop.cartStore.removeItemFromCart user itemId = .ok cartStore) :
    Tracked user (world.withCart cartStore (changeQuantity choice world.ledger
      (world.shop.cartStore.items.find? itemId) 0)) := by
  obtain ⟨item, hitem, rfl, hunits⟩ := CartStore.units_removeItemFromCart _ user hremove
  rw [CartStore.find?_of_mem_linesOf _ user hitem]
  have hchange (productId : ℤ) : cartStore.units user productId =
      world.shop.cartStore.units user productId +
        if item.productId = productId then 0 - item.quantity.toInt else 0 := by
    rw [hunits]
    split_ifs <;> omega
  obtain ⟨hkeeps, hinCart⟩ := changeQuantity_spec choice htracked hitem le_rfl hchange
  apply tracked_withCart htracked _ hinCart hkeeps
  exact CartStore.everyQuantity_removeItemFromCart htracked.nonneg hremove

theorem tracked_clearCart (htracked : Tracked user world) :
    Tracked user (world.withCart (world.shop.cartStore.clearCart user)
      world.ledger.removeAll) := by
  apply tracked_withCart htracked
  · exact CartStore.everyQuantity_clearCart htracked.nonneg user
  · intro productId
    rw [CartStore.units_clearCart]
    rfl
  · exact Ledger.keeps_removeAll htracked.keeps

theorem ownOrders_set {calls : List CreateOrderCall} (hdistinct : OwnOrders calls)
    {position : ℕ} {after : CreateOrderCall}
    (hafter : ∀ i other orderId, i ≠ position → calls[i]? = some other →
      other.orderId? = some orderId → after.orderId? ≠ some orderId) :
    OwnOrders (calls.set position after) := by
  intro i j left right orderId hleft hright hleftId hrightId
  rw [List.getElem?_set] at hleft hright
  split_ifs at hleft hright with hi hlength hj hj hlength
  · exact hi.symm.trans hj
  · obtain rfl := Option.some.inj hleft
    exact absurd hleftId (hafter j right orderId (Ne.symm hj) hright hrightId)
  · obtain rfl := Option.some.inj hright
    exact absurd hrightId (hafter i left orderId (Ne.symm hi) hleft hleftId)
  · exact hdistinct i j left right orderId hleft hright hleftId hrightId

/-- A clear adds the units of its call to those taken out of the cart. -/
theorem clearedUnits_set {calls : List CreateOrderCall} {position : ℕ}
    {before : CreateOrderCall} (hcall : calls[position]? = some before) (after : CreateOrderCall)
    (hbefore : clearedUnits [before] = []) :
    (clearedUnits (calls.set position after)).Perm (clearedUnits [after] ++ clearedUnits calls) := by
  obtain ⟨hlength, rfl⟩ := List.getElem?_eq_some_iff.mp hcall
  have hsplit : calls = calls.take position ++ calls[position] :: calls.drop (position + 1) := by
    rw [List.getElem_cons_drop, List.take_append_drop]
  have hold : clearedUnits calls =
      clearedUnits (calls.take position) ++ clearedUnits (calls.drop (position + 1)) := by
    conv_lhs => rw [hsplit]
    simp only [clearedUnits, List.flatMap_append, List.flatMap_cons] at hbefore ⊢
    rw [List.flatMap_nil, List.append_nil] at hbefore
    rw [hbefore, List.nil_append]
  rw [List.set_eq_take_append_cons_drop, if_pos hlength, hold]
  simp only [clearedUnits, List.flatMap_append, List.flatMap_cons, List.flatMap_nil,
    List.append_nil]
  exact List.perm_append_comm_assoc _ _ _

/-- A call that has saved nothing brings no order. -/
theorem ordersOf_append {tables : OrderTables} {calls : List CreateOrderCall}
    (horders : OrdersOf tables calls) {call : CreateOrderCall} (hcall : call.orderId? = none) :
    OrdersOf tables (calls ++ [call]) := by
  have hold {i : ℕ} {other : CreateOrderCall} {orderId : ℤ}
      (hother : (calls ++ [call])[i]? = some other) (hid : other.orderId? = some orderId) :
      calls[i]? = some other := by
    rw [List.getElem?_append] at hother
    split at hother
    · exact hother
    · have hmem := List.mem_of_getElem? hother
      rw [List.mem_singleton.mp hmem, hcall] at hid
      cases hid
  refine ⟨horders.belong, fun other hother orderId hid => ?_,
    fun i j left right orderId hleft hright hleftId hrightId => ?_⟩
  · obtain ⟨i, hposition⟩ := List.getElem?_of_mem hother
    exact horders.saved other (List.mem_of_getElem? (hold hposition hid)) orderId hid
  · exact horders.distinct i j left right orderId (hold hleft hleftId) (hold hright hrightId)
      hleftId hrightId

/-- A saved order is the call's own, and holds what its call has read. -/
theorem ordersOf_save {configuration : OrderConfiguration} {state : ShopState}
    {calls : List CreateOrderCall} (horders : OrdersOf state.tables calls)
    {environment : CreateOrderEnvironment} {request : CreateOrderRequest}
    {cartItems : List CartItem} {placement : Placement}
    (hcan : CanPlace configuration environment request state cartItems placement)
    (units : List (SerialUnit ℤ)) (position : ℕ) :
    OrdersOf (placement.tables configuration environment state)
      (calls.set position ⟨environment, request, cartItems, units,
        .orderSaved state.tables.orders.nextKey⟩) := by
  have hunits (orderId productId : ℤ) :
      orderUnits (placement.tables configuration environment state) orderId productId =
        orderUnits state.tables orderId productId +
          if state.tables.orders.nextKey = orderId then unitsIn cartItems productId else 0 :=
    total_insertItems _ _ orderId productId (buildItems_quantities hcan.built)
  have hnext : (placement.tables configuration environment state).orders.nextKey =
      state.tables.orders.nextKey + 1 := rfl
  constructor
  · intro item hitem
    obtain ⟨saved, hrows, hsavedId, -⟩ := rows_insertItems state.tables.orderItems
      state.tables.orders.nextKey placement.draft.jpaOrderItems
    rw [Placement.tables, hrows] at hitem
    rw [hnext]
    rcases List.mem_append.mp hitem with hold | hnew
    · have hlt := horders.belong item hold
      omega
    · rw [hsavedId item hnew]
      omega
  · intro call hcall orderId hid
    rcases List.mem_or_eq_of_mem_set hcall with hold | rfl
    · obtain ⟨hlt, hsaved⟩ := horders.saved call hold orderId hid
      refine ⟨by omega, fun productId => ?_⟩
      rw [hunits, if_neg (by omega), add_zero, hsaved]
    · obtain rfl := Option.some.inj hid
      refine ⟨by omega, fun productId => ?_⟩
      have hempty : orderUnits state.tables state.tables.orders.nextKey productId = 0 := by
        apply List.sum_eq_zero
        intro share hshare
        obtain ⟨item, hitem, rfl⟩ := List.mem_map.mp hshare
        exact if_neg (ne_of_lt (horders.belong item hitem))
      rw [hunits, if_pos rfl, hempty, zero_add]
  · apply ownOrders_set horders.distinct
    intro i other orderId _ hother hid hnew
    have hlt := (horders.saved other (List.mem_of_getElem? hother) orderId hid).1
    have heq := Option.some.inj hnew
    omega

/-- A call that keeps its order keeps the orders. -/
theorem ordersOf_set {tables : OrderTables} {calls : List CreateOrderCall}
    (horders : OrdersOf tables calls) {position : ℕ} {before after : CreateOrderCall}
    (hcall : calls[position]? = some before) (hid : after.orderId? = before.orderId?)
    (hitems : after.cartItems = before.cartItems) :
    OrdersOf tables (calls.set position after) := by
  refine ⟨horders.belong, fun call hmem orderId horderId => ?_, ?_⟩
  · rcases List.mem_or_eq_of_mem_set hmem with hold | rfl
    · exact horders.saved call hold orderId horderId
    · rw [hitems]
      exact horders.saved before (List.mem_of_getElem? hcall) orderId (hid.symm.trans horderId)
  · apply ownOrders_set horders.distinct
    intro i other orderId hne hother hotherId hafterId
    exact hne (horders.distinct i position other before orderId hother hcall hotherId
      (hid.symm.trans hafterId))

theorem tracked_getCart {environment : CreateOrderEnvironment} {request : CreateOrderRequest}
    (htracked : Tracked user world)
    (hstep : step configuration choice user world (.getCart environment request) = some next) :
    Tracked user next := by
  simp only [step] at hstep
  split at hstep
  · rename_i hsubject
    subst hsubject
    split at hstep
    · cases hstep
    · rename_i cartItems shop hretrieve
      obtain ⟨-, hcartItems, -, rfl⟩ := exec_retrieveCart_ok.mp hretrieve
      obtain rfl := Option.some.inj hstep
      constructor
      · exact CartStore.everyQuantity_getOrCreateCart htracked.nonneg _
      · intro productId
        rw [CartStore.units_getOrCreateCart]
        exact htracked.inCart productId
      · have hcleared : clearedUnits (world.calls ++ [⟨environment, request, cartItems,
            world.ledger.held, .cartRead⟩]) = clearedUnits world.calls := by
          simp [clearedUnits]
        rw [hcleared]
        exact htracked.keeps
      · intro call hcall
        rcases List.mem_append.mp hcall with hold | hnew
        · exact htracked.read call hold
        · obtain rfl := List.mem_singleton.mp hnew
          intro productId
          rw [← hcartItems]
          exact htracked.inCart productId
      · exact ordersOf_append htracked.orders rfl
  · cases hstep

/-- Saving puts the units read into an order; the cart still holds its own. -/
theorem tracked_saveOrder {position : ℕ} (htracked : Tracked user world)
    (hstep : step configuration choice user world (.saveOrder position) = some next) :
    Tracked user next := by
  simp only [step] at hstep
  split at hstep
  · rename_i environment request cartItems units hcall
    split at hstep
    · cases hstep
    · rename_i order shop hplace
      obtain ⟨placement, hcan, rfl, rfl⟩ := exec_placeOrder_ok.mp hplace
      obtain rfl := Option.some.inj hstep
      have hcleared := clearedUnits_set hcall ⟨environment, request, cartItems, units,
        .orderSaved (placement.order environment world.shop).id⟩ rfl
      refine ⟨htracked.nonneg, htracked.inCart, ?_, fun call hmem => ?_, ?_⟩
      · exact htracked.keeps.of_perm hcleared.symm
      · rcases List.mem_or_eq_of_mem_set hmem with hold | rfl
        · exact htracked.read call hold
        · exact htracked.read ⟨environment, request, cartItems, units, .cartRead⟩
            (List.mem_of_getElem? hcall)
      · exact ordersOf_save htracked.orders hcan units position
  · cases hstep

/-- The final clear hands over the units that its call has read. -/
theorem tracked_finishOrder {position : ℕ} (htracked : Tracked user world)
    (hkeeps : KeepsUnits user world (.finishOrder position))
    (hstep : step configuration choice user world (.finishOrder position) = some next) :
    Tracked user next := by
  simp only [step] at hstep
  split at hstep
  · rename_i environment request cartItems units orderId hcall
    split at hstep
    · obtain rfl := Option.some.inj hstep
      have hunits : clearedUnits [⟨environment, request, cartItems, units,
          .cartCleared orderId⟩] = units := List.append_nil units
      have hcleared := clearedUnits_set hcall ⟨environment, request, cartItems, units,
        .cartCleared orderId⟩ rfl
      rw [hunits] at hcleared
      refine ⟨CartStore.everyQuantity_clearCart htracked.nonneg user, fun productId => ?_,
        ?_, fun call hmem => ?_, ?_⟩
      · exact (world.shop.cartStore.units_clearCart user productId).symm
      · exact (Ledger.keeps_handOver htracked.keeps (hkeeps _ hcall)).of_perm hcleared.symm
      · rcases List.mem_or_eq_of_mem_set hmem with hold | rfl
        · exact htracked.read call hold
        · exact htracked.read ⟨environment, request, cartItems, units, .orderSaved orderId⟩
            (List.mem_of_getElem? hcall)
      · exact ordersOf_set htracked.orders hcall rfl rfl
    · cases hstep
  · cases hstep

theorem tracked_step {event : Event} (htracked : Tracked user world)
    (hkeeps : KeepsUnits user world event)
    (hstep : step configuration choice user world event = some next) : Tracked user next := by
  cases event with
  | addItemToCart productId quantity =>
      obtain rfl := Option.some.inj hstep
      exact tracked_addItemToCart htracked hkeeps
  | updateItemQuantity itemId quantity =>
      simp only [step] at hstep
      split at hstep
      · cases hstep
      · rename_i cartStore hupdate
        obtain rfl := Option.some.inj hstep
        exact tracked_updateItemQuantity htracked hupdate
  | removeItemFromCart itemId =>
      simp only [step] at hstep
      split at hstep
      · cases hstep
      · rename_i cartStore hremove
        obtain rfl := Option.some.inj hstep
        exact tracked_removeItemFromCart htracked hremove
  | clearCart =>
      obtain rfl := Option.some.inj hstep
      exact tracked_clearCart htracked
  | getCart environment request => exact tracked_getCart htracked hstep
  | saveOrder position => exact tracked_saveOrder htracked hstep
  | finishOrder position => exact tracked_finishOrder htracked hkeeps hstep

end Steps

/-- The three steps of a call, taken in a row, are `createOrder`. -/
theorem run_createOrder {configuration : OrderConfiguration} {choice : Choice ℤ}
    {environment : CreateOrderEnvironment} {request : CreateOrderRequest} {world : World}
    {order : Order} {final : ShopState}
    (hcreate : exec (createOrder configuration environment request) world.shop =
      (.ok order, final)) :
    run (step configuration choice request.bearerSubject) world
        [.getCart environment request, .saveOrder world.calls.length,
          .finishOrder world.calls.length] =
      some
        { shop := final
          calls := world.calls ++ [⟨environment, request,
            world.shop.cartStore.linesOf request.bearerSubject, world.ledger.held,
            .cartCleared order.id⟩]
          ledger := world.ledger.handOver } := by
  obtain ⟨placement, ⟨hcart, hitems, hplace⟩, hclear, hcommit, rfl, rfl⟩ :=
    exec_createOrder_ok.mp hcreate
  have hretrieve : exec (retrieveCart environment request) world.shop = _ :=
    exec_retrieveCart_ok.mpr ⟨hcart, rfl, hitems, rfl⟩
  have hsave : exec (placeOrder configuration environment request
      (world.shop.cartStore.linesOf request.bearerSubject))
        { world.shop with
          cartStore := (world.shop.cartStore.getOrCreateCart request.bearerSubject).store } = _ :=
    exec_placeOrder_ok.mpr ⟨placement, { hplace with }, rfl, rfl⟩
  simp only [run, step, hretrieve, if_true, Option.bind_some]
  simp only [List.getElem?_concat_length, hsave, Option.bind_some]
  simp [hclear, hcommit, clearCartEndpoint, cleared, beforeClear, Placement.tables,
    Placement.gateway, Placement.order, gateAnswer]

/-- Every call of the run has completed. -/
def World.IsComplete (world : World) : Prop :=
  ∀ call ∈ world.calls, ∃ orderId, call.stage = .cartCleared orderId

section Completed

variable {world : World}

theorem clearedUnits_of_isComplete (hcomplete : world.IsComplete) :
    clearedUnits world.calls = world.calls.flatMap CreateOrderCall.units := by
  rw [clearedUnits, List.flatMap_def, List.flatMap_def]
  congr 1
  apply List.map_congr_left
  intro call hcall
  obtain ⟨orderId, hstage⟩ := hcomplete call hcall
  rw [hstage]

/-- Once every call has completed, the ledger keeps every unit in one place. -/
theorem existsUnique_place (hcomplete : world.IsComplete)
    (hkeeps : world.ledger.Keeps (world.calls.flatMap CreateOrderCall.units))
    {unit : SerialUnit ℤ} (hunit : unit ∈ world.ledger.issued) :
    ∃! place, world.Holds unit place := by
  obtain ⟨-, hnodup, hheld⟩ := List.nodup_append'.mp hkeeps.nodup
  obtain ⟨-, hordered, hremoved⟩ := List.nodup_append'.mp hnodup
  have hmem {call : CreateOrderCall} (hcall : call ∈ world.calls) (hin : unit ∈ call.units) :
      unit ∈ world.calls.flatMap CreateOrderCall.units :=
    List.mem_flatMap.mpr ⟨call, hcall, hin⟩
  have hplace := hkeeps.places.mem_iff.mp hunit
  rw [List.mem_append, List.mem_append] at hplace
  rcases hplace with hcart | hgone | hsold
  · refine ⟨.cart, hcart, fun place hplace => ?_⟩
    cases place with
    | cart => rfl
    | removed => exact absurd (List.mem_append_left _ hplace) (hheld hcart)
    | order orderId =>
        obtain ⟨call, hcall, -, hin⟩ := hplace
        exact absurd (List.mem_append_right _ (hmem hcall hin)) (hheld hcart)
  · refine ⟨.removed, hgone, fun place hplace => ?_⟩
    cases place with
    | cart => exact absurd (List.mem_append_left _ hgone) (hheld hplace)
    | removed => rfl
    | order orderId =>
        obtain ⟨call, hcall, -, hin⟩ := hplace
        exact absurd (hmem hcall hin) (hremoved hgone)
  · obtain ⟨call, hcall, hin⟩ := List.mem_flatMap.mp hsold
    obtain ⟨orderId, hstage⟩ := hcomplete call hcall
    have hid : call.orderId? = some orderId := by
      rw [CreateOrderCall.orderId?, hstage]
      rfl
    refine ⟨.order orderId, ⟨call, hcall, hid, hin⟩, fun place hplace => ?_⟩
    cases place with
    | cart => exact absurd (List.mem_append_right _ hsold) (hheld hplace)
    | removed => exact absurd hsold (hremoved hplace)
    | order otherId =>
        obtain ⟨other, hother, hotherId, hotherIn⟩ := hplace
        have hsame : other = call := by
          by_contra hne
          have hsymmetric : Std.Symm (Function.onFun List.Disjoint CreateOrderCall.units) :=
            ⟨fun _ _ hdisjoint => hdisjoint.symm⟩
          have hdisjoint := (List.nodup_flatMap.mp hordered).2.forall hother hcall hne
          exact hdisjoint hotherIn hin
        rw [hsame, hid] at hotherId
        rw [Option.some.inj hotherId]

end Completed

/-- A run is conservative when every addition adds and fits, and every call
clears the very units it has read. -/
theorem units_conserved (configuration : OrderConfiguration) (choice : Choice ℤ) (user : JString)
    (before : ShopState) (events : List Event) (after : World)
    (hnonneg : before.cartStore.EveryQuantity (0 ≤ ·)) (hbelong : ItemsBelong before.tables)
    (hkeeps : Guarded (step configuration choice user) (KeepsUnits user)
      (World.start user before) events)
    (hrun : run (step configuration choice user) (World.start user before) events = some after)
    (hcomplete : after.IsComplete) : IsConserved user after := by
  have htracked : Tracked user after :=
    run_preserves (fun _ _ _ hinvariant hguard hnext => tracked_step hinvariant hguard hnext)
      (tracked_start hnonneg hbelong) hkeeps hrun
  have hledger := htracked.keeps
  rw [clearedUnits_of_isComplete hcomplete] at hledger
  obtain ⟨hheld, hnodup, -⟩ := List.nodup_append'.mp hledger.nodup
  have hordered := (List.nodup_flatMap.mp (List.nodup_append'.mp hnodup).2.1).1
  constructor
  · exact fun unit hunit => existsUnique_place hcomplete hledger hunit
  · exact ⟨hheld, htracked.inCart⟩
  · intro call hcall orderId hid
    refine ⟨hordered call hcall, fun productId => ?_⟩
    rw [htracked.read call hcall, (htracked.orders.saved call hcall orderId hid).2]
  · exact htracked.orders.distinct

/-! ## Runs of one user -/

/-- The user buys two laptops and puts a third one into the cart afterwards. -/
def quietRun : List Event :=
  [.addItemToCart 7 2, .getCart (smoothEnvironment laptop) (plainRequest (js "alice")),
    .saveOrder 0, .finishOrder 0, .addItemToCart 7 1]

/-- The decidable form of the guard: the cart still holds what the call has read. -/
def checkUnits (user : JString) (world : World) : Event → Bool
  | .addItemToCart productId quantity =>
      decide (0 ≤ quantity.toInt) &&
        decide ((world.shop.cartStore.existingQuantity user productId).toInt + quantity.toInt <
          2 ^ 31)
  | .finishOrder position =>
      match world.calls[position]? with
      | none => true
      | some call => call.units == world.ledger.held
  | _ => true

theorem keepsUnits_of_checkUnits {user : JString} {world : World} {event : Event}
    (hcheck : checkUnits user world event = true) : KeepsUnits user world event := by
  cases event with
  | addItemToCart productId quantity => simpa [checkUnits, KeepsUnits] using hcheck
  | finishOrder position =>
      intro call hcall
      simp only [checkUnits, hcall, beq_iff_eq] at hcheck
      exact hcheck ▸ List.Perm.refl _
  | _ => trivial

def CallStage.isCleared : CallStage → Bool
  | .cartCleared _ => true
  | _ => false

theorem isComplete_of_all {world : World}
    (hcalls : (world.calls.all fun call => call.stage.isCleared) = true) : world.IsComplete := by
  intro call hcall
  have hcleared := List.all_eq_true.mp hcalls call hcall
  cases hstage : call.stage with
  | cartCleared orderId => exact ⟨orderId, rfl⟩
  | cartRead => simp [hstage, CallStage.isCleared] at hcleared
  | orderSaved orderId => simp [hstage, CallStage.isCleared] at hcleared

theorem everyQuantity_empty (allowed : Int32 → Prop) :
    ShopState.empty.cartStore.EveryQuantity allowed :=
  fun _ hitem => absurd hitem List.not_mem_nil

/-- Nothing falls between the cart request and the clear: two laptops are in the
order and the third is in the cart. -/
theorem quietRun_conserved :
    ∃ after, run (step plainConfiguration .oldest (js "alice")) (World.start (js "alice") .empty)
        quietRun = some after ∧ IsConserved (js "alice") after := by
  have hends : (run (step plainConfiguration .oldest (js "alice"))
      (World.start (js "alice") .empty) quietRun).any
        (fun world => world.calls.all fun call => call.stage.isCleared) = true := by
    decide +kernel
  obtain ⟨after, hrun, hcalls⟩ := (Option.any_eq_true _ _).mp hends
  exact ⟨after, hrun, units_conserved plainConfiguration .oldest (js "alice") .empty quietRun after
    (everyQuantity_empty _) itemsBelong_empty
    (guarded_of_checkGuarded (fun _ _ => keepsUnits_of_checkUnits) (by decide +kernel)) hrun
    (isComplete_of_all hcalls)⟩

/-- The user adds a third laptop while the order is being placed. -/
def lateAddition : List Event :=
  [.addItemToCart 7 2, .getCart (smoothEnvironment laptop) (plainRequest (js "alice")),
    .addItemToCart 7 1, .saveOrder 0, .finishOrder 0]

/-- The third laptop is neither ordered nor in the cart nor removed. -/
theorem lateAddition_loses_unit :
    ¬ ∀ (configuration : OrderConfiguration) (choice : Choice ℤ) (user : JString)
      (before : ShopState) (events : List Event) (after : World),
      before.cartStore.EveryQuantity (0 ≤ ·) → ItemsBelong before.tables →
      run (step configuration choice user) (World.start user before) events = some after →
      after.IsComplete → IsConserved user after := by
  intro hconserved
  have hends : (run (step plainConfiguration .oldest (js "alice"))
      (World.start (js "alice") .empty) lateAddition).any (fun world =>
        (world.calls.all fun call => call.stage.isCleared) &&
        world.ledger.issued.contains ⟨2, 7⟩ && !world.ledger.held.contains ⟨2, 7⟩ &&
        !world.ledger.removed.contains ⟨2, 7⟩ &&
        world.calls.all fun call => !call.units.contains ⟨2, 7⟩) = true := by
    decide +kernel
  obtain ⟨after, hrun, hafter⟩ := (Option.any_eq_true _ _).mp hends
  simp only [Bool.and_eq_true, Bool.not_eq_true', List.contains_eq_mem, decide_eq_true_eq,
    decide_eq_false_iff_not, List.all_eq_true] at hafter
  obtain ⟨⟨⟨⟨hcalls, hissued⟩, hheld⟩, hremoved⟩, hordered⟩ := hafter
  obtain ⟨place, hplace, -⟩ := (hconserved plainConfiguration .oldest (js "alice") .empty
    lateAddition after (everyQuantity_empty _) itemsBelong_empty hrun
    (isComplete_of_all (List.all_eq_true.mpr hcalls))).placed ⟨2, 7⟩ hissued
  cases place with
  | cart => exact hheld hplace
  | removed => exact hremoved hplace
  | order orderId =>
      obtain ⟨call, hcall, -, hin⟩ := hplace
      exact hordered call hcall hin

end ShoppingWeb.UnitConservation
