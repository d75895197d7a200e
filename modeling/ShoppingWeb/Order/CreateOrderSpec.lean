import ShoppingWeb.Order.OrderService

/-!
# What createOrder does

One specification for each phase of `createOrder`: when it returns, and what
it has changed.  The phases then give the two outcomes of the whole call.
-/

namespace ShoppingWeb.OrderService

open ShoppingWeb.Utf16
open ShoppingWeb.Shared
open ShoppingWeb.CartService
open ShoppingWeb.PaymentSecurityGateway
open Program

variable {configuration : OrderConfiguration} {environment : CreateOrderEnvironment}
  {request : CreateOrderRequest} {state final : ShopState}

@[simp]
theorem exec_failWhen_ok {condition : Bool} {done : PUnit} :
    exec (failWhen condition) state = (.ok done, final) ↔ condition = false ∧ state = final := by
  cases condition <;> simp [failWhen]

@[simp]
theorem exec_notNull_ok {Value : Type} {column : Option Value} {value : Value} :
    exec (notNull column) state = (.ok value, final) ↔ column = some value ∧ state = final := by
  cases column <;> simp [notNull]

@[simp]
theorem exec_pure_ok {Value : Type} {value result : Value} :
    exec (pure value : Service Value) state = (.ok result, final) ↔
      value = result ∧ state = final := by
  simp

section Frames

variable {View : Type} {view : ShopState → View}

theorem keeps_failWhen (condition : Bool) : Keeps view (failWhen condition) :=
  keeps_ite (keeps_throw _) (keeps_pure _)

theorem keeps_notNull {Value : Type} (column : Option Value) : Keeps view (notNull column) := by
  cases column with
  | none => exact keeps_throw _
  | some value => exact keeps_pure value

end Frames

theorem exec_getCartEndpoint (subject : JString) :
    exec (getCartEndpoint subject) state =
      (.ok (some ⟨some (state.cartStore.linesOf subject)⟩),
        { state with cartStore := (state.cartStore.getOrCreateCart subject).store }) := by
  rw [← CartStore.items_opened]
  rfl

theorem exec_retrieveCart_ok {cartItems : List CartItem} :
    exec (retrieveCart environment request) state = (.ok cartItems, final) ↔
      environment.getCart = .success ∧
        state.cartStore.linesOf request.bearerSubject = cartItems ∧ cartItems ≠ [] ∧
        { state with
          cartStore := (state.cartStore.getOrCreateCart request.bearerSubject).store } =
          final := by
  simp only [retrieveCart, exec_bind_ok, exec_remote_ok, exec_getCartEndpoint]
  constructor
  · rintro ⟨reply, middle, ⟨hdelivery, heq⟩, hrequire⟩
    obtain ⟨rfl, rfl⟩ : some ⟨some (state.cartStore.linesOf request.bearerSubject)⟩ = reply ∧
        _ = middle := by simpa using heq
    simp only [requireItems] at hrequire
    split at hrequire
    · simp at hrequire
    · rename_i hitems
      obtain ⟨rfl, rfl⟩ := exec_pure_ok.mp hrequire
      exact ⟨hdelivery, rfl, by simpa using hitems, rfl⟩
  · rintro ⟨hdelivery, rfl, hitems, rfl⟩
    exact ⟨_, _, ⟨hdelivery, rfl⟩, by simp [requireItems, hitems]⟩

/-- Reading a cart keeps what opening a cart keeps. -/
theorem keeps_retrieveCart {View : Type} {view : ShopState → View}
    (hopen : ∀ state : ShopState,
      view { state with
        cartStore := (state.cartStore.getOrCreateCart request.bearerSubject).store } =
        view state) : Keeps view (retrieveCart environment request) := by
  refine keeps_bind (keeps_remote ?_ _ _) fun reply => ?_
  · intro state
    rw [exec_getCartEndpoint]
    exact hopen state
  · rw [requireItems.eq_def]
    split
    · exact keeps_ite (keeps_throw _) (keeps_pure _)
    · exact keeps_throw _

/-- What one cart item becomes. -/
theorem addCartItem_ok {crypto : Crypto} {product : ℕ → CatalogAnswer} {draft result : Draft}
    {entry : CartItem × ℕ} (hadd : addCartItem crypto product draft entry = .ok result) :
    ∃ name price, product entry.2 = .product (some name) (some price) ∧
      result =
        { totalAmount := draft.totalAmount.add
            (price.multiply (BigDecimal.ofInt entry.1.quantity.toInt))
          orderContextItems := draft.orderContextItems ++
            [⟨entry.1.productId, some name, some price, entry.1.quantity,
              some (calculateProductHash crypto entry.1.productId name price)⟩]
          jpaOrderItems := draft.jpaOrderItems ++
            [⟨0, 0, entry.1.productId, name, entry.1.quantity, price⟩] } := by
  rw [addCartItem] at hadd
  split at hadd
  · rename_i name price hproduct
    exact ⟨name, price, hproduct, (Except.ok.inj hadd).symm⟩
  · cases hadd

/-- The order gets the cart's products and quantities, item by item. -/
theorem buildItems_quantities {crypto : Crypto} {product : ℕ → CatalogAnswer}
    {cartItems : List CartItem} {draft : Draft}
    (hbuild : buildItems crypto product cartItems = .ok draft) :
    draft.jpaOrderItems.map (fun item => (item.productId, item.quantity)) =
      cartItems.map fun item => (item.productId, item.quantity) := by
  have hzip := foldlM_induction (fun done (draft : Draft) =>
      draft.jpaOrderItems.map (fun item => (item.productId, item.quantity)) =
        done.map fun entry : CartItem × ℕ => (entry.1.productId, entry.1.quantity)) rfl
    (fun done entry before after hbefore _ hadd => by
      obtain ⟨name, price, -, rfl⟩ := addCartItem_ok hadd
      simp [hbefore]) hbuild
  rw [hzip]
  conv_rhs => rw [← List.zipIdx_map_fst 0 cartItems, List.map_map]
  rfl

/-- What the cart items cost at the catalog's prices. -/
def cartTotal (product : ℕ → CatalogAnswer) (cartItems : List CartItem) : ℚ :=
  (cartItems.zipIdx.map fun entry =>
    (TransactionSecurityService.getCurrentPrice (product entry.2)).toRat *
      (entry.1.quantity.toInt : ℚ)).sum

theorem buildItems_totalAmount {crypto : Crypto} {product : ℕ → CatalogAnswer}
    {cartItems : List CartItem} {draft : Draft}
    (hbuild : buildItems crypto product cartItems = .ok draft) :
    draft.totalAmount.toRat = cartTotal product cartItems := by
  refine foldlM_induction (fun done (draft : Draft) =>
      draft.totalAmount.toRat = (done.map fun entry : CartItem × ℕ =>
        (TransactionSecurityService.getCurrentPrice (product entry.2)).toRat *
          (entry.1.quantity.toInt : ℚ)).sum) (by simp) ?_ hbuild
  intro done entry before after hbefore _ hadd
  obtain ⟨name, price, hproduct, rfl⟩ := addCartItem_ok hadd
  simp [hbefore, hproduct, TransactionSecurityService.getCurrentPrice]

/-- The items are built exactly when every product has a name and a price. -/
theorem buildItems_ok_iff {crypto : Crypto} {product : ℕ → CatalogAnswer}
    {cartItems : List CartItem} :
    (∃ draft, buildItems crypto product cartItems = .ok draft) ↔
      ∀ entry ∈ cartItems.zipIdx, ∃ name price,
        product entry.2 = .product (some name) (some price) := by
  constructor
  · rintro ⟨draft, hbuild⟩
    refine foldlM_induction (fun done _ => ∀ entry ∈ done, ∃ name price,
        product entry.2 = .product (some name) (some price)) (by simp) ?_ hbuild
    intro done entry before after hbefore _ hadd other hother
    rcases List.mem_append.mp hother with hold | hnew
    · exact hbefore other hold
    · obtain ⟨name, price, hproduct, -⟩ := addCartItem_ok hadd
      rw [List.mem_singleton.mp hnew]
      exact ⟨name, price, hproduct⟩
  · intro hproducts
    refine foldlM_ok_of_forall (fun entry hentry before => ?_) _
    obtain ⟨name, price, hproduct⟩ := hproducts entry hentry
    rw [addCartItem, hproduct]
    exact ⟨_, rfl⟩

/-! ## The gate -/

/-- The gate's answer to a context. -/
def gateAnswer (configuration : OrderConfiguration) (environment : CreateOrderEnvironment)
    (context : TransactionContext) (gateway : GatewayState) :
    PaymentGateResult × GatewayState :=
  validatePaymentTransition configuration.crypto.sha256 environment.lookups environment.clock
    context gateway

theorem exec_passGate (context : TransactionContext) :
    exec (passGate configuration environment context) state =
      let answer := gateAnswer configuration environment context state.gateway
      (if answer.1.approved then .ok ⟨⟩
        else .error (.security (js "Transaction security check failed: " ++ answer.1.reason)),
        { state with gateway := answer.2 }) := by
  rw [passGate, exec_bind]
  simp only [exec_get, exec_bind, exec_modify, gateAnswer]
  split
  · rename_i happroved
    simp [happroved]
  · rename_i hrejected
    simp [hrejected]

theorem exec_passGate_ok {context : TransactionContext} {done : PUnit} :
    exec (passGate configuration environment context) state = (.ok done, final) ↔
      (gateAnswer configuration environment context state.gateway).1.approved = true ∧
        { state with gateway := (gateAnswer configuration environment context state.gateway).2 } =
          final := by
  simp only [exec_passGate]
  cases happroved : (gateAnswer configuration environment context state.gateway).1.approved <;>
    simp

/-- The row `createOrder` saves. -/
def newOrder (environment : CreateOrderEnvironment) (id : ℤ) (userId : JString)
    (totalAmount : BigDecimal) : Order :=
  { id
    trackingNumber := trackingNumberOf environment
    userId
    totalAmount
    status := js "PENDING_PAYMENT"
    createdAt := environment.createdAt }

/-- The tracking number drawn for the call is not taken. -/
def trackingIsFree (environment : CreateOrderEnvironment) (orders : List Order) : Bool :=
  !orders.any fun order => order.trackingNumber == trackingNumberOf environment

theorem exec_saveNewOrder_ok {totalAmount : BigDecimal} {order : Order} :
    exec (saveNewOrder environment request totalAmount) state = (.ok order, final) ↔
      ∃ userId, request.userId = some userId ∧ environment.orderSaveFails = false ∧
        trackingIsFree environment state.tables.orders.rows = true ∧
        newOrder environment state.tables.orders.nextKey userId totalAmount = order ∧
        { state with
          tables := { state.tables with orders := state.tables.orders.insert order } } =
          final := by
  simp only [saveNewOrder, exec_bind_ok, exec_notNull_ok, exec_failWhen_ok, exec_get,
    exec_modify, exec_pure_ok, trackingIsFree, Bool.not_eq_true', newOrder]
  constructor
  · rintro ⟨userId, _, ⟨huser, rfl⟩, _, _, ⟨hsave, rfl⟩, _, _, heq, _, _, ⟨htracking, rfl⟩, _, _,
      hmodify, rfl, rfl⟩
    obtain ⟨rfl, rfl⟩ : state = _ ∧ state = _ := by simpa using heq
    refine ⟨userId, huser, hsave, htracking, rfl, ?_⟩
    simpa using congrArg Prod.snd hmodify
  · rintro ⟨userId, huser, hsave, htracking, rfl, rfl⟩
    exact ⟨userId, _, ⟨huser, rfl⟩, ⟨⟩, _, ⟨hsave, rfl⟩, _, _, rfl, ⟨⟩, _, ⟨htracking, rfl⟩,
      ⟨⟩, _, rfl, rfl, rfl⟩

/-- The item table after saving the items of an order. -/
def insertItems (orderItems : Table OrderItem) (orderId : ℤ) (items : List OrderItem) :
    Table OrderItem :=
  items.foldl (fun table item => table.insert { item with orderId }) orderItems

theorem exec_saveItem_ok {savedOrder : Order} {entry : OrderItem × ℕ} {done : PUnit} :
    exec (saveItem environment savedOrder entry) state = (.ok done, final) ↔
      environment.itemSaveFails entry.2 = false ∧
        { state with
          tables :=
            { state.tables with
              orderItems := state.tables.orderItems.insert
                { entry.1 with orderId := savedOrder.id } } } = final := by
  simp only [saveItem, exec_bind_ok, exec_failWhen_ok, exec_modify]
  constructor
  · rintro ⟨_, _, ⟨hsave, rfl⟩, hmodify⟩
    exact ⟨hsave, by simpa using congrArg Prod.snd hmodify⟩
  · rintro ⟨hsave, rfl⟩
    exact ⟨⟨⟩, _, ⟨hsave, rfl⟩, rfl⟩

theorem exec_saveItems_ok {savedOrder : Order} {entries : List (OrderItem × ℕ)} {done : PUnit} :
    exec (each (saveItem environment savedOrder) entries) state = (.ok done, final) ↔
      (∀ entry ∈ entries, environment.itemSaveFails entry.2 = false) ∧
        { state with
          tables :=
            { state.tables with
              orderItems := insertItems state.tables.orderItems savedOrder.id
                (entries.map Prod.fst) } } = final := by
  induction entries generalizing state with
  | nil => simp [each, insertItems]
  | cons entry entries ih =>
      simp only [each, exec_bind_ok, exec_saveItem_ok, ih, List.forall_mem_cons]
      constructor
      · rintro ⟨_, _, ⟨hentry, rfl⟩, hrest, rfl⟩
        exact ⟨⟨hentry, hrest⟩, rfl⟩
      · rintro ⟨⟨hentry, hrest⟩, rfl⟩
        exact ⟨⟨⟩, _, ⟨hentry, rfl⟩, hrest, rfl⟩

/-- The shipping row of an order. -/
def newShippingInfo (configuration : OrderConfiguration) (environment : CreateOrderEnvironment)
    (orderId : ℤ) (customerName address phone : JString) : ShippingInfo :=
  { id := 0
    orderId
    customerName
    encryptedAddress := Base64.encode (environment.addressIv ++
      configuration.crypto.aesGcmSeal (getBytes configuration.encryptionKey)
        environment.addressIv (getBytes address))
    encryptedPhone := Base64.encode (environment.phoneIv ++
      configuration.crypto.aesGcmSeal (getBytes configuration.encryptionKey)
        environment.phoneIv (getBytes phone))
    phoneBlindIndex := Base64.encode (configuration.crypto.hmacSha256
      (getBytes configuration.hmacSecret) (getBytes phone)) }

theorem exec_saveShippingInfo_ok {savedOrder : Order} {done : PUnit} :
    exec (saveShippingInfo configuration environment request savedOrder) state =
        (.ok done, final) ↔
      ∃ customerName address phone, request.customerName = some customerName ∧
        request.address = some address ∧ request.phone = some phone ∧
        environment.shippingSaveFails = false ∧
        { state with
          tables :=
            { state.tables with
              shippingInfos := state.tables.shippingInfos.insert
                (newShippingInfo configuration environment savedOrder.id customerName address
                  phone) } } = final := by
  cases hphone : request.phone with
  | none => simp [saveShippingInfo, hphone, calculateBlindIndex]
  | some phone =>
      simp only [saveShippingInfo, hphone, calculateBlindIndex, exec_bind_ok, exec_pure_ok,
        exec_failWhen_ok, exec_notNull_ok, exec_modify, convertToDatabaseColumn,
        Option.map_eq_some_iff, Option.some.injEq]
      constructor
      · rintro ⟨_, _, ⟨rfl, rfl⟩, _, _, ⟨hsave, rfl⟩, customerName, _, ⟨hname, rfl⟩, _, _,
          ⟨⟨address, haddress, rfl⟩, rfl⟩, _, _, ⟨⟨_, rfl, rfl⟩, rfl⟩, hmodify⟩
        refine ⟨customerName, address, phone, hname, haddress, rfl, hsave, ?_⟩
        simpa [newShippingInfo] using congrArg Prod.snd hmodify
      · rintro ⟨customerName, address, _, hname, haddress, rfl, hsave, rfl⟩
        exact ⟨_, _, ⟨rfl, rfl⟩, ⟨⟩, _, ⟨hsave, rfl⟩, customerName, _, ⟨hname, rfl⟩, _, _,
          ⟨⟨address, haddress, rfl⟩, rfl⟩, _, _, ⟨⟨phone, rfl, rfl⟩, rfl⟩, rfl⟩

/-- The values a successful call works with: the built items and the request's
fields, none of them `null`. -/
structure Placement where
  draft : Draft
  userId : JString
  customerName : JString
  address : JString
  phone : JString

/-- Everything between reading the cart and clearing it succeeds. -/
structure CanPlace (configuration : OrderConfiguration) (environment : CreateOrderEnvironment)
    (request : CreateOrderRequest) (state : ShopState) (cartItems : List CartItem)
    (placement : Placement) : Prop where
  built : buildItems configuration.crypto environment.product cartItems = .ok placement.draft
  approved : (gateAnswer configuration environment
    (contextOf environment request placement.draft) state.gateway).1.approved = true
  hasUserId : request.userId = some placement.userId
  hasCustomerName : request.customerName = some placement.customerName
  hasAddress : request.address = some placement.address
  hasPhone : request.phone = some placement.phone
  orderSaved : environment.orderSaveFails = false
  trackingFree : trackingIsFree environment state.tables.orders.rows = true
  itemsSaved : ∀ entry ∈ placement.draft.jpaOrderItems.zipIdx,
    environment.itemSaveFails entry.2 = false
  shippingSaved : environment.shippingSaveFails = false

namespace Placement

variable (configuration environment request state)

def order (placement : Placement) : Order :=
  newOrder environment state.tables.orders.nextKey placement.userId placement.draft.totalAmount

def tables (placement : Placement) : OrderTables where
  orders := state.tables.orders.insert (placement.order environment state)
  orderItems := insertItems state.tables.orderItems state.tables.orders.nextKey
    placement.draft.jpaOrderItems
  shippingInfos := state.tables.shippingInfos.insert
    (newShippingInfo configuration environment state.tables.orders.nextKey
      placement.customerName placement.address placement.phone)

def gateway (placement : Placement) : GatewayState :=
  (gateAnswer configuration environment (contextOf environment request placement.draft)
    state.gateway).2

end Placement

theorem exec_placeOrder_ok {cartItems : List CartItem} {order : Order} :
    exec (placeOrder configuration environment request cartItems) state = (.ok order, final) ↔
      ∃ placement, CanPlace configuration environment request state cartItems placement ∧
        placement.order environment state = order ∧
        { state with
          tables := placement.tables configuration environment state
          gateway := placement.gateway configuration environment request state } = final := by
  simp only [placeOrder, exec_bind_ok, exec_ofExcept, exec_passGate_ok, exec_saveNewOrder_ok,
    exec_saveItems_ok, exec_saveShippingInfo_ok, exec_pure_ok, Prod.mk.injEq]
  constructor
  · rintro ⟨draft, _, ⟨hbuilt, rfl⟩, _, _, ⟨happroved, rfl⟩, _, _,
      ⟨userId, huser, hsave, htracking, rfl, rfl⟩, _, _, ⟨hitems, rfl⟩, _, _,
      ⟨customerName, address, phone, hname, haddress, hphone, hshipping, rfl⟩, rfl, rfl⟩
    refine ⟨⟨draft, userId, customerName, address, phone⟩, ⟨hbuilt, happroved, huser, hname,
      haddress, hphone, hsave, htracking, hitems, hshipping⟩, rfl, ?_⟩
    simp [Placement.tables, Placement.gateway, Placement.order, newOrder]
  · rintro ⟨⟨draft, userId, customerName, address, phone⟩, hplace, rfl, rfl⟩
    refine ⟨draft, _, ⟨hplace.built, rfl⟩, ⟨⟩, _, ⟨hplace.approved, rfl⟩, _, _,
      ⟨userId, hplace.hasUserId, hplace.orderSaved, hplace.trackingFree, rfl, rfl⟩, ⟨⟩, _,
      ⟨hplace.itemsSaved, rfl⟩, ⟨⟩, _,
      ⟨customerName, address, phone, hplace.hasCustomerName, hplace.hasAddress, hplace.hasPhone,
        hplace.shippingSaved, rfl⟩, rfl, ?_⟩
    simp [Placement.tables, Placement.gateway, Placement.order, newOrder]

section PlacingFrames

variable {View : Type} {view : ShopState → View}
  (hview : ∀ (state : ShopState) (tables : OrderTables),
    view { state with tables := tables } = view state)
include hview

/-- The saves change the order tables only. -/
theorem keeps_saveNewOrder (totalAmount : BigDecimal) :
    Keeps view (saveNewOrder environment request totalAmount) :=
  keeps_bind (keeps_notNull _) fun _ => keeps_bind (keeps_failWhen _) fun _ =>
    keeps_bind keeps_get fun _ => keeps_bind (keeps_failWhen _) fun _ =>
    keeps_bind (keeps_modify fun state => hview state _) fun _ => keeps_pure _

theorem keeps_saveItem (savedOrder : Order) (entry : OrderItem × ℕ) :
    Keeps view (saveItem environment savedOrder entry) :=
  keeps_bind (keeps_failWhen _) fun _ => keeps_modify fun state => hview state _

theorem keeps_saveShippingInfo (savedOrder : Order) :
    Keeps view (saveShippingInfo configuration environment request savedOrder) := by
  refine keeps_bind ?_ fun _ => keeps_bind (keeps_failWhen _) fun _ =>
    keeps_bind (keeps_notNull _) fun _ => keeps_bind (keeps_notNull _) fun _ =>
    keeps_bind (keeps_notNull _) fun _ => keeps_modify fun state => hview state _
  cases request.phone with
  | none => exact keeps_throw _
  | some phone => exact keeps_pure _

theorem keeps_placeOrder
    (hgate : ∀ context, context.userId = request.userId →
      Keeps view (passGate configuration environment context))
    (cartItems : List CartItem) :
    Keeps view (placeOrder configuration environment request cartItems) :=
  keeps_bind (keeps_ofExcept _) fun _ => keeps_bind (hgate _ rfl) fun _ =>
    keeps_bind (keeps_saveNewOrder hview _) fun savedOrder =>
    keeps_bind (keeps_each (keeps_saveItem hview savedOrder) _) fun _ =>
    keeps_bind (keeps_saveShippingInfo hview savedOrder) fun _ => keeps_pure _

end PlacingFrames

/-! ## The call -/

/-- The call gets as far as clearing the cart. -/
def ReachesClear (configuration : OrderConfiguration) (environment : CreateOrderEnvironment)
    (request : CreateOrderRequest) (state : ShopState) (placement : Placement) : Prop :=
  environment.getCart = .success ∧ state.cartStore.linesOf request.bearerSubject ≠ [] ∧
    CanPlace configuration environment request state
      (state.cartStore.linesOf request.bearerSubject) placement

/-- The state when the cart is about to be cleared. -/
def beforeClear (configuration : OrderConfiguration) (environment : CreateOrderEnvironment)
    (request : CreateOrderRequest) (state : ShopState) (placement : Placement) : ShopState where
  tables := placement.tables configuration environment state
  gateway := placement.gateway configuration environment request state
  cartStore := (state.cartStore.getOrCreateCart request.bearerSubject).store

/-- `createOrder` up to the point where it clears the cart. -/
def prepareOrder (configuration : OrderConfiguration) (environment : CreateOrderEnvironment)
    (request : CreateOrderRequest) : Service Order := do
  let cartItems ← retrieveCart environment request
  placeOrder configuration environment request cartItems

theorem exec_prepareOrder_ok {order : Order} :
    exec (prepareOrder configuration environment request) state = (.ok order, final) ↔
      ∃ placement, ReachesClear configuration environment request state placement ∧
        placement.order environment state = order ∧
        beforeClear configuration environment request state placement = final := by
  simp only [prepareOrder, exec_bind_ok, exec_retrieveCart_ok, exec_placeOrder_ok, ReachesClear]
  constructor
  · rintro ⟨_, _, ⟨hcart, rfl, hne, rfl⟩, placement, hplace, rfl, rfl⟩
    exact ⟨placement, ⟨hcart, hne, { hplace with }⟩, rfl, rfl⟩
  · rintro ⟨placement, ⟨hcart, hne, hplace⟩, rfl, rfl⟩
    exact ⟨_, _, ⟨hcart, rfl, hne, rfl⟩, placement, { hplace with }, rfl, rfl⟩

/-- The gate does not touch the cart service. -/
theorem keeps_passGate {View : Type} (view : CartStore → View) (context : TransactionContext) :
    Keeps (fun state : ShopState => view state.cartStore)
      (passGate configuration environment context) := fun state => by
  rw [exec_passGate]

/-- Preparing an order keeps of the carts what opening one keeps. -/
theorem keeps_prepareOrder {View : Type} {view : CartStore → View}
    (hopen : ∀ store : CartStore,
      view (store.getOrCreateCart request.bearerSubject).store = view store) :
    Keeps (fun state : ShopState => view state.cartStore)
      (prepareOrder configuration environment request) :=
  keeps_bind (keeps_retrieveCart fun state => hopen state.cartStore) fun cartItems =>
    keeps_placeOrder (fun _ _ => rfl) (fun context _ => keeps_passGate view context) cartItems

/-- What opening a cart, saving, the gate and clearing a cart keep, a whole call
keeps. -/
theorem keeps_createOrder {View : Type} {view : ShopState → View}
    (htables : ∀ (state : ShopState) (tables : OrderTables),
      view { state with tables := tables } = view state)
    (hopen : ∀ state : ShopState,
      view { state with
        cartStore := (state.cartStore.getOrCreateCart request.bearerSubject).store } =
        view state)
    (hgate : ∀ context, context.userId = request.userId →
      Keeps view (passGate configuration environment context))
    (hclear : ∀ state : ShopState,
      view { state with cartStore := state.cartStore.clearCart request.bearerSubject } =
        view state) : Keeps view (createOrder configuration environment request) :=
  keeps_transactional
    (keeps_bind (keeps_retrieveCart hopen) fun cartItems =>
      keeps_bind (keeps_placeOrder htables hgate cartItems) fun _ =>
      keeps_bind (keeps_remote (keeps_modify hclear) _ _) fun _ => keeps_pure _)
    fun _ after => htables after _

/-- The state after the transaction is undone; the cart service keeps what it
did. -/
def rolledBack (before after : ShopState) : ShopState :=
  { after with tables := before.tables.rollBack after.tables }

def cleared (request : CreateOrderRequest) (state : ShopState) : ShopState :=
  { state with cartStore := state.cartStore.clearCart request.bearerSubject }

/-- How the call ends once the order is prepared. -/
def finishOrder (environment : CreateOrderEnvironment) (request : CreateOrderRequest)
    (before prepared : ShopState) (order : Order) :
    Except ServiceException Order × ShopState :=
  match environment.clearCart with
  | .failsBefore => (.error libraryFailure, rolledBack before prepared)
  | .replyLost => (.error libraryFailure, rolledBack before (cleared request prepared))
  | .success =>
      if environment.commitFails then
        (.error libraryFailure, rolledBack before (cleared request prepared))
      else (.ok order, cleared request prepared)

/-- The call prepares an order and then finishes it. -/
theorem exec_createOrder :
    exec (createOrder configuration environment request) state =
      match exec (prepareOrder configuration environment request) state with
      | (.error exception, middle) => (.error exception, rolledBack state middle)
      | (.ok order, middle) => finishOrder environment request state middle order := by
  have hbody : (do
      let cartItems ← retrieveCart environment request
      let savedOrder ← placeOrder configuration environment request cartItems
      remote environment.clearCart libraryFailure (clearCartEndpoint request.bearerSubject)
      pure savedOrder : Service Order) =
    (do
      let savedOrder ← prepareOrder configuration environment request
      remote environment.clearCart libraryFailure (clearCartEndpoint request.bearerSubject)
      pure savedOrder) := by
    simp [prepareOrder]
  rw [createOrder, hbody, exec_transactional, exec_bind]
  cases exec (prepareOrder configuration environment request) state with
  | mk outcome middle =>
      cases outcome with
      | error exception => rfl
      | ok order =>
          simp only [exec_bind, finishOrder]
          cases environment.clearCart <;> cases environment.commitFails <;> rfl

/-- The two outcomes: a call that returns saved its order and emptied the
cart; a call that throws left the order tables as they were. -/
theorem exec_createOrder_ok {order : Order} :
    exec (createOrder configuration environment request) state = (.ok order, final) ↔
      ∃ placement, ReachesClear configuration environment request state placement ∧
        environment.clearCart = .success ∧ environment.commitFails = false ∧
        placement.order environment state = order ∧
        cleared request (beforeClear configuration environment request state placement) =
          final := by
  rw [exec_createOrder]
  cases hprepared : exec (prepareOrder configuration environment request) state with
  | mk outcome middle =>
      cases outcome with
      | error exception =>
          simp only [Prod.mk.injEq, reduceCtorEq, false_and, false_iff, not_exists, not_and]
          intro placement hreaches
          have hok := exec_prepareOrder_ok.mpr ⟨placement, hreaches, rfl, rfl⟩
          rw [hprepared] at hok
          cases hok
      | ok prepared =>
          obtain ⟨placement, hreaches, rfl, rfl⟩ := exec_prepareOrder_ok.mp hprepared
          simp only [finishOrder]
          constructor
          · intro hfinish
            split at hfinish
            · cases hfinish
            · cases hfinish
            · rename_i hclear
              split at hfinish
              · cases hfinish
              · rename_i hcommit
                cases hfinish
                exact ⟨placement, hreaches, hclear, by simpa using hcommit, rfl, rfl⟩
          · rintro ⟨other, hother, hclear, hcommit, rfl, rfl⟩
            have hok := exec_prepareOrder_ok.mpr ⟨other, hother, rfl, rfl⟩
            rw [hprepared] at hok
            obtain ⟨horder, hstate⟩ := Prod.mk.inj hok
            simp only [hclear, hcommit, Bool.false_eq_true, if_false, horder, hstate]

/-- A call that throws leaves the order tables as they were.  It leaves the
carts alone too, unless it got as far as clearing the cart. -/
theorem exec_createOrder_error {exception : ServiceException}
    (h : exec (createOrder configuration environment request) state = (.error exception, final)) :
    final.tables.contents = state.tables.contents ∧
      (final.cartStore.linesOf = state.cartStore.linesOf ∨
        ∃ placement, ReachesClear configuration environment request state placement ∧
          (environment.clearCart = .replyLost ∨
            environment.clearCart = .success ∧ environment.commitFails = true)) := by
  have hlines : (exec (prepareOrder configuration environment request) state).2.cartStore.linesOf =
      state.cartStore.linesOf :=
    keeps_prepareOrder
      (fun store => funext (store.linesOf_getOrCreateCart request.bearerSubject)) state
  rw [exec_createOrder] at h
  cases hprepared : exec (prepareOrder configuration environment request) state with
  | mk outcome middle =>
      rw [hprepared] at h hlines
      cases outcome with
      | error other =>
          cases h
          exact ⟨rfl, Or.inl hlines⟩
      | ok prepared =>
          obtain ⟨placement, hreaches, rfl, rfl⟩ := exec_prepareOrder_ok.mp hprepared
          simp only [finishOrder] at h
          split at h
          · cases h
            exact ⟨rfl, Or.inl hlines⟩
          · rename_i hclear
            cases h
            exact ⟨rfl, Or.inr ⟨placement, hreaches, Or.inl hclear⟩⟩
          · rename_i hclear
            split at h
            · rename_i hcommit
              cases h
              exact ⟨rfl, Or.inr ⟨placement, hreaches, Or.inr ⟨hclear, hcommit⟩⟩⟩
            · cases h

variable (configuration environment request state) in
/-- However the call ends, the items of all carts are as before, or the cart of
the request has been cleared. -/
theorem cartStore_createOrder :
    ∃ opened : CartStore, opened.items = state.cartStore.items ∧
      ((exec (createOrder configuration environment request) state).2.cartStore = opened ∨
        (exec (createOrder configuration environment request) state).2.cartStore =
          opened.clearCart request.bearerSubject) := by
  have hitems : (exec (prepareOrder configuration environment request) state).2.cartStore.items =
      state.cartStore.items :=
    keeps_prepareOrder (fun store => store.items_getOrCreateCart request.bearerSubject) state
  refine ⟨_, hitems, ?_⟩
  rw [exec_createOrder]
  cases hprepared : exec (prepareOrder configuration environment request) state with
  | mk outcome middle =>
      cases outcome with
      | error exception => exact Or.inl rfl
      | ok order =>
          simp only [finishOrder]
          split
          · exact Or.inl rfl
          · exact Or.inr rfl
          · split
            · exact Or.inr rfl
            · exact Or.inr rfl

/-- The order a call of `createOrder` returns. -/
def returnedOrder : Except ServiceException Order → List Order
  | .ok order => [order]
  | .error _ => []

variable (configuration environment request state) in
/-- `createOrder` adds the order it returns, and no other. -/
theorem rows_createOrder :
    (exec (createOrder configuration environment request) state).2.tables.orders.rows =
      state.tables.orders.rows ++
        returnedOrder (exec (createOrder configuration environment request) state).1 := by
  cases hexec : exec (createOrder configuration environment request) state with
  | mk outcome final =>
      cases outcome with
      | error exception =>
          have hrows : final.tables.orders.rows = state.tables.orders.rows :=
            congrArg Prod.fst (exec_createOrder_error hexec).1
          simp only [hrows, returnedOrder, List.append_nil]
      | ok order =>
          obtain ⟨placement, -, -, -, rfl, rfl⟩ := exec_createOrder_ok.mp hexec
          rfl

variable (configuration environment request state) in
/-- Order ids are given out upwards, also by a call that is rolled back. -/
theorem nextKey_createOrder_le :
    state.tables.orders.nextKey ≤
      (exec (createOrder configuration environment request) state).2.tables.orders.nextKey := by
  cases hexec : exec (createOrder configuration environment request) state with
  | mk outcome final =>
      cases outcome with
      | ok order =>
          obtain ⟨placement, -, -, -, -, rfl⟩ := exec_createOrder_ok.mp hexec
          exact le_of_lt (lt_add_one _)
      | error exception =>
          have hrolledBack : ∃ middle, final = rolledBack state middle := by
            rw [exec_createOrder] at hexec
            split at hexec
            · cases hexec
              exact ⟨_, rfl⟩
            · rw [finishOrder] at hexec
              split at hexec
              · cases hexec
                exact ⟨_, rfl⟩
              · cases hexec
                exact ⟨_, rfl⟩
              · split at hexec
                · cases hexec
                  exact ⟨_, rfl⟩
                · cases hexec
          obtain ⟨middle, rfl⟩ := hrolledBack
          exact le_max_left _ _

variable (configuration environment request state) in
/-- However the call ends, the orders are as before, or one unpaid order is new. -/
theorem orders_createOrder :
    (exec (createOrder configuration environment request) state).2.tables.orders.rows =
        state.tables.orders.rows ∨
      ∃ order : Order, order.status = js "PENDING_PAYMENT" ∧
        (exec (createOrder configuration environment request) state).2.tables.orders.rows =
          state.tables.orders.rows ++ [order] := by
  cases hexec : exec (createOrder configuration environment request) state with
  | mk outcome final =>
      cases outcome with
      | error exception =>
          exact Or.inl (congrArg Prod.fst (exec_createOrder_error hexec).1)
      | ok order =>
          obtain ⟨placement, -, -, -, -, rfl⟩ := exec_createOrder_ok.mp hexec
          refine Or.inr ⟨Keyed.withKey state.tables.orders.nextKey
            (placement.order environment state), rfl, rfl⟩

/-- An item without its generated ids. -/
def OrderItem.content (item : OrderItem) : OrderItem :=
  { item with id := 0, orderId := 0 }

/-- Saving items appends them under their order, with new ids. -/
theorem rows_insertItems (orderItems : Table OrderItem) (orderId : ℤ) (items : List OrderItem) :
    ∃ saved : List OrderItem,
      (insertItems orderItems orderId items).rows = orderItems.rows ++ saved ∧
        (∀ row ∈ saved, row.orderId = orderId) ∧
        saved.map OrderItem.content = items.map OrderItem.content := by
  induction items generalizing orderItems with
  | nil => exact ⟨[], (List.append_nil _).symm, fun _ hrow => absurd hrow List.not_mem_nil, rfl⟩
  | cons item items ih =>
      obtain ⟨saved, hrows, horder, hcontent⟩ := ih (orderItems.insert { item with orderId })
      refine ⟨{ item with id := orderItems.nextKey, orderId } :: saved, ?_, ?_, ?_⟩
      · exact hrows.trans (by simp [Keyed.withKey])
      · exact List.forall_mem_cons.mpr ⟨rfl, horder⟩
      · rw [List.map_cons, hcontent]
        rfl

/-- Nothing fails, and the catalog gives the same answer to every question. -/
def smoothEnvironment (answer : CatalogAnswer) : CreateOrderEnvironment where
  getCart := .success
  product _ := answer
  lookups := ⟨fun _ => answer, fun _ => answer⟩
  timestamp := 0
  clock := .still 0
  trackingSuffix := js "0123456789AB"
  createdAt := 0
  orderSaveFails := false
  itemSaveFails _ := false
  addressIv := List.replicate 12 0
  phoneIv := List.replicate 12 0
  shippingSaveFails := false
  clearCart := .success
  commitFails := false

/-- The catalog's answer for a laptop at 500. -/
def laptop : CatalogAnswer :=
  .product (some (js "Laptop")) (some ⟨500, 0⟩)

/-- The request of a user with a known browser and address. -/
def plainRequest (userId : JString) : CreateOrderRequest where
  bearerSubject := userId
  userId := some userId
  customerName := some userId
  address := some (js "1 Main Street")
  phone := some (js "0900000000")
  deviceFingerprint := some (js "Mozilla/5.0")
  ipAddress := some (js "203.0.113.7")
  sessionId := some (js "session-1")

/-- Stand-ins for the primitives: injective, not secure. -/
def plainConfiguration : OrderConfiguration where
  crypto := ⟨fun message => message, fun key message => key ++ message,
    fun key iv plaintext => key ++ iv ++ plaintext⟩
  hmacSecret := js "secret"
  encryptionKey := js "0123456789abcdef0123456789abcdef"

end ShoppingWeb.OrderService
