import ShoppingWeb.Order.CreateOrderSpec
import ShoppingWeb.Order.EncryptedColumns
import ShoppingWeb.Shared.RiskScore

/-!
# The postcondition of createOrder

When the catalog stays as it is, nothing fails, and the request comes from a
recognized device and an unsuspicious address, the gate has next to nothing to
deduct: `createOrder` adds one order with the items of the cart and one
shipping row, and empties the cart.
-/

namespace ShoppingWeb.OrderService

open ShoppingWeb.Utf16
open ShoppingWeb.Shared
open ShoppingWeb.CartService
open ShoppingWeb.PaymentSecurityGateway
open Program

/-- A request without `null` that gives the risk engine nothing to object to. -/
structure TrustedRequest where
  bearerSubject : JString
  userId : JString
  customerName : JString
  address : JString
  phone : JString
  deviceFingerprint : JString
  ipAddress : JString
  sessionId : JString
  fingerprint_ne_nil : deviceFingerprint ≠ []
  fingerprint_not_curl : ¬ js "curl" <:+: deviceFingerprint
  ipAddress_not_internal : ¬ js "10.0." <+: ipAddress
  ipAddress_not_local : ¬ js "192.168.100." <+: ipAddress

def TrustedRequest.toRequest (request : TrustedRequest) : CreateOrderRequest where
  bearerSubject := request.bearerSubject
  userId := some request.userId
  customerName := some request.customerName
  address := some request.address
  phone := some request.phone
  deviceFingerprint := some request.deviceFingerprint
  ipAddress := some request.ipAddress
  sessionId := some request.sessionId

/-- A catalog that has a name and a price for every product. -/
abbrev Catalog := ℤ → JString × BigDecimal

namespace Catalog

def answer (catalog : Catalog) (productId : ℤ) : CatalogAnswer :=
  .product (some (catalog productId).1) (some (catalog productId).2)

/-- What a cart item is ordered as, without the generated ids. -/
def orderItem (catalog : Catalog) (item : CartItem) : OrderItem where
  id := 0
  orderId := 0
  productId := item.productId
  productName := (catalog item.productId).1
  quantity := item.quantity
  price := (catalog item.productId).2

/-- What cart items cost. -/
def total (catalog : Catalog) (cartItems : List CartItem) : ℚ :=
  (cartItems.map fun item => (catalog item.productId).2.toRat * (item.quantity.toInt : ℚ)).sum

end Catalog

/-- Decryption undoes encryption, and a SHA-256 digest has 32 bytes. -/
structure LawfulCrypto (crypto : Crypto)
    (aesGcmOpen : (key iv ciphertext : Bytes) → Option Bytes) : Prop where
  open_seal : ∀ key iv plaintext,
    aesGcmOpen key iv (crypto.aesGcmSeal key iv plaintext) = some plaintext
  sha256_length : ∀ message, (crypto.sha256 message).length = 32

/-- Nothing fails, all answers come from one catalog, and IVs have 12 bytes. -/
structure Untroubled (environment : CreateOrderEnvironment) (catalog : Catalog)
    (cartItems : List CartItem) (orders : List Order) : Prop where
  getCart : environment.getCart = .success
  product : ∀ entry ∈ cartItems.zipIdx,
    environment.product entry.2 = catalog.answer entry.1.productId
  integrity : ∀ entry ∈ cartItems.zipIdx,
    environment.lookups.integrity entry.2 = catalog.answer entry.1.productId
  price : ∀ entry ∈ cartItems.zipIdx,
    environment.lookups.price entry.2 = catalog.answer entry.1.productId
  trackingFree : trackingIsFree environment orders = true
  orderSaved : environment.orderSaveFails = false
  itemsSaved : ∀ position, environment.itemSaveFails position = false
  addressIv_length : environment.addressIv.length = 12
  phoneIv_length : environment.phoneIv.length = 12
  shippingSaved : environment.shippingSaveFails = false
  clearCart : environment.clearCart = .success
  committed : environment.commitFails = false

/-- The gate approves what the cart items are built into. -/
def GateApproves (configuration : OrderConfiguration) (environment : CreateOrderEnvironment)
    (request : CreateOrderRequest) (state : ShopState) (cartItems : List CartItem) : Prop :=
  ∃ draft, buildItems configuration.crypto environment.product cartItems = .ok draft ∧
    (gateAnswer configuration environment (contextOf environment request draft)
      state.gateway).1.approved = true

/-- The shipping row of the request; `reread` says what becomes of a text that
is encrypted and decrypted. -/
structure ShipsTo (configuration : OrderConfiguration)
    (aesGcmOpen : (key iv ciphertext : Bytes) → Option Bytes) (request : TrustedRequest)
    (reread : JString → JString) (orderId : ℤ) (info : ShippingInfo) : Prop where
  orderId_eq : info.orderId = orderId
  customerName_eq : info.customerName = request.customerName
  address_eq : convertToEntityAttribute aesGcmOpen configuration.encryptionKey
    (some info.encryptedAddress) = .ok (some (reread request.address))
  phone_eq : convertToEntityAttribute aesGcmOpen configuration.encryptionKey
    (some info.encryptedPhone) = .ok (some (reread request.phone))
  phoneBlindIndex_eq : info.phoneBlindIndex = Base64.encode (configuration.crypto.hmacSha256
    (getBytes configuration.hmacSecret) (getBytes request.phone))

/-- What a call leaves behind that orders the cart of its user. -/
structure OrdersCart (configuration : OrderConfiguration)
    (aesGcmOpen : (key iv ciphertext : Bytes) → Option Bytes) (catalog : Catalog)
    (request : TrustedRequest) (reread : JString → JString) (before final : ShopState)
    (order : Order) : Prop where
  orders : final.tables.orders.rows = before.tables.orders.rows ++ [order]
  userId_eq : order.userId = request.userId
  status_eq : order.status = js "PENDING_PAYMENT"
  totalAmount_eq :
    order.totalAmount.toRat = catalog.total (before.cartStore.linesOf request.bearerSubject)
  orderItems : ∃ saved : List OrderItem,
    final.tables.orderItems.rows = before.tables.orderItems.rows ++ saved ∧
      (∀ row ∈ saved, row.orderId = order.id) ∧
      saved.map OrderItem.content =
        (before.cartStore.linesOf request.bearerSubject).map catalog.orderItem
  shippingInfos : ∃ info,
    final.tables.shippingInfos.rows = before.tables.shippingInfos.rows ++ [info] ∧
      ShipsTo configuration aesGcmOpen request reread order.id info
  cartEmptied : final.cartStore.linesOf request.bearerSubject = []
  otherCarts : ∀ otherId ≠ request.bearerSubject,
    final.cartStore.linesOf otherId = before.cartStore.linesOf otherId

/-- A text as UTF-8 carries it: an unpaired surrogate becomes a question mark. -/
def throughUtf8 (text : JString) : JString := newString (getBytes text)

section Building

variable {crypto : Crypto} {product : ℕ → CatalogAnswer} {catalog : Catalog}
  {cartItems : List CartItem} {draft : Draft}

/-- A cart item as the gate sees it. -/
def Catalog.contextItem (crypto : Crypto) (catalog : Catalog) (item : CartItem) :
    TransactionContext.OrderItem where
  productId := item.productId
  productName := some (catalog item.productId).1
  price := some (catalog item.productId).2
  quantity := item.quantity
  productHash := some (calculateProductHash crypto item.productId (catalog item.productId).1
    (catalog item.productId).2)

theorem buildItems_of_catalog (hproduct : ∀ entry ∈ cartItems.zipIdx,
    product entry.2 = catalog.answer entry.1.productId) :
    ∃ draft, buildItems crypto product cartItems = .ok draft := by
  apply buildItems_ok_iff.mpr
  intro entry hentry
  exact ⟨_, _, hproduct entry hentry⟩

/-- With one catalog the items follow from the cart item by item. -/
theorem items_of_catalog (hproduct : ∀ entry ∈ cartItems.zipIdx,
    product entry.2 = catalog.answer entry.1.productId)
    (hbuild : buildItems crypto product cartItems = .ok draft) :
    draft.jpaOrderItems = cartItems.map catalog.orderItem ∧
      draft.orderContextItems = cartItems.map (catalog.contextItem crypto) := by
  have hzip := foldlM_induction (fun done (draft : Draft) =>
      draft.jpaOrderItems = done.map (fun entry : CartItem × ℕ => catalog.orderItem entry.1) ∧
        draft.orderContextItems =
          done.map fun entry : CartItem × ℕ => catalog.contextItem crypto entry.1) ⟨rfl, rfl⟩
    (fun done entry before after hbefore hentry hadd => by
      obtain ⟨name, price, hanswer, rfl⟩ := addCartItem_ok hadd
      have hcatalog := (hproduct entry hentry).symm.trans hanswer
      simp only [Catalog.answer, CatalogAnswer.product.injEq, Option.some.injEq] at hcatalog
      obtain ⟨rfl, rfl⟩ := hcatalog
      simp [hbefore, Catalog.orderItem, Catalog.contextItem]) hbuild
  have hitems : cartItems.zipIdx.map Prod.fst = cartItems := List.zipIdx_map_fst 0 cartItems
  constructor
  · calc draft.jpaOrderItems = (cartItems.zipIdx.map Prod.fst).map catalog.orderItem := by
          rw [hzip.1, List.map_map]
          rfl
      _ = cartItems.map catalog.orderItem := by rw [hitems]
  · calc draft.orderContextItems =
          (cartItems.zipIdx.map Prod.fst).map (catalog.contextItem crypto) := by
          rw [hzip.2, List.map_map]
          rfl
      _ = cartItems.map (catalog.contextItem crypto) := by rw [hitems]

theorem cartTotal_of_catalog (hproduct : ∀ entry ∈ cartItems.zipIdx,
    product entry.2 = catalog.answer entry.1.productId) :
    cartTotal product cartItems = catalog.total cartItems := by
  have hprices : (cartItems.zipIdx.map fun entry =>
      (TransactionSecurityService.getCurrentPrice (product entry.2)).toRat *
        (entry.1.quantity.toInt : ℚ)) =
      (cartItems.zipIdx.map Prod.fst).map fun item =>
        (catalog item.productId).2.toRat * (item.quantity.toInt : ℚ) := by
    rw [List.map_map]
    apply List.map_congr_left
    intro entry hentry
    rw [hproduct entry hentry]
    rfl
  rw [cartTotal, hprices, List.zipIdx_map_fst]
  rfl

end Building

/-! ## The gate -/

section Gate

variable {crypto : Crypto} {lookups : CatalogLookups} {catalog : Catalog}
  {cartItems : List CartItem} {context : TransactionContext}

open TransactionSecurityService

/-- An item as its position in the cart gives it. -/
theorem mem_zipIdx_map {entry : ItemEntry}
    (hentry : entry ∈ (cartItems.map (catalog.contextItem crypto)).zipIdx) :
    ∃ item, (item, entry.2) ∈ cartItems.zipIdx ∧ entry.1 = catalog.contextItem crypto item := by
  rw [List.zipIdx_map, List.mem_map] at hentry
  obtain ⟨⟨item, position⟩, hitem, rfl⟩ := hentry
  exact ⟨item, hitem, rfl⟩

/-- The catalog confirms the hashes the items were built with. -/
theorem tamperedCount_of_catalog (hsha256 : ∀ message, (crypto.sha256 message).length = 32)
    (hitems : context.orderItems = cartItems.map (catalog.contextItem crypto))
    (hintegrity : ∀ entry ∈ cartItems.zipIdx,
      lookups.integrity entry.2 = catalog.answer entry.1.productId) :
    tamperedCount crypto.sha256 lookups context = 0 := by
  rw [tamperedCount, hitems, List.countP_eq_zero]
  intro entry hentry
  obtain ⟨item, hitem, hentryItem⟩ := mem_zipIdx_map hentry
  have hdigest : ∀ name price, productDigest crypto.sha256 item.productId name price ≠ [] := by
    intro name price
    apply Base64.encode_ne_nil
    intro hnil
    have hlength := hsha256 (getBytes
      (DecimalText.intText item.productId ++ js ":" ++ name ++ js ":" ++ price.toPlainString))
    rw [hnil] at hlength
    cases hlength
  rw [hintegrity (item, entry.2) hitem, hentryItem]
  simp [isTampered, generateProductHash, Catalog.answer, Catalog.contextItem, hdigest,
    calculateProductHash]

/-- The catalog confirms the prices. -/
theorem mispricedCount_of_catalog
    (hitems : context.orderItems = cartItems.map (catalog.contextItem crypto))
    (hprice : ∀ entry ∈ cartItems.zipIdx,
      lookups.price entry.2 = catalog.answer entry.1.productId) :
    mispricedCount lookups context = 0 := by
  rw [mispricedCount, hitems, List.countP_eq_zero]
  intro entry hentry
  obtain ⟨item, hitem, hentryItem⟩ := mem_zipIdx_map hentry
  rw [hprice (item, entry.2) hitem, hentryItem]
  simp [isMispriced, getCurrentPrice, Catalog.answer, Catalog.contextItem]

/-- And the total. -/
theorem catalogTotal_of_catalog
    (hitems : context.orderItems = cartItems.map (catalog.contextItem crypto))
    (hprice : ∀ entry ∈ cartItems.zipIdx,
      lookups.price entry.2 = catalog.answer entry.1.productId) :
    catalogTotal lookups context = catalog.total cartItems := by
  rw [← cartTotal_of_catalog hprice, catalogTotal, cartTotal, hitems, List.zipIdx_map, List.map_map]
  rfl

/-- Nothing is found against a trusted request. -/
theorem isApproved_of_catalog (hsha256 : ∀ message, (crypto.sha256 message).length = 32)
    {environment : CreateOrderEnvironment} {request : TrustedRequest} {draft : Draft}
    (hdraft : draft.orderContextItems = cartItems.map (catalog.contextItem crypto))
    (htotal : draft.totalAmount.toRat = catalog.total cartItems)
    (hintegrity : ∀ entry ∈ cartItems.zipIdx,
      lookups.integrity entry.2 = catalog.answer entry.1.productId)
    (hprice : ∀ entry ∈ cartItems.zipIdx,
      lookups.price entry.2 = catalog.answer entry.1.productId) :
    (validateTransaction crypto.sha256 lookups
      (contextOf environment request.toRequest draft)).isApproved = true := by
  have hitems : (contextOf environment request.toRequest draft).orderItems =
      cartItems.map (catalog.contextItem crypto) := hdraft
  apply isApproved_of_no_finding
  · simp [contextOf, TrustedRequest.toRequest, isDeviceRecognized, request.fingerprint_ne_nil,
      request.fingerprint_not_curl]
  · simp [contextOf, TrustedRequest.toRequest, isSuspiciousLocation,
      request.ipAddress_not_internal, request.ipAddress_not_local, Bool.eq_false_iff]
  · rfl
  · rfl
  · exact tamperedCount_of_catalog hsha256 hitems hintegrity
  · exact mispricedCount_of_catalog hitems hprice
  · have hsame : (contextOf environment request.toRequest draft).totalAmount.toRat =
        catalog.total cartItems := htotal
    rw [TotalMismatch, catalogTotal_of_catalog hitems hprice, hsame]
    norm_num

end Gate

variable {configuration : OrderConfiguration} {environment : CreateOrderEnvironment}
  {aesGcmOpen : (key iv ciphertext : Bytes) → Option Bytes} {catalog : Catalog}
  {request : TrustedRequest} {state : ShopState}

/-- The gate approves, from its cache or afresh. -/
theorem approved_of_isApproved {context : TransactionContext}
    (happroved : (TransactionSecurityService.validateTransaction configuration.crypto.sha256
      environment.lookups context).isApproved = true) :
    (gateAnswer configuration environment context state.gateway).1.approved = true := by
  rcases validatePaymentTransition_cases configuration.crypto.sha256 environment.lookups
    environment.clock context state.gateway with ⟨approval, -, hanswer⟩ | ⟨-, hanswer, -⟩
  · rw [gateAnswer, hanswer]
    rfl
  · exact hanswer.trans happroved

/-- The values a call for a trusted request works with. -/
def TrustedRequest.placement (request : TrustedRequest) (draft : Draft) : Placement where
  draft
  userId := request.userId
  customerName := request.customerName
  address := request.address
  phone := request.phone

theorem canPlace_of_untroubled (hcrypto : LawfulCrypto configuration.crypto aesGcmOpen)
    {cartItems : List CartItem}
    (huntroubled : Untroubled environment catalog cartItems state.tables.orders.rows) :
    ∃ draft, CanPlace configuration environment request.toRequest state cartItems
      (request.placement draft) := by
  obtain ⟨draft, hbuild⟩ : ∃ draft,
      buildItems configuration.crypto environment.product cartItems = .ok draft :=
    buildItems_of_catalog huntroubled.product
  have htotal : draft.totalAmount.toRat = catalog.total cartItems := by
    rw [buildItems_totalAmount hbuild, cartTotal_of_catalog huntroubled.product]
  have happroved : (TransactionSecurityService.validateTransaction configuration.crypto.sha256
      environment.lookups (contextOf environment request.toRequest draft)).isApproved = true :=
    isApproved_of_catalog hcrypto.sha256_length (items_of_catalog huntroubled.product hbuild).2
      htotal huntroubled.integrity huntroubled.price
  exact ⟨draft,
    { built := hbuild
      approved := approved_of_isApproved happroved
      hasUserId := rfl
      hasCustomerName := rfl
      hasAddress := rfl
      hasPhone := rfl
      orderSaved := huntroubled.orderSaved
      trackingFree := huntroubled.trackingFree
      itemsSaved := fun entry _ => huntroubled.itemsSaved entry.2
      shippingSaved := huntroubled.shippingSaved }⟩

theorem shipsTo_newShippingInfo (hcrypto : LawfulCrypto configuration.crypto aesGcmOpen)
    (haddressIv : environment.addressIv.length = 12) (hphoneIv : environment.phoneIv.length = 12)
    (id orderId : ℤ) :
    ShipsTo configuration aesGcmOpen request throughUtf8 orderId
      { newShippingInfo configuration environment orderId request.customerName request.address
          request.phone with id } where
  orderId_eq := rfl
  customerName_eq := rfl
  address_eq := convertToEntityAttribute_sealed haddressIv (hcrypto.open_seal _ _ _)
  phone_eq := convertToEntityAttribute_sealed hphoneIv (hcrypto.open_seal _ _ _)
  phoneBlindIndex_eq := rfl

/-- The tables and carts a prepared and finished call leaves behind. -/
theorem ordersCart_of_canPlace (hcrypto : LawfulCrypto configuration.crypto aesGcmOpen)
    (huntroubled : Untroubled environment catalog
      (state.cartStore.linesOf request.bearerSubject) state.tables.orders.rows)
    {draft : Draft}
    (hplace : CanPlace configuration environment request.toRequest state
      (state.cartStore.linesOf request.bearerSubject) (request.placement draft)) :
    OrdersCart configuration aesGcmOpen catalog request throughUtf8 state
      (cleared request.toRequest
        (beforeClear configuration environment request.toRequest state (request.placement draft)))
      ((request.placement draft).order environment state) where
  orders := rfl
  userId_eq := rfl
  status_eq := rfl
  totalAmount_eq := by
    rw [← cartTotal_of_catalog huntroubled.product]
    exact buildItems_totalAmount hplace.built
  orderItems := by
    obtain ⟨saved, hrows, horder, hcontent⟩ := rows_insertItems state.tables.orderItems
      state.tables.orders.nextKey draft.jpaOrderItems
    refine ⟨saved, hrows, horder, ?_⟩
    have hitems : draft.jpaOrderItems =
        (state.cartStore.linesOf request.bearerSubject).map catalog.orderItem :=
      (items_of_catalog huntroubled.product hplace.built).1
    rw [hcontent, hitems, List.map_map]
    rfl
  shippingInfos := ⟨_, rfl, shipsTo_newShippingInfo hcrypto huntroubled.addressIv_length
    huntroubled.phoneIv_length _ _⟩
  cartEmptied := CartStore.linesOf_clearCart _ _
  otherCarts := by
    intro otherId hother
    calc ((state.cartStore.getOrCreateCart request.bearerSubject).store.clearCart
          request.bearerSubject).linesOf otherId =
        (state.cartStore.getOrCreateCart request.bearerSubject).store.linesOf otherId :=
          CartStore.linesOf_clearCart_other _ hother.symm
      _ = state.cartStore.linesOf otherId := CartStore.linesOf_getOrCreateCart _ _ _

/-- A call in which nothing fails orders the cart. -/
theorem createOrder_untroubled (hcrypto : LawfulCrypto configuration.crypto aesGcmOpen)
    (hcart : state.cartStore.linesOf request.bearerSubject ≠ [])
    (huntroubled : Untroubled environment catalog
      (state.cartStore.linesOf request.bearerSubject) state.tables.orders.rows) :
    GateApproves configuration environment request.toRequest state
        (state.cartStore.linesOf request.bearerSubject) ∧
      ∃ order final, exec (createOrder configuration environment request.toRequest) state =
          (.ok order, final) ∧
        OrdersCart configuration aesGcmOpen catalog request throughUtf8 state final order := by
  obtain ⟨draft, hplace⟩ : ∃ draft, CanPlace configuration environment request.toRequest state
      (state.cartStore.linesOf request.bearerSubject) (request.placement draft) :=
    canPlace_of_untroubled hcrypto huntroubled
  have hexec := exec_createOrder_ok.mpr ⟨request.placement draft,
    ⟨huntroubled.getCart, hcart, hplace⟩, huntroubled.clearCart, huntroubled.committed, rfl, rfl⟩
  exact ⟨⟨draft, hplace.built, hplace.approved⟩, _, _, hexec,
    ordersCart_of_canPlace hcrypto huntroubled hplace⟩

/-- Only what becomes of these two texts matters. -/
theorem OrdersCart.of_reread {reread reread' : JString → JString} {final : ShopState}
    {order : Order}
    (horders : OrdersCart configuration aesGcmOpen catalog request reread state final order)
    (haddress : reread request.address = reread' request.address)
    (hphone : reread request.phone = reread' request.phone) :
    OrdersCart configuration aesGcmOpen catalog request reread' state final order := by
  obtain ⟨info, hrows, hships⟩ := horders.shippingInfos
  exact { horders with
    shippingInfos := ⟨info, hrows, { hships with
      address_eq := haddress ▸ hships.address_eq
      phone_eq := hphone ▸ hships.phone_eq }⟩ }

/-- The postcondition: the gate approves, and the call orders the cart.  The
stored columns decrypt to address and phone as UTF-8 carries them, so to the
texts themselves where these are well formed. -/
theorem createOrder_ordersCart (configuration : OrderConfiguration)
    (aesGcmOpen : (key iv ciphertext : Bytes) → Option Bytes)
    (environment : CreateOrderEnvironment) (catalog : Catalog) (request : TrustedRequest)
    (state : ShopState) (hcrypto : LawfulCrypto configuration.crypto aesGcmOpen)
    (hcart : state.cartStore.linesOf request.bearerSubject ≠ [])
    (huntroubled : Untroubled environment catalog
      (state.cartStore.linesOf request.bearerSubject) state.tables.orders.rows) :
    GateApproves configuration environment request.toRequest state
        (state.cartStore.linesOf request.bearerSubject) ∧
      ∃ order final, exec (createOrder configuration environment request.toRequest) state =
          (.ok order, final) ∧
        OrdersCart configuration aesGcmOpen catalog request throughUtf8 state final order ∧
        (WellFormed request.address → WellFormed request.phone →
          OrdersCart configuration aesGcmOpen catalog request id state final order) := by
  obtain ⟨hgate, order, final, hexec, horders⟩ :=
    createOrder_untroubled hcrypto hcart huntroubled
  refine ⟨hgate, order, final, hexec, horders, ?_⟩
  intro haddress hphone
  exact horders.of_reread (newString_getBytes haddress) (newString_getBytes hphone)

/-! ## A laptop for alice -/

/-- Stand-ins with digests of the right length. -/
def roundTripConfiguration : OrderConfiguration where
  crypto := ⟨fun _ => List.replicate 32 0, fun _ message => message, fun _ _ plaintext => plaintext⟩
  hmacSecret := js "secret"
  encryptionKey := js "0123456789abcdef0123456789abcdef"

theorem lawfulCrypto_roundTrip :
    LawfulCrypto roundTripConfiguration.crypto fun _ _ ciphertext => some ciphertext where
  open_seal _ _ _ := rfl
  sha256_length _ := List.length_replicate

/-- The cart of alice holds a laptop. -/
def laptopInCart : ShopState :=
  { ShopState.empty with cartStore := CartStore.empty.addItemToCart (js "alice") 1 1 }

def laptopCatalog : Catalog := fun _ => (js "Laptop", ⟨500, 0⟩)

def requestTo (address : JString) : TrustedRequest where
  bearerSubject := js "alice"
  userId := js "alice"
  customerName := js "Alice"
  address
  phone := js "0900000000"
  deviceFingerprint := js "Mozilla/5.0"
  ipAddress := js "203.0.113.7"
  sessionId := js "session-1"
  fingerprint_ne_nil := by decide
  fingerprint_not_curl := by decide
  ipAddress_not_internal := by decide
  ipAddress_not_local := by decide

theorem untroubled_smooth (cartItems : List CartItem) :
    Untroubled (smoothEnvironment laptop) laptopCatalog cartItems [] where
  getCart := rfl
  product _ _ := rfl
  integrity _ _ := rfl
  price _ _ := rfl
  trackingFree := rfl
  orderSaved := rfl
  itemsSaved _ := rfl
  addressIv_length := rfl
  phoneIv_length := rfl
  shippingSaved := rfl
  clearCart := rfl
  committed := rfl

theorem createOrder_ordersCart_laptop :
    GateApproves roundTripConfiguration (smoothEnvironment laptop)
        (requestTo (js "1 Main Street")).toRequest laptopInCart
        (laptopInCart.cartStore.linesOf (js "alice")) ∧
      ∃ order final, exec (createOrder roundTripConfiguration (smoothEnvironment laptop)
          (requestTo (js "1 Main Street")).toRequest) laptopInCart = (.ok order, final) ∧
        OrdersCart roundTripConfiguration (fun _ _ ciphertext => some ciphertext) laptopCatalog
          (requestTo (js "1 Main Street")) throughUtf8 laptopInCart final order ∧
        (WellFormed (js "1 Main Street") → WellFormed (js "0900000000") →
          OrdersCart roundTripConfiguration (fun _ _ ciphertext => some ciphertext) laptopCatalog
            (requestTo (js "1 Main Street")) id laptopInCart final order) :=
  createOrder_ordersCart roundTripConfiguration (fun _ _ ciphertext => some ciphertext)
    (smoothEnvironment laptop) laptopCatalog (requestTo (js "1 Main Street")) laptopInCart
    lawfulCrypto_roundTrip (by decide) (untroubled_smooth _)

/-- An address that is one half of a surrogate pair. -/
def unpairedAddress : JString := [0xD800]

/-- It is read back as a question mark. -/
theorem unpairedAddress_not_reread :
    ¬ ∀ (configuration : OrderConfiguration)
      (aesGcmOpen : (key iv ciphertext : Bytes) → Option Bytes)
      (environment : CreateOrderEnvironment) (catalog : Catalog) (request : TrustedRequest)
      (state : ShopState), LawfulCrypto configuration.crypto aesGcmOpen →
      state.cartStore.linesOf request.bearerSubject ≠ [] →
      Untroubled environment catalog (state.cartStore.linesOf request.bearerSubject)
        state.tables.orders.rows →
      GateApproves configuration environment request.toRequest state
          (state.cartStore.linesOf request.bearerSubject) ∧
        ∃ order final, exec (createOrder configuration environment request.toRequest) state =
            (.ok order, final) ∧
          OrdersCart configuration aesGcmOpen catalog request id state final order := by
  intro hclaim
  obtain ⟨-, order, final, hexec, horders⟩ := hclaim roundTripConfiguration
    (fun _ _ ciphertext => some ciphertext) (smoothEnvironment laptop) laptopCatalog
    (requestTo unpairedAddress) laptopInCart lawfulCrypto_roundTrip (by decide)
    (untroubled_smooth _)
  obtain ⟨-, order', final', hexec', horders'⟩ : _ ∧ ∃ order' final',
      exec (createOrder roundTripConfiguration (smoothEnvironment laptop)
        (requestTo unpairedAddress).toRequest) laptopInCart = (.ok order', final') ∧
      OrdersCart roundTripConfiguration (fun _ _ ciphertext => some ciphertext) laptopCatalog
        (requestTo unpairedAddress) throughUtf8 laptopInCart final' order' :=
    createOrder_untroubled lawfulCrypto_roundTrip (by decide) (untroubled_smooth _)
  obtain ⟨-, rfl⟩ : order = order' ∧ final = final' := by simpa [hexec] using hexec'
  obtain ⟨info, hrows, hships⟩ := horders.shippingInfos
  obtain ⟨info', hrows', hships'⟩ := horders'.shippingInfos
  obtain rfl : info = info' := by simpa using hrows.symm.trans hrows'
  have hreread := hships.address_eq.symm.trans hships'.address_eq
  exact absurd hreread (by decide)

end ShoppingWeb.OrderService
