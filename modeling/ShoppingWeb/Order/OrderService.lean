import ShoppingWeb.Lib.Program
import ShoppingWeb.Cart.CartUnits
import ShoppingWeb.Order.Entities
import ShoppingWeb.Order.PaymentSecurityGateway

/-!
# Creating an order

`OrderService.createOrder`: read the cart, price its items, pass the gate,
save, clear the cart.  The state spans the order database, the gateway's
memory and the cart service; only the first is restored when the transaction
rolls back.  Everything the outside world decides during a call (answers of
the catalog, clock readings, failures) is in the call's environment.
-/

namespace ShoppingWeb.OrderService

open ShoppingWeb.Utf16
open ShoppingWeb.DecimalText
open ShoppingWeb.Shared
open ShoppingWeb.CartService
open ShoppingWeb.PaymentSecurityGateway

structure ShopState where
  tables : OrderTables
  gateway : GatewayState
  cartStore : CartStore

def ShopState.empty : ShopState := ⟨.empty, .empty, .empty⟩

/-- Configuration injected into the order service. -/
structure OrderConfiguration where
  crypto : Crypto
  hmacSecret : JString
  encryptionKey : JString

/-- The arguments of `createOrder`.  The bearer token is represented by the
user it authenticates. -/
structure CreateOrderRequest where
  bearerSubject : JString
  userId : Option JString
  customerName : Option JString
  address : Option JString
  phone : Option JString
  deviceFingerprint : Option JString
  ipAddress : Option JString
  sessionId : Option JString
  deriving DecidableEq, Repr

/-- What the outside world decides during one call.  Answers and failures of
repeated steps are indexed by the item's position. -/
structure CreateOrderEnvironment where
  getCart : Program.Delivery
  product : ℕ → CatalogAnswer
  lookups : CatalogLookups
  timestamp : Instant
  clock : CallClock
  /-- The twelve characters taken from a random UUID. -/
  trackingSuffix : JString
  createdAt : ℤ
  orderSaveFails : Bool
  itemSaveFails : ℕ → Bool
  addressIv : Bytes
  phoneIv : Bytes
  shippingSaveFails : Bool
  clearCart : Program.Delivery
  commitFails : Bool

abbrev Service := Program ShopState ServiceException

/-- An exception of a library, whose message is the library's own. -/
def libraryFailure : ServiceException := .runtime []

/-- The JSON object `GET /api/cart` answers with; `none` when it lacks the
key `items`. -/
structure CartReply where
  items : Option (List CartItem)

def getCartEndpoint (subject : JString) : Service (Option CartReply) := do
  let state ← get
  let opened := state.cartStore.getOrCreateCart subject
  modify fun state => { state with cartStore := opened.store }
  pure (some ⟨some opened.items⟩)

def clearCartEndpoint (subject : JString) : Service PUnit :=
  modify fun state => { state with cartStore := state.cartStore.clearCart subject }

def requireItems : Option CartReply → Service (List CartItem)
  | some ⟨some items⟩ =>
      if items.isEmpty then throw (.illegalArgument (js "Cart is empty")) else pure items
  | _ => throw (.illegalArgument (js "Cart is empty"))

def retrieveCart (environment : CreateOrderEnvironment) (request : CreateOrderRequest) :
    Service (List CartItem) := do
  let reply ← Program.remote environment.getCart libraryFailure
    (getCartEndpoint request.bearerSubject)
  requireItems reply

/-- The three variables the loop over the cart items fills. -/
structure Draft where
  totalAmount : BigDecimal
  orderContextItems : List TransactionContext.OrderItem
  jpaOrderItems : List OrderItem
  deriving DecidableEq, Repr

def calculateProductHash (crypto : Crypto) (productId : ℤ) (name : JString)
    (price : BigDecimal) : JString :=
  productDigest crypto.sha256 productId name price

def addCartItem (crypto : Crypto) (product : ℕ → CatalogAnswer) (draft : Draft)
    (entry : CartItem × ℕ) : Except ServiceException Draft :=
  match product entry.2 with
  | .product (some productName) (some price) =>
      let productId := entry.1.productId
      let quantity := entry.1.quantity
      .ok
        { totalAmount := draft.totalAmount.add
            (price.multiply (BigDecimal.ofInt quantity.toInt))
          orderContextItems := draft.orderContextItems ++
            [{ productId
               productName := some productName
               price := some price
               quantity
               productHash := some (calculateProductHash crypto productId productName price) }]
          jpaOrderItems := draft.jpaOrderItems ++
            [{ id := 0, orderId := 0, productId, productName, quantity, price }] }
  | _ => .error libraryFailure

def buildItems (crypto : Crypto) (product : ℕ → CatalogAnswer) (cartItems : List CartItem) :
    Except ServiceException Draft :=
  cartItems.zipIdx.foldlM (addCartItem crypto product) ⟨BigDecimal.zero, [], []⟩

def contextOf (environment : CreateOrderEnvironment) (request : CreateOrderRequest)
    (draft : Draft) : TransactionContext :=
  { orderId := none
    userId := request.userId
    sessionId := request.sessionId
    totalAmount := draft.totalAmount
    currency := some (js "VND")
    timestamp := environment.timestamp
    deviceFingerprint := request.deviceFingerprint
    ipAddress := request.ipAddress
    orderItems := draft.orderContextItems
    shippingDetails := some
      { fullName := request.customerName
        address := request.address
        phoneNumber := request.phone } }

def passGate (configuration : OrderConfiguration) (environment : CreateOrderEnvironment)
    (context : TransactionContext) : Service PUnit := do
  let state ← get
  let answer := validatePaymentTransition configuration.crypto.sha256 environment.lookups
    environment.clock context state.gateway
  modify fun state => { state with gateway := answer.2 }
  if answer.1.approved then pure ⟨⟩
  else throw (.security (js "Transaction security check failed: " ++ answer.1.reason))

/-- A `nullable = false` column. -/
def notNull {Value : Type} : Option Value → Service Value
  | none => throw libraryFailure
  | some value => pure value

def failWhen (condition : Bool) : Service PUnit :=
  if condition then throw libraryFailure else pure ⟨⟩

def trackingNumberOf (environment : CreateOrderEnvironment) : JString :=
  js "TRK" ++ environment.trackingSuffix

/-- `orderRepository.save` of the new order.  Tracking numbers are unique. -/
def saveNewOrder (environment : CreateOrderEnvironment) (request : CreateOrderRequest)
    (totalAmount : BigDecimal) : Service Order := do
  let userId ← notNull request.userId
  failWhen environment.orderSaveFails
  let state ← get
  let trackingNumber := trackingNumberOf environment
  failWhen (state.tables.orders.rows.any fun order => order.trackingNumber == trackingNumber)
  let order : Order :=
    { id := state.tables.orders.nextKey
      trackingNumber
      userId
      totalAmount
      status := js "PENDING_PAYMENT"
      createdAt := environment.createdAt }
  modify fun state =>
    { state with tables := { state.tables with orders := state.tables.orders.insert order } }
  pure order

def saveItem (environment : CreateOrderEnvironment) (savedOrder : Order)
    (entry : OrderItem × ℕ) : Service PUnit := do
  failWhen (environment.itemSaveFails entry.2)
  modify fun state =>
    { state with
      tables :=
        { state.tables with
          orderItems := state.tables.orderItems.insert
            { entry.1 with orderId := savedOrder.id } } }

def calculateBlindIndex (configuration : OrderConfiguration) :
    Option JString → Service JString
  | none => throw (.runtime (js "Failed to calculate blind index"))
  | some phone =>
      pure (Base64.encode (configuration.crypto.hmacSha256
        (getBytes configuration.hmacSecret) (getBytes phone)))

def saveShippingInfo (configuration : OrderConfiguration)
    (environment : CreateOrderEnvironment) (request : CreateOrderRequest)
    (savedOrder : Order) : Service PUnit := do
  let phoneBlindIndex ← calculateBlindIndex configuration request.phone
  failWhen environment.shippingSaveFails
  let customerName ← notNull request.customerName
  let encryptedAddress ← notNull (convertToDatabaseColumn configuration.crypto
    configuration.encryptionKey environment.addressIv request.address)
  let encryptedPhone ← notNull (convertToDatabaseColumn configuration.crypto
    configuration.encryptionKey environment.phoneIv request.phone)
  modify fun state =>
    { state with
      tables :=
        { state.tables with
          shippingInfos := state.tables.shippingInfos.insert
            { id := 0
              orderId := savedOrder.id
              customerName
              encryptedAddress
              encryptedPhone
              phoneBlindIndex } } }

/-- Steps 2 to 6 of `createOrder`, which make no remote call that writes. -/
def placeOrder (configuration : OrderConfiguration) (environment : CreateOrderEnvironment)
    (request : CreateOrderRequest) (cartItems : List CartItem) : Service Order := do
  let draft ← Program.ofExcept (buildItems configuration.crypto environment.product cartItems)
  passGate configuration environment (contextOf environment request draft)
  let savedOrder ← saveNewOrder environment request draft.totalAmount
  Program.each (saveItem environment savedOrder) draft.jpaOrderItems.zipIdx
  saveShippingInfo configuration environment request savedOrder
  pure savedOrder

def createOrder (configuration : OrderConfiguration) (environment : CreateOrderEnvironment)
    (request : CreateOrderRequest) : Service Order :=
  Program.transactional
    (fun before after => { after with tables := before.tables.rollBack after.tables })
    (if environment.commitFails then some libraryFailure else none) do
      let cartItems ← retrieveCart environment request
      let savedOrder ← placeOrder configuration environment request cartItems
      Program.remote environment.clearCart libraryFailure
        (clearCartEndpoint request.bearerSubject)
      pure savedOrder

end ShoppingWeb.OrderService
