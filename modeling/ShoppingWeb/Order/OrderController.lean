import ShoppingWeb.Lib.EcdsaEncoding
import ShoppingWeb.Order.OrderService

/-!
# The order endpoints

`OrderController` over `OrderService`: the signature check of a new order, the
listings, and the status update, with the HTTP status of every exception.
-/

namespace ShoppingWeb.OrderService

open ShoppingWeb.Utf16
open ShoppingWeb.Shared

/-- An order with its items, as Jackson writes it. -/
structure OrderDetails where
  order : Order
  items : List OrderItem
  deriving DecidableEq, Repr

def OrderTables.detailsOf (tables : OrderTables) (order : Order) : OrderDetails :=
  ⟨order, tables.orderItems.rows.filter fun item => item.orderId == order.id⟩

def getAllOrders (tables : OrderTables) : List OrderDetails :=
  tables.orders.rows.map tables.detailsOf

def getOrdersByUserId (tables : OrderTables) (userId : JString) : List OrderDetails :=
  (tables.orders.rows.filter fun order => order.userId == userId).map tables.detailsOf

def getOrderByIdWithoutUserCheck (tables : OrderTables) (id : ℤ) :
    Except ServiceException Order :=
  match tables.orders.find? id with
  | none => .error (.illegalArgument (js "Order not found"))
  | some order => .ok order

def getOrderById (tables : OrderTables) (id : ℤ) (userId : JString) :
    Except ServiceException OrderDetails :=
  match tables.orders.find? id with
  | none => .error (.illegalArgument (js "Order not found"))
  | some order =>
      if order.userId ≠ userId then
        .error (.security (js "Unauthorized access to order"))
      else .ok (tables.detailsOf order)

/-- `saveOrder` of a managed order whose status has been set. -/
def OrderTables.saveStatus (tables : OrderTables) (id : ℤ) (status : JString) : OrderTables :=
  { tables with
    orders := tables.orders.update id (fun order => { order with status }) fun _ => rfl }

theorem OrderTables.mem_saveStatus {tables : OrderTables} {id : ℤ} {status : JString}
    {order : Order} (horder : order ∈ (tables.saveStatus id status).orders.rows) :
    (order ∈ tables.orders.rows ∧ order.id ≠ id) ∨
      ∃ old ∈ tables.orders.rows, old.id = id ∧ order = { old with status } := by
  simp only [saveStatus] at horder
  exact tables.orders.mem_rows_update horder

/-- The parts of `java.security` the check uses.  An error is the message of
the exception. -/
structure JavaSecurity where
  PublicKey : Type
  generatePublic : Bytes → Except JString PublicKey
  verify : PublicKey → (message signature : Bytes) → Except JString Bool
  illegalBase64 : JString → JString

/-- The JSON body of `POST /api/orders`. -/
structure OrderPayload where
  shippingAddress : Option JString
  phoneNumber : Option JString
  timestamp : Option JString
  signature : Option JString
  publicKey : Option JString
  deriving DecidableEq, Repr

def dataToVerify (payload : OrderPayload) (timestamp : JString) : JString :=
  orNull payload.shippingAddress ++ js ":" ++ orNull payload.phoneNumber ++ js ":" ++ timestamp

def decodeBase64 (java : JavaSecurity) (text : JString) : Except JString Bytes :=
  match Base64.decode (Base64.trim text) with
  | none => .error (java.illegalBase64 (Base64.trim text))
  | some bytes => .ok bytes

/-- The body of the `try` block; its exceptions are caught and wrapped. -/
def verifyPayload (java : JavaSecurity) (data : Bytes) (publicKeyBase64 signature : JString) :
    Except JString PUnit := do
  let keyBytes ← decodeBase64 java publicKeyBase64
  let pubKey ← java.generatePublic keyBytes
  let sigBytes ← decodeBase64 java signature
  let isValid ← java.verify pubKey data sigBytes
  if isValid then .ok ⟨⟩
  else
    .error (js
      "Giao dịch bị từ chối! Chữ ký số không hợp lệ hoặc dữ liệu đơn hàng đã bị sửa đổi.")

def checkOrderSignature (java : JavaSecurity) (payload : OrderPayload) :
    Except ServiceException PUnit :=
  match payload.signature, payload.publicKey, payload.timestamp with
  | some signature, some publicKeyBase64, some timestamp =>
      match verifyPayload java (getBytes (dataToVerify payload timestamp)) publicKeyBase64
          signature with
      | .ok done => .ok done
      | .error message => .error (.security (js "Lỗi xác thực mật mã: " ++ message))
  | _, _, _ =>
      .error (.security (js "Giao dịch bị từ chối! Thiếu chữ ký số giao dịch chống chối bỏ."))

/-- The claims of the access token. -/
structure Jwt where
  subject : JString
  preferredUsername : Option JString
  deriving DecidableEq, Repr

/-- The parts of the servlet request that `createOrder` reads. -/
structure ClientInfo where
  xForwardedFor : Option JString
  remoteAddr : Option JString
  userAgent : Option JString
  sessionId : JString
  deriving DecidableEq, Repr

inductive OrderResponse where
  | created (orderId : ℤ) (trackingNumber : JString) (totalAmount : BigDecimal)
      (status : JString)
  | orderList (orders : List OrderDetails)
  | order (details : OrderDetails)
  | done
  | failed (status : ℕ) (message : JString)
  deriving DecidableEq, Repr

/-- The order a response announces. -/
def createdId : OrderResponse → Option ℤ
  | .created orderId _ _ _ => some orderId
  | _ => none

/-- The exception handlers of the controller; other exceptions end in the
container's error page. -/
def handleException : ServiceException → OrderResponse
  | .illegalArgument message => .failed 404 message
  | .security message => .failed 403 message
  | .runtime _ => .failed 500 []

def requestOf (jwt : Jwt) (payload : OrderPayload) (client : ClientInfo) : CreateOrderRequest :=
  { bearerSubject := jwt.subject
    userId := some jwt.subject
    customerName := some (jwt.preferredUsername.getD jwt.subject)
    address := payload.shippingAddress
    phone := payload.phoneNumber
    deviceFingerprint := client.userAgent
    ipAddress := client.xForwardedFor <|> client.remoteAddr
    sessionId := some client.sessionId }

def postOrder (configuration : OrderConfiguration) (java : JavaSecurity)
    (environment : CreateOrderEnvironment) (jwt : Jwt) (payload : OrderPayload)
    (client : ClientInfo) (state : ShopState) : OrderResponse × ShopState :=
  match checkOrderSignature java payload with
  | .error exception => (handleException exception, state)
  | .ok _ =>
      match Program.exec (createOrder configuration environment (requestOf jwt payload client))
          state with
      | (.ok order, final) =>
          (.created order.id order.trackingNumber order.totalAmount order.status, final)
      | (.error exception, final) => (handleException exception, final)

def getOrders (jwt : Jwt) (state : ShopState) : OrderResponse :=
  .orderList (getOrdersByUserId state.tables jwt.subject)

def getAll (state : ShopState) : OrderResponse :=
  .orderList (getAllOrders state.tables)

def getOrder (jwt : Jwt) (id : ℤ) (state : ShopState) : OrderResponse :=
  match getOrderById state.tables id jwt.subject with
  | .error exception => handleException exception
  | .ok details => .order details

/-- `PUT /api/orders/{id}/status` does not look at the caller. -/
def updateOrderStatus (id : ℤ) (status : JString) (state : ShopState) :
    OrderResponse × ShopState :=
  match getOrderByIdWithoutUserCheck state.tables id with
  | .error exception => (handleException exception, state)
  | .ok order => (.done, { state with tables := state.tables.saveStatus order.id status })

/-- A single order is shown to its owner. -/
theorem getOrder_eq_order_iff {jwt : Jwt} {id : ℤ} {state : ShopState} {details : OrderDetails} :
    getOrder jwt id state = .order details ↔
      ∃ order, state.tables.orders.find? id = some order ∧ order.userId = jwt.subject ∧
        state.tables.detailsOf order = details := by
  rw [getOrder, getOrderById]
  cases state.tables.orders.find? id with
  | none => simp [handleException]
  | some order =>
      by_cases howner : order.userId = jwt.subject
      · simp [howner]
      · simp [howner, handleException]

/-- An unknown id changes nothing; a known one gets the status. -/
theorem updateOrderStatus_cases (id : ℤ) (status : JString) (state : ShopState) :
    (state.tables.orders.find? id = none ∧
        updateOrderStatus id status state = (.failed 404 (js "Order not found"), state)) ∨
      ∃ order, state.tables.orders.find? id = some order ∧
        updateOrderStatus id status state =
          (.done, { state with tables := state.tables.saveStatus id status }) := by
  rw [updateOrderStatus, getOrderByIdWithoutUserCheck]
  cases hfind : state.tables.orders.find? id with
  | none => exact Or.inl ⟨rfl, rfl⟩
  | some order =>
      refine Or.inr ⟨order, rfl, ?_⟩
      have hid : order.id = id := (state.tables.orders.find?_eq_some_iff.mp hfind).2
      simp only [hid]

end ShoppingWeb.OrderService
