import ShoppingWeb.Order.OrderController

/-!
# The payment service

`PaymentService.processPayment`, one definition for each of its numbered
steps, and the rows it writes.  Rows of an open transaction belong to the
call; the database holds what is committed.
-/

namespace ShoppingWeb.PaymentService

open ShoppingWeb.Utf16
open ShoppingWeb.DecimalText
open ShoppingWeb.Shared
open ShoppingWeb.OrderService

structure Transaction where
  id : ℤ
  orderId : ℤ
  amount : BigDecimal
  currency : JString
  status : JString
  paymentToken : JString
  hmacSignature : JString
  encryptedLog : JString
  deriving DecidableEq, Repr

structure AuditLog where
  id : ℤ
  eventType : JString
  orderId : ℤ
  ipAddress : Option JString
  deviceFingerprint : Option JString
  riskScore : BigDecimal
  notes : JString
  deriving DecidableEq, Repr

/-- Committed rows, and the identity columns that also count rolled back rows. -/
structure PaymentDatabase where
  transactions : List Transaction
  auditLogs : List AuditLog
  nextTransactionId : ℤ
  nextAuditLogId : ℤ

def PaymentDatabase.empty : PaymentDatabase := ⟨[], [], 1, 1⟩

/-- The arguments of `processPayment`.  The authorization header is represented
by the user it authenticates. -/
structure PaymentRequest where
  orderId : ℤ
  paymentToken : JString
  caller : JString
  hmacSignature : Option JString
  ipAddress : Option JString
  userAgent : Option JString
  deriving DecidableEq, Repr

def localKey : JString := js "LocalSecureECommercePlatformKey_"

def encryptLocal (crypto : Crypto) (iv : Bytes) (plainText : JString) : JString :=
  Base64.encode (iv ++ crypto.aesGcmSeal (getBytes localKey) iv (getBytes plainText))

/-- Vault's ciphertext, or the local one when there is no Vault or it fails. -/
def encryptData (crypto : Crypto) (vault : Option (JString → Option JString)) (iv : Bytes)
    (plainText : JString) : JString :=
  match vault.bind fun encrypt => encrypt plainText with
  | some ciphertext => ciphertext
  | none => encryptLocal crypto iv plainText

def logPayload (request : PaymentRequest) (amount : BigDecimal) : JString :=
  js "Payment processed for orderId: " ++ intText request.orderId ++ js " with token: " ++
    request.paymentToken ++ js ", amount: " ++ amount.toText

/-- A JSON number as the payment service gets to see it: its digits may be
written differently, but it denotes the same amount. -/
structure AmountReader where
  text : BigDecimal → JString
  exact : ∀ amount, (BigDecimal.ofText (text amount)).toRat = amount.toRat

/-- The answer to the request for the order; any error status is an exception. -/
def fetchAmount (reader : AmountReader) (delivery : Program.Delivery) (request : PaymentRequest)
    (state : ShopState) : Except ServiceException BigDecimal :=
  match delivery, getOrder ⟨request.caller, none⟩ request.orderId state with
  | .success, .order details =>
      .ok (BigDecimal.ofText (reader.text details.order.totalAmount))
  | _, _ => .error (.runtime (js "Failed to fetch order details from order-service"))

def newTransaction (request : PaymentRequest) (amount : BigDecimal) (encryptedLog : JString)
    (id : ℤ) : Transaction where
  id
  orderId := request.orderId
  amount
  currency := js "VND"
  status := js "SUCCESS"
  paymentToken := request.paymentToken
  hmacSignature := request.hmacSignature.getD (js "N/A")
  encryptedLog

def newAuditLog (request : PaymentRequest) (id : ℤ) : AuditLog where
  id
  eventType := js "PAYMENT_SUCCESS"
  orderId := request.orderId
  ipAddress := request.ipAddress
  deviceFingerprint := request.userAgent
  riskScore := BigDecimal.zero
  notes := js "Payment completed successfully"

def paid : JString := js "PAID"

/-- Where a call of `processPayment` stands, with the rows of its open
transaction. -/
inductive PaymentStage where
  | orderFetched (amount : BigDecimal)
  | transactionSaved (transaction : Transaction)
  | auditSaved (transaction : Transaction) (auditLog : AuditLog)
  | statusUpdated (transaction : Transaction) (auditLog : AuditLog)
  /-- The call has returned, or it has thrown and its rows are gone. -/
  | ended
  deriving DecidableEq, Repr

/-- The row of an open transaction. -/
def PaymentStage.openTransaction : PaymentStage → Option Transaction
  | .transactionSaved transaction => some transaction
  | .auditSaved transaction _ => some transaction
  | .statusUpdated transaction _ => some transaction
  | .orderFetched _ | .ended => none

structure PaymentCall where
  request : PaymentRequest
  stage : PaymentStage
  deriving DecidableEq, Repr

/-- A fetched order's amount is the total of an order of the caller. -/
theorem fetchAmount_ok {reader : AmountReader} {delivery : Program.Delivery}
    {request : PaymentRequest} {state : ShopState} {amount : BigDecimal}
    (hfetch : fetchAmount reader delivery request state = .ok amount) :
    ∃ order, state.tables.orders.find? request.orderId = some order ∧
      order.userId = request.caller ∧ amount.toRat = order.totalAmount.toRat := by
  rw [fetchAmount.eq_def] at hfetch
  split at hfetch
  · rename_i details hanswer
    obtain ⟨order, hfind, howner, rfl⟩ := getOrder_eq_order_iff.mp hanswer
    refine ⟨order, hfind, howner, ?_⟩
    rw [← Except.ok.inj hfetch]
    exact reader.exact order.totalAmount
  · cases hfetch

end ShoppingWeb.PaymentService
