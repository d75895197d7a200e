import ShoppingWeb.Lib.BigDecimal
import ShoppingWeb.Lib.Base64

/-!
# Data of the transaction security check

The objects the order service hands to the risk engine and gets back from it.
A reference that may be `null` is an `Option`; an `Instant` is a number of
nanoseconds.
-/

namespace ShoppingWeb.Shared

open ShoppingWeb.Utf16
open ShoppingWeb.DecimalText

/-- How Java's string concatenation prints a reference. -/
def orNull (text : Option JString) : JString :=
  text.getD (js "null")

inductive RiskLevel where
  | low
  | medium
  | high
  | critical
  deriving DecidableEq, Repr

def RiskLevel.name : RiskLevel → JString
  | .low => js "LOW"
  | .medium => js "MEDIUM"
  | .high => js "HIGH"
  | .critical => js "CRITICAL"

inductive SecurityAction where
  | approve
  | approveWithMonitoring
  | requireAdditionalAuth
  | flagForReview
  | block
  | suspendAccount
  | requireKyc
  deriving DecidableEq, Repr

def SecurityAction.name : SecurityAction → JString
  | .approve => js "APPROVE"
  | .approveWithMonitoring => js "APPROVE_WITH_MONITORING"
  | .requireAdditionalAuth => js "REQUIRE_ADDITIONAL_AUTH"
  | .flagForReview => js "FLAG_FOR_REVIEW"
  | .block => js "BLOCK"
  | .suspendAccount => js "SUSPEND_ACCOUNT"
  | .requireKyc => js "REQUIRE_KYC"

namespace TransactionContext

structure OrderItem where
  productId : ℤ
  productName : Option JString
  price : Option BigDecimal
  quantity : Int32
  productHash : Option JString
  deriving DecidableEq, Repr

structure ShippingDetails where
  fullName : Option JString
  address : Option JString
  phoneNumber : Option JString
  deriving DecidableEq, Repr

end TransactionContext

structure TransactionContext where
  orderId : Option ℤ
  userId : Option JString
  sessionId : Option JString
  totalAmount : BigDecimal
  currency : Option JString
  timestamp : ℤ
  deviceFingerprint : Option JString
  ipAddress : Option JString
  orderItems : List TransactionContext.OrderItem
  shippingDetails : Option TransactionContext.ShippingDetails
  deriving DecidableEq, Repr

structure RiskDecision where
  riskLevel : RiskLevel
  action : SecurityAction
  overallScore : ℤ
  reason : JString
  riskFactors : List (JString × JString)
  recommendedActions : List JString
  blockingReason : Option JString
  additionalAuthRequired : Option JString := none
  requiresRealTimeMonitoring : Bool := false
  deriving DecidableEq, Repr

def RiskDecision.isHighRisk (decision : RiskDecision) : Bool :=
  decision.riskLevel == .high || decision.riskLevel == .critical

def RiskDecision.isApproved (decision : RiskDecision) : Bool :=
  decision.action == .approve || decision.action == .approveWithMonitoring

/-- The price that `new BigDecimal(product.get("price").toString())` makes of a
JSON number in an untyped map: a number without fraction and exponent is an
integer there, any other the nearest `double`, and `doubleText` is the decimal
that the text of that `double` denotes. -/
def readPrice (doubleText : BigDecimal → BigDecimal) (written : BigDecimal) : BigDecimal :=
  if written.scale = 0 then written else doubleText written

/-- What a `GET /api/products/{id}` gives its caller, the price as it is read.
A field is `none` when it is missing or, for the price, not a number. -/
inductive CatalogAnswer where
  | failed
  | nullBody
  | product (name : Option JString) (price : Option BigDecimal)
  deriving DecidableEq, Repr

/-- The answer that its caller reads from a product's name and written price. -/
def CatalogAnswer.ofJson (doubleText : BigDecimal → BigDecimal) (name : Option JString)
    (price : Option BigDecimal) : CatalogAnswer :=
  .product name (price.map (readPrice doubleText))

abbrev Bytes := List UInt8

/-- The Base64 digest that binds a product's id, name and price. -/
def productDigest (sha256 : Bytes → Bytes) (productId : ℤ) (name : JString)
    (price : BigDecimal) : JString :=
  Base64.encode (sha256 (getBytes
    (intText productId ++ js ":" ++ name ++ js ":" ++ price.toPlainString)))

end ShoppingWeb.Shared
