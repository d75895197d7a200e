import Mathlib.Algebra.Order.Floor.Ring
import Mathlib.Data.Rat.Floor
import ShoppingWeb.Shared.TransactionContext

/-!
# The risk engine

`TransactionSecurityService`: six component checks, their weighted score, and
the action taken on it.  The catalog is asked once per item by the integrity
check and once per item by the price check; both answers are inputs, indexed
by the item's position.
-/

namespace ShoppingWeb.Shared

open ShoppingWeb.Utf16
open ShoppingWeb.DecimalText

/-- The answers of the catalog to the two lookups of each item. -/
structure CatalogLookups where
  integrity : ℕ → CatalogAnswer
  price : ℕ → CatalogAnswer

/-- No lookup is answered. -/
def unreachableCatalog : CatalogLookups := ⟨fun _ => .failed, fun _ => .failed⟩

namespace TransactionSecurityService

def HIGH_VALUE_THRESHOLD : BigDecimal := ⟨1000000, 0⟩
def MAX_FAILED_ATTEMPTS : Int32 := 3
def SUSPICIOUS_ORDER_COUNT : Int32 := 5

def isDeviceRecognized (deviceFingerprint _userId : Option JString) : Bool :=
  match deviceFingerprint with
  | none => false
  | some fingerprint => !fingerprint.isEmpty && !decide (js "curl" <:+: fingerprint)

def isSuspiciousLocation (ipAddress _userId : Option JString) : Bool :=
  match ipAddress with
  | none => false
  | some address =>
      (js "10.0.").isPrefixOf address || (js "192.168.100.").isPrefixOf address

/-- A constant: the source leaves the database query out. -/
def getRecentFailedAttempts (_userId : Option JString) : Int32 := 0

def isSessionOwnedByUser (sessionId userId : Option JString) : Bool :=
  sessionId.isSome && userId.isSome

def detectSessionHijacking (context : TransactionContext) : Bool :=
  context.ipAddress.isNone || context.deviceFingerprint.isNone

/-- A constant: the source leaves the database query out. -/
def isDuplicateTransaction (_context : TransactionContext) : Bool := false

/-- A constant: the source leaves the database query out. -/
def getRecentOrderCount (_userId : Option JString) (_hours : Int32) : Int32 := 1

/-- The empty text stands for every failure to fetch or read the product. -/
def generateProductHash (sha256 : Bytes → Bytes) (productId : ℤ) : CatalogAnswer → JString
  | .product (some name) (some price) => productDigest sha256 productId name price
  | _ => []

def getCurrentPrice : CatalogAnswer → BigDecimal
  | .product _ (some price) => price
  | _ => BigDecimal.zero

structure UserVerificationResult where
  score : Int32
  riskLevel : RiskLevel
  issues : List JString
  deviceRecognized : Bool
  locationTrusted : Bool
  deriving DecidableEq, Repr

def verifyUserIdentity (context : TransactionContext) : UserVerificationResult :=
  let recognized := isDeviceRecognized context.deviceFingerprint context.userId
  let suspicious := isSuspiciousLocation context.ipAddress context.userId
  let failed := decide (getRecentFailedAttempts context.userId > MAX_FAILED_ATTEMPTS)
  let score := 100 - (if recognized then 0 else 20) - (if suspicious then 25 else 0) -
    (if failed then 30 else 0)
  { score := max 0 score
    riskLevel :=
      if failed then .critical
      else if suspicious then .high
      else if recognized then .low else .medium
    issues :=
      (if recognized then [] else [js "Unknown device detected"]) ++
      (if suspicious then [js "Suspicious geolocation"] else []) ++
      (if failed then [js "Multiple failed login attempts detected"] else [])
    deviceRecognized := recognized
    locationTrusted := !suspicious }

structure SessionValidationResult where
  score : Int32
  riskLevel : RiskLevel
  issues : List JString
  sessionValid : Bool
  deriving DecidableEq, Repr

def validateSessionBinding (context : TransactionContext) : SessionValidationResult :=
  if !isSessionOwnedByUser context.sessionId context.userId then
    { score := 0
      riskLevel := .critical
      issues := [js "Session does not belong to user"]
      sessionValid := false }
  else
    let hijacked := detectSessionHijacking context
    let score : Int32 := if hijacked then 100 - 40 else 100
    { score := max 0 score
      riskLevel := if hijacked then .critical else .low
      issues := if hijacked then [js "Potential session hijacking detected"] else []
      sessionValid := decide (score > 50) }

structure ProductIntegrityResult where
  score : Int32
  riskLevel : RiskLevel
  issues : List JString
  productHashes : List (JString × JString)
  allProductsValid : Bool
  deriving DecidableEq, Repr

/-- The variables of a component check that runs over the items. -/
structure ItemFindings where
  score : Int32
  riskLevel : RiskLevel
  issues : List JString
  deriving DecidableEq, Repr

def ItemFindings.initial : ItemFindings := ⟨100, .low, []⟩

/-- An item with its position, which indexes the catalog's answers. -/
abbrev ItemEntry := TransactionContext.OrderItem × ℕ

/-- The loop body of the two item checks: a suspect item costs 40 points. -/
def penalizeWhere (suspect : ItemEntry → Bool) (issue : ItemEntry → JString)
    (findings : ItemFindings) (entry : ItemEntry) : ItemFindings :=
  if suspect entry then
    ⟨findings.score - 40, .high, findings.issues ++ [issue entry]⟩
  else findings

/-- The catalog's product no longer has the hash the order was built with. -/
def isTampered (sha256 : Bytes → Bytes) (answer : CatalogAnswer)
    (item : TransactionContext.OrderItem) : Bool :=
  let currentHash := generateProductHash sha256 item.productId answer
  currentHash.isEmpty || item.productHash != some currentHash

def checkIntegrity (sha256 : Bytes → Bytes) (answers : ℕ → CatalogAnswer) :
    ItemFindings → ItemEntry → ItemFindings :=
  penalizeWhere (fun entry => isTampered sha256 (answers entry.2) entry.1) fun entry =>
    js "Product ID " ++ intText entry.1.productId ++
      js " integrity check failed (Tampering detected)"

/-- `HashMap.put` on a map kept as its list of entries. -/
def putEntry (entries : List (JString × JString)) (key value : JString) :
    List (JString × JString) :=
  entries.filter (fun entry => entry.1 != key) ++ [(key, value)]

def validateProductIntegrity (sha256 : Bytes → Bytes) (answers : ℕ → CatalogAnswer)
    (context : TransactionContext) : ProductIntegrityResult :=
  let findings := context.orderItems.zipIdx.foldl (checkIntegrity sha256 answers) .initial
  { score := max 0 findings.score
    riskLevel := findings.riskLevel
    issues := findings.issues
    productHashes := context.orderItems.zipIdx.foldl (fun entries entry =>
      putEntry entries (intText entry.1.productId)
        (generateProductHash sha256 entry.1.productId (answers entry.2))) []
    allProductsValid := findings.issues.isEmpty }

structure PriceValidationResult where
  score : Int32
  riskLevel : RiskLevel
  issues : List JString
  calculatedTotal : BigDecimal
  clientTotal : BigDecimal
  priceAccurate : Bool
  deriving DecidableEq, Repr

/-- `BigDecimal.equals`, so 10 and 10.0 are a mismatch. -/
def isMispriced (answer : CatalogAnswer) (item : TransactionContext.OrderItem) : Bool :=
  item.price != some (getCurrentPrice answer)

def checkPrice (answers : ℕ → CatalogAnswer) : ItemFindings → ItemEntry → ItemFindings :=
  penalizeWhere (fun entry => isMispriced (answers entry.2) entry.1) fun entry =>
    js "Price mismatch for product ID " ++ intText entry.1.productId ++
      js ": expected " ++ (getCurrentPrice (answers entry.2)).toText ++
      js ", got " ++ orNull (entry.1.price.map BigDecimal.toText)

def addItemTotal (answers : ℕ → CatalogAnswer) (total : BigDecimal) (entry : ItemEntry) :
    BigDecimal :=
  total.add ((getCurrentPrice (answers entry.2)).multiply
    (BigDecimal.ofInt entry.1.quantity.toInt))

def validatePriceAccuracy (answers : ℕ → CatalogAnswer) (context : TransactionContext) :
    PriceValidationResult :=
  let findings := context.orderItems.zipIdx.foldl (checkPrice answers) .initial
  let calculatedTotal := context.orderItems.zipIdx.foldl (addItemTotal answers) BigDecimal.zero
  let clientTotal := context.totalAmount
  let tolerance : BigDecimal := ⟨100, 2⟩
  let manipulated := (calculatedTotal.subtract clientTotal).abs.compareTo tolerance == .gt
  let issues :=
    if manipulated then
      findings.issues ++ [js "Total amount manipulation detected: expected " ++
        calculatedTotal.toText ++ js ", got " ++ clientTotal.toText]
    else findings.issues
  { score := if manipulated then 0 else findings.score
    riskLevel := if manipulated then .critical else findings.riskLevel
    issues := issues
    calculatedTotal := calculatedTotal
    clientTotal := clientTotal
    priceAccurate := issues.isEmpty }

structure TransactionStatusResult where
  score : Int32
  riskLevel : RiskLevel
  issues : List JString
  transactionValid : Bool
  deriving DecidableEq, Repr

def validateTransactionStatus (context : TransactionContext) : TransactionStatusResult :=
  let duplicate := isDuplicateTransaction context
  let score : Int32 := if duplicate then 100 - 40 else 100
  { score := max 0 score
    riskLevel := if duplicate then .high else .low
    issues := if duplicate then [js "Duplicate transaction detected"] else []
    transactionValid := decide (score > 70) }

structure FraudAnalysisResult where
  score : Int32
  riskLevel : RiskLevel
  fraudIndicators : List JString
  recommendsManualReview : Bool
  deriving DecidableEq, Repr

def isHighValue (context : TransactionContext) : Bool :=
  context.totalAmount.compareTo HIGH_VALUE_THRESHOLD == .gt

def performFraudAnalysis (context : TransactionContext) : FraudAnalysisResult :=
  let highValue := isHighValue context
  let velocity := decide (getRecentOrderCount context.userId 24 > SUSPICIOUS_ORDER_COUNT)
  let score : Int32 := 100 - (if highValue then 15 else 0) - (if velocity then 30 else 0)
  { score := max 0 score
    riskLevel := if velocity then .high else .low
    fraudIndicators :=
      (if highValue then [js "High-value transaction"] else []) ++
      (if velocity then [js "Unusual order velocity"] else [])
    recommendsManualReview := decide (score < 60) }

/-- `TransactionRisk` after the six checks. -/
structure TransactionRisk where
  userVerificationScore : Int32
  sessionValidityScore : Int32
  productIntegrityScore : Int32
  priceAccuracyScore : Int32
  transactionStatusScore : Int32
  fraudScore : Int32
  riskFactors : List (JString × JString)
  deriving DecidableEq, Repr

/-- The weighted sum of the six scores, before rounding. -/
def weightedScore (risk : TransactionRisk) : ℚ :=
  risk.userVerificationScore.toInt * (25 / 100) +
  risk.sessionValidityScore.toInt * (15 / 100) +
  risk.productIntegrityScore.toInt * (20 / 100) +
  risk.priceAccuracyScore.toInt * (25 / 100) +
  risk.transactionStatusScore.toInt * (10 / 100) +
  risk.fraudScore.toInt * (5 / 100)

/-- `Math.round` rounds half up. -/
def calculateOverallRiskScore (risk : TransactionRisk) : ℤ :=
  ⌊weightedScore risk + 1 / 2⌋

def generateRecommendedActions (risk : TransactionRisk) : List JString :=
  (if risk.userVerificationScore < 70 then [js "Require additional user verification"]
    else []) ++
  (if risk.priceAccuracyScore < 80 then [js "Manual price verification required"] else []) ++
  (if risk.fraudScore < 60 then [js "Enhanced fraud monitoring recommended"] else [])

/-- The row of the score table that `overallScore` falls into. -/
def scoreBand (overallScore : ℤ) : RiskLevel × SecurityAction × JString :=
  if 80 ≤ overallScore then
    (.low, .approve, js "Transaction meets all security criteria")
  else if 60 ≤ overallScore then
    (.medium, .approveWithMonitoring, js "Transaction approved with enhanced monitoring")
  else if 40 ≤ overallScore then
    (.high, .requireAdditionalAuth, js "Additional authentication required")
  else if 20 ≤ overallScore then
    (.critical, .flagForReview, js "Transaction flagged for manual review")
  else (.critical, .block, js "Transaction blocked due to high risk")

def makeSecurityDecision (risk : TransactionRisk) (overallScore : ℤ)
    (context : TransactionContext) : RiskDecision :=
  let band := scoreBand overallScore
  let override := isHighValue context && decide (overallScore < 90)
  { riskLevel := band.1
    action := if override then .requireAdditionalAuth else band.2.1
    overallScore := overallScore
    reason := if override then js "High-value transaction requires additional verification"
      else band.2.2
    riskFactors := risk.riskFactors
    recommendedActions := generateRecommendedActions risk
    blockingReason := none }

/-- The scores and risk factors `validateTransaction` collects. -/
def assess (sha256 : Bytes → Bytes) (lookups : CatalogLookups)
    (context : TransactionContext) : TransactionRisk :=
  let userVerification := verifyUserIdentity context
  let sessionValidation := validateSessionBinding context
  let productIntegrity := validateProductIntegrity sha256 lookups.integrity context
  let priceValidation := validatePriceAccuracy lookups.price context
  let statusCheck := validateTransactionStatus context
  let fraudAnalysis := performFraudAnalysis context
  { userVerificationScore := userVerification.score
    sessionValidityScore := sessionValidation.score
    productIntegrityScore := productIntegrity.score
    priceAccuracyScore := priceValidation.score
    transactionStatusScore := statusCheck.score
    fraudScore := fraudAnalysis.score
    riskFactors :=
      [(js "user_identity", userVerification.riskLevel.name),
        (js "session_binding", sessionValidation.riskLevel.name),
        (js "product_integrity", productIntegrity.riskLevel.name),
        (js "price_accuracy", priceValidation.riskLevel.name),
        (js "transaction_status", statusCheck.riskLevel.name),
        (js "fraud_detection", fraudAnalysis.riskLevel.name)] }

def validateTransaction (sha256 : Bytes → Bytes) (lookups : CatalogLookups)
    (context : TransactionContext) : RiskDecision :=
  let risk := assess sha256 lookups context
  makeSecurityDecision risk (calculateOverallRiskScore risk) context

end TransactionSecurityService

end ShoppingWeb.Shared
