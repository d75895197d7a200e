import ShoppingWeb.Cart.CartContents
import ShoppingWeb.Checkout.ConfirmPayment
import ShoppingWeb.Lib.Binary64
import ShoppingWeb.Order.OrderIsolation
import ShoppingWeb.Payment.HmacVerificationFilter
import ShoppingWeb.Payment.PaidOrders

/-!
# The checkout page

`confirmPayment`: push the local cart item by item to the cart service, sign
and send the order, send the payment.  The page looks at the status of the
answer to the order only; a request that gets no answer at all throws, and the
page goes back to idle.  Its total is a sum of JavaScript numbers.
-/

namespace ShoppingWeb.Checkout

open ShoppingWeb.Utf16
open ShoppingWeb.Binary64
open ShoppingWeb.DecimalText
open ShoppingWeb.Shared
open ShoppingWeb.CartService
open ShoppingWeb.OrderService
open ShoppingWeb.PaymentService
open ShoppingWeb.PaymentFilter
open ShoppingWeb.OrderIsolation (ItemsBelong itemsBelong_createOrder postOrder_state)
open ShoppingWeb.Program

/-- An item of `vault_cart`. -/
structure LocalItem where
  id : ℤ
  price : BigDecimal
  quantity : ℤ
  deriving DecidableEq, Repr

inductive PageStatus where
  | idle
  | processing
  | success
  deriving DecidableEq, Repr

structure CheckoutPage where
  cartItems : List LocalItem
  total : Number
  phone : JString
  address : JString
  status : PageStatus

/-- The sum the page computes when it loads the cart, rounded at every step. -/
def totalOf (cartItems : List LocalItem) : Number :=
  cartItems.foldl (fun sum item =>
    add sum (multiply (nearest item.price.toRat) (nearest item.quantity))) (some 0)

def CheckoutPage.load (cartItems : List LocalItem) (phone address : JString) : CheckoutPage :=
  ⟨cartItems, totalOf cartItems, phone, address, .idle⟩

/-- The amount in the address of the QR code. -/
def CheckoutPage.qrAmount (page : CheckoutPage) : Option ℚ := page.total.map shortestDecimal

/-- The amount on the screen, which shows no fractions of a đồng. -/
def CheckoutPage.shownAmount (page : CheckoutPage) : Option ℤ := page.qrAmount.map wholePart

/-- The page and the services behind the gateway. -/
structure CheckoutWorld where
  page : CheckoutPage
  services : PaidOrders.World

namespace CheckoutWorld

def setStatus (world : CheckoutWorld) (status : PageStatus) : CheckoutWorld :=
  { world with page := { world.page with status } }

def withShop (world : CheckoutWorld) (shop : ShopState) : CheckoutWorld :=
  { world with services := world.services.withShop shop }

end CheckoutWorld

/-- A rejected promise. -/
inductive Rejection where
  | rejected
  deriving DecidableEq, Repr

abbrev Page := Program CheckoutWorld Rejection

/-- How a `fetch` ends: with the service's own answer, with an error status,
or not at all.  In the last two cases the service may have done its work. -/
inductive FetchOutcome where
  | answered
  | errorStatus (handled : Bool)
  | rejected (handled : Bool)
  deriving DecidableEq, Repr

def FetchOutcome.isHandled : FetchOutcome → Bool
  | .answered => true
  | .errorStatus handled => handled
  | .rejected handled => handled

def FetchOutcome.isRejected : FetchOutcome → Bool
  | .rejected _ => true
  | _ => false

/-- The answer of the service, if it is what arrives. -/
def fetch {Answer : Type} (outcome : FetchOutcome)
    (service : CheckoutWorld → Answer × CheckoutWorld) : Page (Option Answer) := do
  let world ← get
  let answer := service world
  if outcome.isHandled then set answer.2
  match outcome with
  | .answered => pure (some answer.1)
  | .errorStatus _ => pure none
  | .rejected _ => throw .rejected

def fitsLong (value : ℤ) : Bool := decide (-2 ^ 63 ≤ value ∧ value < 2 ^ 63)

def fitsInteger (value : ℤ) : Bool := decide (-2 ^ 31 ≤ value ∧ value < 2 ^ 31)

/-- `Long.valueOf` and `Integer.valueOf` accept the two numbers. -/
def LocalItem.isReadable (item : LocalItem) : Bool :=
  fitsLong item.id && fitsInteger item.quantity

/-- `POST /api/cart/items` -/
def addItem (subject : JString) (item : LocalItem) (cartStore : CartStore) : CartStore :=
  if item.isReadable then
    cartStore.addItemToCart subject item.id (Int32.ofInt item.quantity)
  else cartStore

def addItemService (subject : JString) (item : LocalItem) (world : CheckoutWorld) :
    PUnit × CheckoutWorld :=
  let shop := world.services.shop
  (⟨⟩, world.withShop { shop with cartStore := addItem subject item shop.cartStore })

/-- The configuration of the services. -/
structure Backend where
  order : OrderConfiguration
  reader : AmountReader
  paymentSecret : JString

/-- What the outside world decides while a payment is processed. -/
structure PaymentEnvironment where
  currentTime : Int64
  ipAddress : Option JString
  userAgent : Option JString
  fetchOrder : Delivery
  vault : Option (JString → Option JString)
  iv : Bytes
  transactionSaveFails : Bool
  auditSaveFails : Bool
  updateStatus : Delivery
  commitFails : Bool

/-- The steps of `processPayment` in order, each if the call got that far. -/
def processPayment (backend : Backend) (environment : PaymentEnvironment)
    (request : PaymentRequest) (services : PaidOrders.World) : PaidOrders.World :=
  let position := services.calls.length
  let steps : List PaidOrders.Event :=
    [.fetchOrder environment.fetchOrder request,
      .saveTransaction position environment.vault environment.iv environment.transactionSaveFails,
      .saveAuditLog position environment.auditSaveFails,
      .updateStatus position environment.updateStatus,
      .commit position environment.commitFails]
  steps.foldl (fun services event =>
    (PaidOrders.step backend.order backend.reader services event).getD services) services

/-- `POST /api/payments`: the filter, and what it lets through. -/
def postPayment (backend : Backend) (environment : PaymentEnvironment) (request : HttpRequest)
    (payment : PaymentRequest) (world : CheckoutWorld) : FilterResult × CheckoutWorld :=
  match doFilterInternal backend.order.crypto backend.paymentSecret environment.currentTime
      request with
  | .forwarded =>
      (.forwarded,
        { world with services := processPayment backend environment payment world.services })
  | refused => (refused, world)

/-! ## An attempt -/

/-- What is decided outside the page during one run of `confirmPayment`.  The
key pair and the signature are `none` when the browser refuses to make them. -/
structure Attempt where
  token : Option Jwt
  addItemFetch : ℕ → FetchOutcome
  crypto : Option WebCrypto
  timestamp : JString
  orderFetch : FetchOutcome
  java : JavaSecurity
  environment : CreateOrderEnvironment
  client : ClientInfo
  paymentFetch : FetchOutcome
  paymentTime : JString
  paymentEnvironment : PaymentEnvironment

/-- The payment request as the browser sends it, without signature headers. -/
def paymentHttpRequest (orderId : ℤ) (paymentToken : JString) : HttpRequest where
  method := js "POST"
  requestUri := js "/api/payments"
  xSignature := none
  xTimestamp := none
  body := textEncode (js "\x7b\"orderId\":" ++ intText orderId ++ js ",\"paymentToken\":\"" ++
    paymentToken ++ js "\",\"paymentMethod\":\"VIETQR\"\x7d")

def paymentRequestOf (jwt : Jwt) (orderId : ℤ) (paymentToken : JString)
    (environment : PaymentEnvironment) : PaymentRequest where
  orderId
  paymentToken
  caller := jwt.subject
  hmacSignature := none
  ipAddress := environment.ipAddress
  userAgent := environment.userAgent

section Attempt

variable (backend : Backend) (attempt : Attempt) (jwt : Jwt)

def pushItem (entry : LocalItem × ℕ) : Page PUnit := do
  let _ ← fetch (attempt.addItemFetch entry.2) (addItemService jwt.subject entry.1)

def requireCrypto : Page WebCrypto :=
  match attempt.crypto with
  | none => throw .rejected
  | some browser => pure browser

def ordersService (payload : OrderPayload) (world : CheckoutWorld) :
    OrderResponse × CheckoutWorld :=
  let answer := postOrder backend.order attempt.java attempt.environment jwt payload
    attempt.client world.services.shop
  (answer.1, world.withShop answer.2)

def sendOrder (payload : OrderPayload) : Page (Option OrderResponse) :=
  fetch attempt.orderFetch (ordersService backend attempt jwt payload)

def sendPayment (orderId : ℤ) : Page (Option FilterResult) :=
  let paymentToken := js "VIETQR_" ++ attempt.paymentTime
  fetch attempt.paymentFetch (postPayment backend attempt.paymentEnvironment
    (paymentHttpRequest orderId paymentToken)
    (paymentRequestOf jwt orderId paymentToken attempt.paymentEnvironment))

/-- The page after the answer to the order: `res.ok` or not. -/
def finishCheckout (response : Option OrderResponse) : Page (Option ℤ) :=
  match response with
  | some (.created orderId _ _ _) => do
      let _ ← sendPayment backend attempt jwt orderId
      modify fun world =>
        { world with page := { world.page with cartItems := [], status := .success } }
      pure (some orderId)
  | _ => do
      modify fun world => world.setStatus .idle
      pure none

/-- The body of the `try` block.  It returns the id of the order it has
announced as successful. -/
def checkout (page : CheckoutPage) : Page (Option ℤ) := do
  each (pushItem attempt jwt) page.cartItems.zipIdx
  let browser ← requireCrypto attempt
  let response ← sendOrder backend attempt jwt
    (confirmPaymentPayload browser page.address page.phone attempt.timestamp)
  finishCheckout backend attempt jwt response

/-- `confirmPayment`, with the id of the order it has announced as successful. -/
def confirmPayment (world : CheckoutWorld) : Option ℤ × CheckoutWorld :=
  let processing := world.setStatus .processing
  match attempt.token with
  | none => (none, processing)
  | some jwt =>
      match exec (checkout backend attempt jwt world.page) processing with
      | (.ok orderId, final) => (orderId, final)
      | (.error _, final) => (none, final.setStatus .idle)

end Attempt

theorem exec_fetch {Answer : Type} (outcome : FetchOutcome)
    (service : CheckoutWorld → Answer × CheckoutWorld) (world : CheckoutWorld) :
    exec (fetch outcome service) world =
      (match outcome with
        | .answered => .ok (some (service world).1)
        | .errorStatus _ => .ok none
        | .rejected _ => .error .rejected,
      if outcome.isHandled then (service world).2 else world) := by
  cases outcome with
  | answered => rfl
  | errorStatus handled => cases handled <;> rfl
  | rejected handled => cases handled <;> rfl

/-- A `fetch` that does not throw. -/
theorem exec_fetch_ok {Answer : Type} {outcome : FetchOutcome}
    {service : CheckoutWorld → Answer × CheckoutWorld} {world final : CheckoutWorld}
    {answer : Option Answer} :
    exec (fetch outcome service) world = (.ok answer, final) ↔
      outcome.isRejected = false ∧
        (if outcome = .answered then some (service world).1 else none) = answer ∧
        (if outcome.isHandled then (service world).2 else world) = final := by
  rw [exec_fetch]
  cases outcome with
  | answered => simp [FetchOutcome.isRejected]
  | errorStatus handled => simp [FetchOutcome.isRejected]
  | rejected handled => simp [FetchOutcome.isRejected]

section Spec

variable {backend : Backend} {attempt : Attempt} {jwt : Jwt}

/-- The cart after the additions that reach the cart service. -/
def pushAll (attempt : Attempt) (subject : JString) (entries : List (LocalItem × ℕ))
    (cartStore : CartStore) : CartStore :=
  entries.foldl (fun cartStore entry =>
    if (attempt.addItemFetch entry.2).isHandled then addItem subject entry.1 cartStore
    else cartStore) cartStore

def CheckoutWorld.withCarts (world : CheckoutWorld) (cartStore : CartStore) : CheckoutWorld :=
  world.withShop { world.services.shop with cartStore }

theorem exec_pushItem_ok {entry : LocalItem × ℕ} {world final : CheckoutWorld} {done : PUnit} :
    exec (pushItem attempt jwt entry) world = (.ok done, final) ↔
      (attempt.addItemFetch entry.2).isRejected = false ∧
        world.withCarts (pushAll attempt jwt.subject [entry] world.services.shop.cartStore) =
          final := by
  simp only [pushItem, exec_bind_ok, exec_fetch_ok, exec_pure, Prod.mk.injEq]
  constructor
  · rintro ⟨answer, middle, ⟨hfetch, -, rfl⟩, -, rfl⟩
    refine ⟨hfetch, ?_⟩
    simp only [pushAll, List.foldl_cons, List.foldl_nil]
    split
    · rfl
    · rfl
  · rintro ⟨hfetch, rfl⟩
    refine ⟨_, _, ⟨hfetch, rfl, rfl⟩, trivial, ?_⟩
    simp only [pushAll, List.foldl_cons, List.foldl_nil]
    split
    · rfl
    · rfl

/-- The loop over the cart gets to its end when no request is rejected. -/
theorem exec_pushItems_ok {entries : List (LocalItem × ℕ)} {world final : CheckoutWorld}
    {done : PUnit} :
    exec (each (pushItem attempt jwt) entries) world = (.ok done, final) ↔
      (∀ entry ∈ entries, (attempt.addItemFetch entry.2).isRejected = false) ∧
        world.withCarts (pushAll attempt jwt.subject entries world.services.shop.cartStore) =
          final := by
  induction entries generalizing world with
  | nil => simp [each, pushAll, CheckoutWorld.withCarts, CheckoutWorld.withShop,
      PaidOrders.World.withShop]
  | cons entry entries ih =>
      simp only [each, exec_bind_ok, exec_pushItem_ok, ih, List.forall_mem_cons]
      constructor
      · rintro ⟨_, middle, ⟨hfirst, rfl⟩, hrest, rfl⟩
        exact ⟨⟨hfirst, hrest⟩, rfl⟩
      · rintro ⟨⟨hfirst, hrest⟩, rfl⟩
        exact ⟨⟨⟩, _, ⟨hfirst, rfl⟩, hrest, rfl⟩

/-- The shop when the order is sent: the cart has been pushed. -/
def shopAtOrder (attempt : Attempt) (jwt : Jwt) (world : CheckoutWorld) : ShopState :=
  { world.services.shop with
    cartStore := pushAll attempt jwt.subject world.page.cartItems.zipIdx
      world.services.shop.cartStore }

/-- The order request of the attempt, as the order service answers it. -/
def orderAnswer (backend : Backend) (attempt : Attempt) (jwt : Jwt) (browser : WebCrypto)
    (world : CheckoutWorld) : OrderResponse × ShopState :=
  postOrder backend.order attempt.java attempt.environment jwt
    (confirmPaymentPayload browser world.page.address world.page.phone attempt.timestamp)
    attempt.client (shopAtOrder attempt jwt world)

/-- No request of the attempt goes unanswered, and the answer to the order
that arrives is that it has been created. -/
structure Completes (backend : Backend) (attempt : Attempt) (jwt : Jwt) (browser : WebCrypto)
    (world : CheckoutWorld) (orderId : ℤ) : Prop where
  token : attempt.token = some jwt
  crypto : attempt.crypto = some browser
  items : ∀ entry ∈ world.page.cartItems.zipIdx,
    (attempt.addItemFetch entry.2).isRejected = false
  orderFetch : attempt.orderFetch = .answered
  created : createdId (orderAnswer backend attempt jwt browser world).1 = some orderId
  paymentFetch : attempt.paymentFetch.isRejected = false

theorem requireCrypto_ok {world final : CheckoutWorld} {browser : WebCrypto} :
    exec (requireCrypto attempt) world = (.ok browser, final) ↔
      attempt.crypto = some browser ∧ world = final := by
  rw [requireCrypto]
  cases attempt.crypto with
  | none => simp
  | some found => simp

/-- The world after an attempt that completes. -/
def completed (backend : Backend) (attempt : Attempt) (jwt : Jwt) (browser : WebCrypto)
    (orderId : ℤ) (world : CheckoutWorld) : CheckoutWorld :=
  let ordered := (world.setStatus .processing).withShop
    (orderAnswer backend attempt jwt browser world).2
  let paymentToken := js "VIETQR_" ++ attempt.paymentTime
  let paid :=
    if attempt.paymentFetch.isHandled then
      (postPayment backend attempt.paymentEnvironment (paymentHttpRequest orderId paymentToken)
        (paymentRequestOf jwt orderId paymentToken attempt.paymentEnvironment) ordered).2
    else ordered
  { paid with page := { paid.page with cartItems := [], status := .success } }

theorem createdId_eq_some_iff {response : OrderResponse} {orderId : ℤ} :
    createdId response = some orderId ↔
      ∃ trackingNumber totalAmount status,
        response = .created orderId trackingNumber totalAmount status := by
  cases response with
  | created id trackingNumber totalAmount status => simp [createdId]
  | _ => simp [createdId]

/-- The end of an attempt announces an order when the answer does. -/
theorem exec_finishCheckout_some_iff {response : Option OrderResponse}
    {world final : CheckoutWorld} {orderId : ℤ} :
    exec (finishCheckout backend attempt jwt response) world = (.ok (some orderId), final) ↔
      response.bind createdId = some orderId ∧
        ∃ answer middle,
          exec (sendPayment backend attempt jwt orderId) world = (.ok answer, middle) ∧
            { middle with page := { middle.page with cartItems := [], status := .success } } =
              final := by
  rw [finishCheckout.eq_def]
  split
  · rename_i announced trackingNumber totalAmount status
    simp only [exec_bind_ok, exec_modify, exec_pure, Prod.mk.injEq, Except.ok.injEq,
      Option.some.injEq, Option.bind_some, createdId]
    constructor
    · rintro ⟨answer, middle, hpayment, _, _, ⟨-, rfl⟩, rfl, rfl⟩
      exact ⟨rfl, answer, middle, hpayment, rfl⟩
    · rintro ⟨rfl, answer, middle, hpayment, rfl⟩
      exact ⟨answer, middle, hpayment, ⟨⟩, _, ⟨trivial, rfl⟩, rfl, rfl⟩
  · rename_i hother
    constructor
    · intro hexec
      simp only [exec_bind_ok, exec_modify, exec_pure, Prod.mk.injEq, Except.ok.injEq,
        reduceCtorEq, false_and, and_false, exists_false] at hexec
    · rintro ⟨hcreated, -⟩
      obtain ⟨answer, hanswer, hid⟩ := Option.bind_eq_some_iff.mp hcreated
      obtain ⟨trackingNumber, totalAmount, status, rfl⟩ := createdId_eq_some_iff.mp hid
      exact absurd hanswer (hother orderId trackingNumber totalAmount status)

theorem exec_checkout_some_iff {world final : CheckoutWorld} {orderId : ℤ}
    (htoken : attempt.token = some jwt) :
    exec (checkout backend attempt jwt world.page) (world.setStatus .processing) =
        (.ok (some orderId), final) ↔
      ∃ browser, Completes backend attempt jwt browser world orderId ∧
        completed backend attempt jwt browser orderId world = final := by
  constructor
  · intro hexec
    obtain ⟨_, _, hpushed, hexec⟩ := exec_bind_ok.mp hexec
    obtain ⟨hitems, rfl⟩ := exec_pushItems_ok.mp hpushed
    obtain ⟨browser, _, hrequired, hexec⟩ := exec_bind_ok.mp hexec
    obtain ⟨hcrypto, rfl⟩ := requireCrypto_ok.mp hrequired
    obtain ⟨response, _, hsent, hexec⟩ := exec_bind_ok.mp hexec
    obtain ⟨-, hresponse, rfl⟩ := exec_fetch_ok.mp hsent
    obtain ⟨hcreated, answer, _, hpaid, rfl⟩ := exec_finishCheckout_some_iff.mp hexec
    obtain ⟨hpaymentFetch, -, rfl⟩ := exec_fetch_ok.mp hpaid
    have horderFetch : attempt.orderFetch = .answered := by
      by_contra hother
      rw [if_neg hother] at hresponse
      rw [← hresponse] at hcreated
      cases hcreated
    rw [if_pos horderFetch] at hresponse
    refine ⟨browser, ⟨htoken, hcrypto, hitems, horderFetch, ?_, hpaymentFetch⟩, ?_⟩
    · rw [← hresponse] at hcreated
      exact hcreated
    · simp only [horderFetch]
      rfl
  · rintro ⟨browser, hcompletes, rfl⟩
    apply exec_bind_ok.mpr
    refine ⟨⟨⟩, _, exec_pushItems_ok.mpr ⟨hcompletes.items, rfl⟩, exec_bind_ok.mpr ?_⟩
    refine ⟨browser, _, requireCrypto_ok.mpr ⟨hcompletes.crypto, rfl⟩, exec_bind_ok.mpr ?_⟩
    refine ⟨_, _, exec_fetch_ok.mpr ⟨by rw [hcompletes.orderFetch]; rfl, rfl, rfl⟩,
      exec_finishCheckout_some_iff.mpr ?_⟩
    rw [if_pos hcompletes.orderFetch]
    refine ⟨hcompletes.created, _, _, exec_fetch_ok.mpr ⟨hcompletes.paymentFetch, rfl, rfl⟩, ?_⟩
    simp only [hcompletes.orderFetch]
    rfl

/-- An attempt announces an order exactly when it completes. -/
theorem confirmPayment_eq_some_iff {world final : CheckoutWorld} {orderId : ℤ} :
    confirmPayment backend attempt world = (some orderId, final) ↔
      ∃ jwt browser, Completes backend attempt jwt browser world orderId ∧
        completed backend attempt jwt browser orderId world = final := by
  rw [confirmPayment]
  cases htoken : attempt.token with
  | none =>
      constructor
      · intro hfinal
        cases hfinal
      · rintro ⟨jwt, browser, hcompletes, -⟩
        exact absurd (htoken.symm.trans hcompletes.token) (by simp)
  | some jwt =>
      simp only
      constructor
      · intro hfinal
        split at hfinal
        · rename_i announced after hexec
          cases hfinal
          obtain ⟨browser, hcompletes, hworld⟩ := (exec_checkout_some_iff htoken).mp hexec
          exact ⟨jwt, browser, hcompletes, hworld⟩
        · cases hfinal
      · rintro ⟨other, browser, hcompletes, hworld⟩
        obtain rfl : jwt = other := Option.some.inj (htoken.symm.trans hcompletes.token)
        rw [(exec_checkout_some_iff htoken).mpr ⟨browser, hcompletes, hworld⟩]

end Spec

/-! ## What an attempt leaves -/

/-- Items stay with their orders, order ids are given out upwards, and the
committed payments are the same. -/
structure Continues (before after : CheckoutWorld) : Prop where
  itemsBelong : ItemsBelong before.services.shop.tables → ItemsBelong after.services.shop.tables
  nextKey_le : before.services.shop.tables.orders.nextKey ≤
    after.services.shop.tables.orders.nextKey
  transactions_eq : after.services.payments.transactions = before.services.payments.transactions

theorem Continues.refl (world : CheckoutWorld) : Continues world world := ⟨id, le_rfl, rfl⟩

theorem Continues.trans {first second third : CheckoutWorld} (hfirst : Continues first second)
    (hsecond : Continues second third) : Continues first third :=
  ⟨fun hbelong => hsecond.itemsBelong (hfirst.itemsBelong hbelong),
    hfirst.nextKey_le.trans hsecond.nextKey_le,
    hsecond.transactions_eq.trans hfirst.transactions_eq⟩

section Leaves

variable {backend : Backend} {attempt : Attempt} {jwt : Jwt}

theorem moves_fetch {Answer : Type} {relation : CheckoutWorld → CheckoutWorld → Prop}
    (hrefl : ∀ world, relation world world) {service : CheckoutWorld → Answer × CheckoutWorld}
    (hservice : ∀ world, relation world (service world).2) (outcome : FetchOutcome) :
    Moves relation (fetch outcome service) := by
  intro world
  rw [exec_fetch]
  simp only
  split
  · exact hservice world
  · exact hrefl world

/-- A payment request without signature headers is refused by the filter. -/
theorem postPayment_unsigned (environment : PaymentEnvironment) (orderId : ℤ)
    (paymentToken : JString) (payment : PaymentRequest) (world : CheckoutWorld) :
    postPayment backend environment (paymentHttpRequest orderId paymentToken) payment world =
      (.sendError 401 (js "Missing HMAC Signature or Timestamp"), world) := by
  have hrequired : requiresSignature (paymentHttpRequest orderId paymentToken) = true := by
    have hmethod : isPostIgnoringCase (js "POST") = true := by decide
    have huri : (js "/api/payments").isPrefixOf (js "/api/payments") = true := by decide
    simp [requiresSignature, paymentHttpRequest, hmethod, huri]
  rw [postPayment, doFilterInternal, if_pos hrequired]
  rfl

theorem continues_ordersService (payload : OrderPayload) (world : CheckoutWorld) :
    Continues world (ordersService backend attempt jwt payload world).2 := by
  have hshop := postOrder_state backend.order attempt.java world.services.shop
    attempt.environment jwt payload attempt.client
  constructor
  · intro hbelong
    rcases hshop with hsame | hcreated
    · simp only [ordersService, CheckoutWorld.withShop, PaidOrders.World.withShop, hsame]
      exact hbelong
    · simp only [ordersService, CheckoutWorld.withShop, PaidOrders.World.withShop, hcreated]
      exact itemsBelong_createOrder rfl hbelong
  · rcases hshop with hsame | hcreated
    · simp only [ordersService, CheckoutWorld.withShop, PaidOrders.World.withShop, hsame]
      exact le_rfl
    · simp only [ordersService, CheckoutWorld.withShop, PaidOrders.World.withShop, hcreated]
      exact nextKey_createOrder_le _ _ _ _
  · rfl

theorem continues_confirmPayment (world : CheckoutWorld) :
    Continues world (confirmPayment backend attempt world).2 := by
  have hstatus : ∀ (world : CheckoutWorld) (page : CheckoutPage),
      Continues world { world with page } := fun _ _ => ⟨id, le_rfl, rfl⟩
  have hpush (subject : JString) (item : LocalItem) (world : CheckoutWorld) :
      Continues world (addItemService subject item world).2 := ⟨id, le_rfl, rfl⟩
  have htrans : ∀ first second third, Continues first second → Continues second third →
      Continues first third := fun _ _ _ => Continues.trans
  have hfinish (jwt : Jwt) (response : Option OrderResponse) :
      Moves Continues (finishCheckout backend attempt jwt response) := by
    rw [finishCheckout.eq_def]
    split
    · apply moves_bind htrans
      · apply moves_fetch Continues.refl
        intro world
        rw [postPayment_unsigned]
        exact Continues.refl world
      · intro _
        exact moves_bind htrans (moves_modify fun _ => hstatus _ _)
          fun _ => moves_pure Continues.refl _
    · exact moves_bind htrans (moves_modify fun _ => hstatus _ _)
        fun _ => moves_pure Continues.refl _
  have hcheckout (jwt : Jwt) (page : CheckoutPage) :
      Moves Continues (checkout backend attempt jwt page) := by
    apply moves_bind htrans
    · apply moves_each Continues.refl htrans
      intro entry
      exact moves_bind htrans (moves_fetch Continues.refl (hpush _ _) _)
        fun _ => moves_pure Continues.refl _
    · intro _
      apply moves_bind htrans
      · rw [requireCrypto]
        split
        · exact moves_throw Continues.refl _
        · exact moves_pure Continues.refl _
      · intro browser
        exact moves_bind htrans (moves_fetch Continues.refl (continues_ordersService _) _)
          (hfinish jwt)
  rw [confirmPayment]
  split
  · exact hstatus _ _
  · rename_i jwt _
    have hmoved := hcheckout jwt world.page (world.setStatus .processing)
    split
    · rename_i hexec
      rw [hexec] at hmoved
      exact (hstatus world _).trans hmoved
    · rename_i hexec
      rw [hexec] at hmoved
      exact ((hstatus world _).trans hmoved).trans (hstatus _ _)

/-- The page shows what it showed, and announces no success. -/
structure SamePage (before after : CheckoutWorld) : Prop where
  page_eq : { after.page with status := before.page.status } = before.page
  noSuccess : before.page.status ≠ .success → after.page.status ≠ .success

theorem SamePage.refl (world : CheckoutWorld) : SamePage world world := ⟨rfl, id⟩

theorem SamePage.trans {first second third : CheckoutWorld} (hfirst : SamePage first second)
    (hsecond : SamePage second third) : SamePage first third := by
  constructor
  · calc
      { third.page with status := first.page.status } =
          { ({ third.page with status := second.page.status } : CheckoutPage) with
            status := first.page.status } := rfl
      _ = first.page := by rw [hsecond.page_eq, hfirst.page_eq]
  · intro hstatus
    exact hsecond.noSuccess (hfirst.noSuccess hstatus)

theorem samePage_setStatus (world : CheckoutWorld) {status : PageStatus}
    (hstatus : status ≠ .success) : SamePage world (world.setStatus status) :=
  ⟨rfl, fun _ => hstatus⟩

theorem page_finishCheckout {response : Option OrderResponse} {world final : CheckoutWorld}
    {outcome : Except Rejection (Option ℤ)}
    (hexec : exec (finishCheckout backend attempt jwt response) world = (outcome, final)) :
    (∃ orderId, outcome = .ok (some orderId)) ∨ SamePage world final := by
  rw [finishCheckout.eq_def] at hexec
  split at hexec
  · rename_i orderId _ _ _
    rcases exec_bind_cases hexec with ⟨error, -, hpayment⟩ | ⟨answer, middle, -, hrest⟩
    · have hmoved : Moves SamePage (sendPayment backend attempt jwt orderId) := by
        apply moves_fetch SamePage.refl
        intro world
        rw [postPayment_unsigned]
        exact SamePage.refl world
      have hsame := hmoved world
      rw [hpayment] at hsame
      exact Or.inr hsame
    · left
      cases hrest
      exact ⟨orderId, rfl⟩
  · cases hexec
    exact Or.inr (samePage_setStatus world PageStatus.noConfusion)

theorem page_checkout {page : CheckoutPage} {world final : CheckoutWorld}
    {outcome : Except Rejection (Option ℤ)}
    (hexec : exec (checkout backend attempt jwt page) world = (outcome, final)) :
    (∃ orderId, outcome = .ok (some orderId)) ∨ SamePage world final := by
  have htrans : ∀ first second third, SamePage first second → SamePage second third →
      SamePage first third := fun _ _ _ => SamePage.trans
  have hpush : Moves SamePage (each (pushItem attempt jwt) page.cartItems.zipIdx) := by
    apply moves_each SamePage.refl htrans
    intro entry
    exact moves_bind htrans (moves_fetch SamePage.refl (fun _ => ⟨rfl, id⟩) _)
      fun _ => moves_pure SamePage.refl _
  have hpushed := hpush world
  rcases exec_bind_cases hexec with ⟨error, -, hitems⟩ | ⟨_, pushed, hitems, hexec⟩
  · rw [hitems] at hpushed
    exact Or.inr hpushed
  rw [hitems] at hpushed
  rcases exec_bind_cases hexec with ⟨error, -, hcrypto⟩ | ⟨browser, _, hcrypto, hexec⟩
  · have hsame : pushed = final := by
      rw [requireCrypto] at hcrypto
      split at hcrypto
      · exact (Prod.mk.inj hcrypto).2
      · cases hcrypto
    exact Or.inr (hsame ▸ hpushed)
  obtain ⟨-, rfl⟩ := requireCrypto_ok.mp hcrypto
  have hsend : Moves SamePage (sendOrder backend attempt jwt
      (confirmPaymentPayload browser page.address page.phone attempt.timestamp)) :=
    moves_fetch SamePage.refl (fun _ => ⟨rfl, id⟩) _
  have hsent := hsend pushed
  rcases exec_bind_cases hexec with ⟨error, -, hresponse⟩ | ⟨response, _, hresponse, hexec⟩
  · rw [hresponse] at hsent
    exact Or.inr (hpushed.trans hsent)
  rw [hresponse] at hsent
  rcases page_finishCheckout hexec with hdone | hsame
  · exact Or.inl hdone
  · exact Or.inr ((hpushed.trans hsent).trans hsame)

/-- An attempt that announces no order leaves the page as it was, without
success. -/
theorem page_confirmPayment_none {world final : CheckoutWorld}
    (hnone : confirmPayment backend attempt world = (none, final)) : SamePage world final := by
  rw [confirmPayment] at hnone
  split at hnone
  · cases hnone
    exact samePage_setStatus world PageStatus.noConfusion
  · split at hnone
    · rename_i announced after hexec
      cases hnone
      rcases page_checkout hexec with ⟨orderId, hok⟩ | hsame
      · cases hok
      · exact (samePage_setStatus world PageStatus.noConfusion).trans hsame
    · rename_i error after hexec
      cases hnone
      rcases page_checkout hexec with ⟨orderId, hok⟩ | hsame
      · cases hok
      · exact ((samePage_setStatus world PageStatus.noConfusion).trans hsame).trans
          (samePage_setStatus after PageStatus.noConfusion)

end Leaves

def plainBackend : Backend := ⟨plainConfiguration, PaidOrders.plainReader, js "secret"⟩

/-- A server that reads the signature as the browser writes it. -/
def rawJava : JavaSecurity where
  PublicKey := Bytes
  generatePublic key := .ok key
  verify _ _ candidate := .ok (candidate == sampleSignature.rawBytes)
  illegalBase64 _ := js "Illegal base64 character"

def plainPaymentEnvironment : PaymentEnvironment where
  currentTime := 1700000000000
  ipAddress := none
  userAgent := none
  fetchOrder := .success
  vault := none
  iv := []
  transactionSaveFails := false
  auditSaveFails := false
  updateStatus := .success
  commitFails := false

def plainAttempt : Attempt where
  token := some OrderIsolation.aliceJwt
  addItemFetch _ := .answered
  crypto := some sampleBrowser
  timestamp := js "1700000000000"
  orderFetch := .answered
  java := rawJava
  environment := smoothEnvironment laptop
  client := OrderIsolation.plainClient
  paymentFetch := .answered
  paymentTime := js "1700000000001"
  paymentEnvironment := plainPaymentEnvironment

def oneLaptop : List LocalItem := [⟨1, ⟨500, 0⟩, 1⟩]

/-- The page of a user with one laptop in the local cart. -/
def laptopPage : CheckoutWorld :=
  ⟨.load oneLaptop (js "0900000000") (js "1 Main Street"), .empty⟩

end ShoppingWeb.Checkout
