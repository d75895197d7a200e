import ShoppingWeb.Order.CreateOrderSpec
import ShoppingWeb.Shared.RiskScore

/-!
# Critical findings and the decision

A critical finding costs points like any other finding, so the weighted score
can outvote it.  It vetoes the transaction exactly when the points lost are
more than the decision tolerates.
-/

namespace ShoppingWeb.OrderService

open ShoppingWeb.Utf16
open ShoppingWeb.Shared
open ShoppingWeb.Shared.TransactionSecurityService
open ShoppingWeb.PaymentSecurityGateway
open Program

/-- `createOrder` builds this context and validates it afresh. -/
def ValidatesAfresh (configuration : OrderConfiguration) (environment : CreateOrderEnvironment)
    (request : CreateOrderRequest) (state : ShopState) (context : TransactionContext) : Prop :=
  ∃ draft, buildItems configuration.crypto environment.product
      (state.cartStore.linesOf request.bearerSubject) = .ok draft ∧
    contextOf environment request draft = context ∧
    validApproval state.gateway environment.clock.checkedAt context = none

/-- A critical finding of a component keeps the transaction from being
approved and the order from being saved. -/
def CriticalFindingVetoes (sha256 : Bytes → Bytes) (lookups : CatalogLookups)
    (context : TransactionContext) : Prop :=
  HasCriticalFinding sha256 lookups context →
    ((validateTransaction sha256 lookups context).action ≠ .approve ∧
      (validateTransaction sha256 lookups context).action ≠ .approveWithMonitoring) ∧
    ∀ (configuration : OrderConfiguration) (environment : CreateOrderEnvironment)
      (request : CreateOrderRequest) (state : ShopState),
      configuration.crypto.sha256 = sha256 → environment.lookups = lookups →
      ValidatesAfresh configuration environment request state context →
      (exec (createOrder configuration environment request) state).2.tables.orders.rows =
        state.tables.orders.rows

theorem isApproved_eq_false_iff (decision : RiskDecision) :
    decision.isApproved = false ↔
      decision.action ≠ .approve ∧ decision.action ≠ .approveWithMonitoring := by
  simp [RiskDecision.isApproved]

variable {configuration : OrderConfiguration} {environment : CreateOrderEnvironment}
  {request : CreateOrderRequest} {state : ShopState} {context : TransactionContext}

/-- A call that cannot get as far as clearing the cart saves nothing. -/
theorem contents_createOrder_of_not_reachesClear
    (hreaches : ∀ placement, ¬ ReachesClear configuration environment request state placement) :
    (exec (createOrder configuration environment request) state).2.tables.contents =
      state.tables.contents := by
  cases hexec : exec (createOrder configuration environment request) state with
  | mk outcome final =>
      cases outcome with
      | ok order =>
          obtain ⟨placement, hreached, -⟩ := exec_createOrder_ok.mp hexec
          exact absurd hreached (hreaches placement)
      | error exception => exact (exec_createOrder_error hexec).1

/-- The gate rejects what a fresh validation does not approve. -/
theorem gateAnswer_rejects
    (hfresh : validApproval state.gateway environment.clock.checkedAt context = none)
    (hrejected : (validateTransaction configuration.crypto.sha256 environment.lookups
      context).isApproved = false) :
    (gateAnswer configuration environment context state.gateway).1.approved = false := by
  rcases validatePaymentTransition_cases configuration.crypto.sha256 environment.lookups
    environment.clock context state.gateway with ⟨approval, hvalid, -⟩ | ⟨-, happroved, -⟩
  · rw [hfresh] at hvalid
    cases hvalid
  · exact happroved.trans hrejected

theorem createOrder_rejected (hfresh : ValidatesAfresh configuration environment request state
      context)
    (hrejected : (validateTransaction configuration.crypto.sha256 environment.lookups
      context).isApproved = false) :
    (exec (createOrder configuration environment request) state).2.tables.orders.rows =
      state.tables.orders.rows := by
  obtain ⟨draft, hbuilt, rfl, hvalid⟩ := hfresh
  refine congrArg Prod.fst (contents_createOrder_of_not_reachesClear fun placement hreaches => ?_)
  obtain ⟨-, -, hplace⟩ := hreaches
  obtain rfl : draft = placement.draft := Except.ok.inj (hbuilt.symm.trans hplace.built)
  have happroved := hplace.approved
  rw [gateAnswer_rejects hvalid hrejected] at happroved
  cases happroved

theorem criticalFindingVetoes_iff (sha256 : Bytes → Bytes) (lookups : CatalogLookups)
    (context : TransactionContext) :
    CriticalFindingVetoes sha256 lookups context ↔
      (CriticalInput lookups context →
        approvedDeduction context < totalDeduction sha256 lookups context) := by
  have happroved := validateTransaction_isApproved_iff sha256 lookups context
  rw [← hasCriticalFinding_iff sha256 lookups context]
  constructor
  · intro hvetoes hcritical
    have hrejected := (isApproved_eq_false_iff _).mpr (hvetoes hcritical).1
    exact not_le.mp fun hle => by simp [happroved.mpr hle] at hrejected
  · intro hdeduction hcritical
    have hrejected : (validateTransaction sha256 lookups context).isApproved = false :=
      Bool.eq_false_iff.mpr fun h => absurd (happroved.mp h) (not_le.mpr (hdeduction hcritical))
    refine ⟨(isApproved_eq_false_iff _).mp hrejected, ?_⟩
    rintro configuration environment request state rfl rfl hfresh
    exact createOrder_rejected hfresh hrejected

def cheapLaptopLookups : CatalogLookups :=
  ⟨fun _ => .product (some (js "Laptop")) (some ⟨900000, 0⟩),
    fun _ => .product (some (js "Laptop")) (some ⟨900000, 0⟩)⟩

/-- A laptop of 900000 VND with its true price, in an order for 1 VND. -/
def cheapLaptop : TransactionContext where
  orderId := some 1
  userId := some (js "mallory")
  sessionId := some (js "session-1")
  totalAmount := ⟨1, 0⟩
  currency := some (js "VND")
  timestamp := 0
  deviceFingerprint := some (js "Mozilla/5.0")
  ipAddress := some (js "203.0.113.7")
  orderItems :=
    [⟨7, some (js "Laptop"), some ⟨900000, 0⟩, 1,
      some (productDigest (fun message => message) 7 (js "Laptop") ⟨900000, 0⟩)⟩]
  shippingDetails := none

/-- The manipulated total is a critical finding, and the order is approved. -/
theorem cheapLaptop_approved :
    ¬ CriticalFindingVetoes (fun message => message) cheapLaptopLookups cheapLaptop := by
  intro hvetoes
  have hcritical : HasCriticalFinding (fun message => message) cheapLaptopLookups cheapLaptop :=
    Or.inr (Or.inr (Or.inr (Or.inl (by decide +kernel))))
  exact (hvetoes hcritical).1.2 (by decide +kernel)

end ShoppingWeb.OrderService
