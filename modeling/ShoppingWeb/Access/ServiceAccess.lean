import ShoppingWeb.Access.CatalogAccess

/-!
# Who reaches the handlers of all services

The other services ask for an authenticated caller and for nothing more.
-/

namespace ShoppingWeb.Access

open ShoppingWeb.Utf16
open ShoppingWeb.AccessRules

/-- `SecurityConfig.filterChain` of the cart service and of the order service -/
def cartRules : List (AccessRule Target Caller) :=
  [requestMatchers (some .OPTIONS) ["/**"] .permitAll,
    requestMatchers none ["/actuator/health"] .permitAll,
    anyRequest .authenticated]

def orderRules : List (AccessRule Target Caller) := cartRules

def paymentRules : List (AccessRule Target Caller) :=
  [requestMatchers (some .OPTIONS) ["/**"] .permitAll, anyRequest .authenticated]

inductive CartHandler where
  | getCart
  | addItem
  | updateItem (itemId : JString)
  | removeItem (itemId : JString)
  | clearCart
  deriving DecidableEq, Repr

def cartMappings : List (Mapping CartHandler) :=
  [plainMapping .GET "/api/cart" .getCart,
    plainMapping .POST "/api/cart/items" .addItem,
    variableMapping .PUT "/api/cart/items" .updateItem,
    variableMapping .DELETE "/api/cart/items" .removeItem,
    plainMapping .DELETE "/api/cart" .clearCart]

inductive OrderHandler where
  | createOrder
  | getOrders
  | getAllOrders
  | getOrder (id : JString)
  | updateOrderStatus (id : JString)
  deriving DecidableEq, Repr

def orderMappings : List (Mapping OrderHandler) :=
  [plainMapping .POST "/api/orders" .createOrder,
    plainMapping .GET "/api/orders" .getOrders,
    plainMapping .GET "/api/orders/all" .getAllOrders,
    variableMapping .GET "/api/orders" .getOrder,
    { method := .PUT
      path := under "/api/orders" [.captured, .literal (js "status")]
      handler
        | [id] => some (.updateOrderStatus id)
        | _ => none }]

inductive PaymentHandler where
  | processPayment
  deriving DecidableEq, Repr

def paymentMappings : List (Mapping PaymentHandler) :=
  [plainMapping .POST "/api/payments" .processPayment]

inductive Service where
  | catalog | cart | order | payment
  deriving DecidableEq, Repr

inductive Endpoint where
  | catalog (handler : CatalogHandler)
  | cart (handler : CartHandler)
  | order (handler : OrderHandler)
  | payment (handler : PaymentHandler)
  deriving DecidableEq, Repr

def Service.rules : Service → List (AccessRule Target Caller)
  | .catalog => catalogRules
  | .cart => cartRules
  | .order => orderRules
  | .payment => paymentRules

def Service.endpoint (service : Service) (target : Target) : Option Endpoint :=
  match service with
  | .catalog => (dispatch catalogMappings target).map .catalog
  | .cart => (dispatch cartMappings target).map .cart
  | .order => (dispatch orderMappings target).map .order
  | .payment => (dispatch paymentMappings target).map .payment

/-- The handler that a request to a service reaches. -/
def call (service : Service) (method : HttpMethod) (uri : JString) (caller : Caller) :
    Option Endpoint := do
  let path ← matchedPath uri
  if admitted service.rules ⟨method, path⟩ caller then service.endpoint ⟨method, path⟩ else none

/-- Who may call an endpoint, by a request with the method. -/
def Endpoint.MayBeCalled (method : HttpMethod) (caller : Caller) : Endpoint → Prop
  | .catalog handler => handler.MayBeCalled method caller
  | .cart _ | .order _ | .payment _ => caller ≠ none

theorem isApi_cartMappings : ∀ mapping ∈ cartMappings, mapping.IsApi := by
  simp only [cartMappings, List.forall_mem_cons, List.not_mem_nil, false_implies, implies_true,
    and_true]
  exact ⟨⟨by decide, _, rfl⟩, ⟨by decide, _, rfl⟩, ⟨by decide, _, rfl⟩, ⟨by decide, _, rfl⟩,
    ⟨by decide, _, rfl⟩⟩

theorem isApi_orderMappings : ∀ mapping ∈ orderMappings, mapping.IsApi := by
  simp only [orderMappings, List.forall_mem_cons, List.not_mem_nil, false_implies, implies_true,
    and_true]
  exact ⟨⟨by decide, _, rfl⟩, ⟨by decide, _, rfl⟩, ⟨by decide, _, rfl⟩, ⟨by decide, _, rfl⟩,
    ⟨by decide, _, rfl⟩⟩

theorem isApi_paymentMappings : ∀ mapping ∈ paymentMappings, mapping.IsApi := by
  simp only [paymentMappings, List.forall_mem_cons, List.not_mem_nil, false_implies, implies_true,
    and_true]
  exact ⟨by decide, _, rfl⟩

/-- Where `OPTIONS` and the health check alone are open, a mapped request needs
an authenticated caller. -/
theorem admitted_api_iff {Handler : Type} {mappings : List (Mapping Handler)} {target : Target}
    {handler : Handler} {caller : Caller} (hapi : ∀ mapping ∈ mappings, mapping.IsApi)
    (hdispatch : dispatch mappings target = some handler) :
    (admitted cartRules target caller = true ↔ caller ≠ none) ∧
      (admitted paymentRules target caller = true ↔ caller ≠ none) := by
  obtain ⟨mapping, hmapping, hserve⟩ := exists_of_dispatch hdispatch
  obtain ⟨hmethod, rest, hpath⟩ := isApi_of_serve (hapi mapping hmapping) hserve
  obtain ⟨method, path⟩ := target
  obtain rfl : path = _ := hpath
  simp only [← authenticated_admits]
  cases method with
  | OPTIONS => exact absurd rfl hmethod
  | _ => exact ⟨Iff.rfl, Iff.rfl⟩

theorem service_admits_iff {service : Service} {target : Target} {endpoint : Endpoint}
    {caller : Caller} (hendpoint : service.endpoint target = some endpoint) :
    admitted service.rules target caller = true ↔ endpoint.MayBeCalled target.method caller := by
  cases service with
  | catalog =>
      obtain ⟨handler, hdispatch, rfl⟩ := Option.map_eq_some_iff.mp hendpoint
      exact catalog_admits_iff hdispatch
  | cart =>
      obtain ⟨handler, hdispatch, rfl⟩ := Option.map_eq_some_iff.mp hendpoint
      exact (admitted_api_iff isApi_cartMappings hdispatch).1
  | order =>
      obtain ⟨handler, hdispatch, rfl⟩ := Option.map_eq_some_iff.mp hendpoint
      exact (admitted_api_iff isApi_orderMappings hdispatch).1
  | payment =>
      obtain ⟨handler, hdispatch, rfl⟩ := Option.map_eq_some_iff.mp hendpoint
      exact (admitted_api_iff isApi_paymentMappings hdispatch).2

/-- Whatever the raw URI of a request, it reaches an endpoint exactly if its
decoded path is mapped to it and its caller may call it. -/
theorem call_eq_some_iff {service : Service} {method : HttpMethod} {uri : JString}
    {caller : Caller} {endpoint : Endpoint} :
    call service method uri caller = some endpoint ↔
      ∃ path, matchedPath uri = some path ∧ service.endpoint ⟨method, path⟩ = some endpoint ∧
        endpoint.MayBeCalled method caller := by
  rw [call, Option.bind_eq_bind, Option.bind_eq_some_iff]
  apply exists_congr
  intro path
  apply and_congr_right'
  rw [Option.ite_none_right_eq_some, and_comm]
  constructor
  · intro ⟨hendpoint, hadmitted⟩
    exact ⟨hendpoint, (service_admits_iff hendpoint).mp hadmitted⟩
  · intro ⟨hendpoint, hmay⟩
    exact ⟨hendpoint, (service_admits_iff hendpoint).mpr hmay⟩

end ShoppingWeb.Access
