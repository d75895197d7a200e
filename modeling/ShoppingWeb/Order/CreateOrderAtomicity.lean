import ShoppingWeb.Order.CreateOrderSpec

/-!
# Atomicity of createOrder

The database transaction covers the order tables but not the cart service.
The call is atomic exactly as long as the remote clearing of the cart is the
last thing that can take effect: a lost reply or a failing commit leaves an
empty cart and no order.
-/

namespace ShoppingWeb.OrderService

open ShoppingWeb.Utf16
open ShoppingWeb.Shared
open ShoppingWeb.CartService
open Program

/-- A call that returns no order leaves the order tables and the user's cart
as they were. -/
def IsAtomic (configuration : OrderConfiguration) (environment : CreateOrderEnvironment)
    (request : CreateOrderRequest) (state : ShopState) : Prop :=
  ∀ exception final,
    exec (createOrder configuration environment request) state = (.error exception, final) →
    final.tables.contents = state.tables.contents ∧
      final.cartStore.linesOf request.bearerSubject =
        state.cartStore.linesOf request.bearerSubject

/-- Every step before the clearing succeeds, the clearing takes effect, and
then its reply is lost or the commit fails. -/
def LosesCart (configuration : OrderConfiguration) (environment : CreateOrderEnvironment)
    (request : CreateOrderRequest) (state : ShopState) : Prop :=
  (∃ placement, ReachesClear configuration environment request state placement) ∧
    (environment.clearCart = .replyLost ∨
      environment.clearCart = .success ∧ environment.commitFails = true)

variable {configuration : OrderConfiguration} {environment : CreateOrderEnvironment}
  {request : CreateOrderRequest} {state : ShopState}

/-- The call throws and the cart is empty, though it was not before. -/
theorem not_isAtomic_of_losesCart (h : LosesCart configuration environment request state) :
    ¬ IsAtomic configuration environment request state := by
  obtain ⟨⟨placement, hreaches⟩, htrouble⟩ := h
  have hexec : exec (createOrder configuration environment request) state =
      (.error libraryFailure, rolledBack state
        (cleared request (beforeClear configuration environment request state placement))) := by
    rw [exec_createOrder, exec_prepareOrder_ok.mpr ⟨placement, hreaches, rfl, rfl⟩]
    rcases htrouble with hlost | ⟨hclear, hcommit⟩
    · simp [finishOrder, hlost]
    · simp [finishOrder, hclear, hcommit]
  intro hatomic
  have hcart := (hatomic _ _ hexec).2
  have hempty : (rolledBack state (cleared request (beforeClear configuration environment request
      state placement))).cartStore.linesOf request.bearerSubject = [] :=
    CartStore.linesOf_clearCart _ _
  exact hreaches.2.1 (hcart.symm.trans hempty)

theorem createOrder_isAtomic_iff (configuration : OrderConfiguration)
    (environment : CreateOrderEnvironment) (request : CreateOrderRequest) (state : ShopState) :
    IsAtomic configuration environment request state ↔
      ¬ LosesCart configuration environment request state := by
  constructor
  · intro hatomic hloses
    exact not_isAtomic_of_losesCart hloses hatomic
  · intro hkeeps exception final hexec
    obtain ⟨htables, hlines | ⟨placement, hreaches, htrouble⟩⟩ := exec_createOrder_error hexec
    · exact ⟨htables, congrFun hlines _⟩
    · exact absurd ⟨⟨placement, hreaches⟩, htrouble⟩ hkeeps

/-- Two laptops in the cart of a user who has never ordered. -/
def twoLaptops : ShopState :=
  { ShopState.empty with cartStore := CartStore.empty.addItemToCart (js "alice") 7 2 }

/-- The placement of an order for two laptops. -/
def twoLaptopsPlacement : Placement where
  draft :=
    { totalAmount := ⟨1000, 0⟩
      orderContextItems :=
        [⟨7, some (js "Laptop"), some ⟨500, 0⟩, 2,
          some (calculateProductHash plainConfiguration.crypto 7 (js "Laptop") ⟨500, 0⟩)⟩]
      jpaOrderItems := [⟨0, 0, 7, js "Laptop", 2, ⟨500, 0⟩⟩] }
  userId := js "alice"
  customerName := js "alice"
  address := js "1 Main Street"
  phone := js "0900000000"

/-- Nothing fails but the commit. -/
def commitFailure : CreateOrderEnvironment :=
  { smoothEnvironment laptop with commitFails := true }

theorem twoLaptops_reachesClear :
    ReachesClear plainConfiguration commitFailure (plainRequest (js "alice")) twoLaptops
      twoLaptopsPlacement where
  left := rfl
  right :=
    ⟨by decide,
      { built := by decide +kernel
        approved := by decide +kernel
        hasUserId := rfl
        hasCustomerName := rfl
        hasAddress := rfl
        hasPhone := rfl
        orderSaved := rfl
        trackingFree := by decide +kernel
        itemsSaved := by decide +kernel
        shippingSaved := rfl }⟩

/-- The commit fails after the cart has been cleared. -/
theorem createOrder_loses_cart :
    ¬ IsAtomic plainConfiguration commitFailure (plainRequest (js "alice")) twoLaptops :=
  not_isAtomic_of_losesCart
    ⟨⟨twoLaptopsPlacement, twoLaptops_reachesClear⟩, Or.inr ⟨rfl, rfl⟩⟩

end ShoppingWeb.OrderService
