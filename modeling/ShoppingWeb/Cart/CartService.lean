import Mathlib.Data.Int.Basic
import ShoppingWeb.Lib.Table
import ShoppingWeb.Shared.ServiceException

/-!
# The cart service

`CartService` over its two tables.  Every operation is one database
transaction: it either returns the new store or leaves the store alone.
Quantities are 32-bit and added without a check.
-/

namespace ShoppingWeb.CartService

open ShoppingWeb.Utf16
open ShoppingWeb.Shared

structure Cart where
  id : ℤ
  userId : JString
  deriving DecidableEq, Repr

instance : Keyed Cart where
  key := Cart.id
  withKey id cart := { cart with id }
  key_withKey _ _ := rfl

structure CartItem where
  id : ℤ
  cartId : ℤ
  productId : ℤ
  quantity : Int32
  deriving DecidableEq, Repr

instance : Keyed CartItem where
  key := CartItem.id
  withKey id item := { item with id }
  key_withKey _ _ := rfl

/-- The two tables with their foreign key. -/
structure CartStore where
  carts : Table Cart
  items : Table CartItem
  cart_exists : ∀ item ∈ items.rows, ∃ cart ∈ carts.rows, cart.id = item.cartId

/-- A managed cart within a transaction: its row is in the store. -/
structure OpenCart where
  store : CartStore
  cart : Cart
  isStored : cart ∈ store.carts.rows

namespace CartStore

def empty : CartStore :=
  ⟨.empty, .empty, fun _ hitem => absurd hitem List.not_mem_nil⟩

def findByUserId (store : CartStore) (userId : JString) : Option Cart :=
  store.carts.rows.find? fun cart => cart.userId == userId

/-- `cart.getItems()` -/
def itemsOf (store : CartStore) (cart : Cart) : List CartItem :=
  store.items.rows.filter fun item => item.cartId == cart.id

/-- What a user finds in the cart.  A user without a cart row finds nothing. -/
def linesOf (store : CartStore) (userId : JString) : List CartItem :=
  match store.findByUserId userId with
  | none => []
  | some cart => store.itemsOf cart

def saveCart (store : CartStore) (cart : Cart) : CartStore where
  carts := store.carts.insert cart
  items := store.items
  cart_exists item hitem := by
    obtain ⟨old, hold, hid⟩ := store.cart_exists item hitem
    exact ⟨old, List.mem_append_left _ hold, hid⟩

def getOrCreateCart (store : CartStore) (userId : JString) : OpenCart :=
  match hcart : store.findByUserId userId with
  | some cart => ⟨store, cart, List.mem_of_find?_eq_some hcart⟩
  | none =>
      { store := store.saveCart { id := 0, userId }
        cart := { id := store.carts.nextKey, userId }
        isStored := List.mem_append_right _ (List.mem_singleton.mpr rfl) }

/-- `item.setQuantity` on a managed entity. -/
def setQuantity (store : CartStore) (itemId : ℤ) (quantity : Int32) : CartStore where
  carts := store.carts
  items := store.items.update itemId (fun item => { item with quantity }) fun _ => rfl
  cart_exists item hitem := by
    rcases store.items.mem_rows_update hitem with ⟨hold, -⟩ | ⟨old, hold, -, rfl⟩
    · exact store.cart_exists item hold
    · exact store.cart_exists old hold

def deleteItems (store : CartStore) (test : CartItem → Bool) : CartStore where
  carts := store.carts
  items := store.items.deleteWhere test
  cart_exists item hitem := store.cart_exists item (List.mem_of_mem_filter hitem)

/-- `cart.getItems().remove(item)`, which deletes the orphan. -/
def removeItem (store : CartStore) (itemId : ℤ) : CartStore :=
  store.deleteItems fun item => item.id == itemId

end CartStore

namespace OpenCart

def items (opened : OpenCart) : List CartItem :=
  opened.store.itemsOf opened.cart

/-- `cart.getItems().add(newItem)`, which is saved with the cart. -/
def addItem (opened : OpenCart) (productId : ℤ) (quantity : Int32) : CartStore where
  carts := opened.store.carts
  items := opened.store.items.insert { id := 0, cartId := opened.cart.id, productId, quantity }
  cart_exists item hitem := by
    rcases List.mem_append.mp hitem with hold | hnew
    · exact opened.store.cart_exists item hold
    · rw [List.mem_singleton.mp hnew]
      exact ⟨opened.cart, opened.isStored, rfl⟩

/-- The item a request names, if it is in the opened cart. -/
def findItem (opened : OpenCart) (itemId : ℤ) : Except ServiceException CartItem :=
  match opened.store.items.find? itemId with
  | none => .error (.illegalArgument (js "Cart item not found"))
  | some item =>
      if item.cartId = opened.cart.id then .ok item
      else .error (.security (js "Unauthorized access to cart item"))

end OpenCart

namespace CartStore

def addItemToCart (store : CartStore) (userId : JString) (productId : ℤ)
    (quantity : Int32) : CartStore :=
  let opened := store.getOrCreateCart userId
  match opened.items.find? fun item => item.productId == productId with
  | some item => opened.store.setQuantity item.id (item.quantity + quantity)
  | none => opened.addItem productId quantity

def updateItemQuantity (store : CartStore) (userId : JString) (itemId : ℤ)
    (quantity : Int32) : Except ServiceException CartStore :=
  let opened := store.getOrCreateCart userId
  match opened.findItem itemId with
  | .error exception => .error exception
  | .ok item =>
      if quantity ≤ 0 then .ok (opened.store.removeItem item.id)
      else .ok (opened.store.setQuantity item.id quantity)

def removeItemFromCart (store : CartStore) (userId : JString) (itemId : ℤ) :
    Except ServiceException CartStore :=
  let opened := store.getOrCreateCart userId
  match opened.findItem itemId with
  | .error exception => .error exception
  | .ok item => .ok (opened.store.removeItem item.id)

def clearCart (store : CartStore) (userId : JString) : CartStore :=
  let opened := store.getOrCreateCart userId
  opened.store.deleteItems fun item => item.cartId == opened.cart.id

section Opening

variable {store : CartStore} {userId otherId : JString} {cart other : Cart}

theorem mem_of_findByUserId (hcart : store.findByUserId userId = some cart) :
    cart ∈ store.carts.rows ∧ cart.userId = userId :=
  ⟨List.mem_of_find?_eq_some hcart, by simpa using List.find?_some hcart⟩

/-- Two users never share a cart. -/
theorem cart_id_ne (hne : userId ≠ otherId) (hcart : store.findByUserId userId = some cart)
    (hother : store.findByUserId otherId = some other) : cart.id ≠ other.id := by
  intro hid
  obtain ⟨hmem, rfl⟩ := mem_of_findByUserId hcart
  obtain ⟨hmem', rfl⟩ := mem_of_findByUserId hother
  exact hne (congrArg Cart.userId (store.carts.row_unique hmem hmem' hid))

theorem linesOf_of_find (hcart : store.findByUserId userId = some cart) :
    store.linesOf userId = store.itemsOf cart := by
  simp [linesOf, hcart]

variable (store userId)

theorem find_getOrCreateCart :
    (store.getOrCreateCart userId).store.findByUserId userId =
      some (store.getOrCreateCart userId).cart := by
  unfold getOrCreateCart
  split
  · assumption
  · rename_i hnone
    have hmissing : store.carts.rows.find? (fun cart => cart.userId == userId) = none := hnone
    simp [saveCart, findByUserId, hmissing, Keyed.withKey]

theorem items_getOrCreateCart :
    (store.getOrCreateCart userId).store.items = store.items := by
  unfold getOrCreateCart
  split <;> rfl

/-- A cart created now is empty: every item belongs to an older cart. -/
theorem itemsOf_new_cart :
    store.itemsOf { id := store.carts.nextKey, userId } = [] := by
  rw [itemsOf, List.filter_eq_nil_iff]
  intro item hitem heq
  obtain ⟨old, hold, hid⟩ := store.cart_exists item hitem
  have hlt := store.carts.key_lt old hold
  have hkey : old.id = store.carts.nextKey := hid.trans (by simpa using heq)
  exact absurd hlt (by rw [← hkey]; exact lt_irrefl _)

/-- Opening a cart changes what nobody finds in a cart. -/
theorem linesOf_getOrCreateCart (otherId : JString) :
    (store.getOrCreateCart userId).store.linesOf otherId = store.linesOf otherId := by
  unfold getOrCreateCart
  split
  · rfl
  · rename_i hnone
    have hnew := store.itemsOf_new_cart userId
    simp only [saveCart, linesOf, findByUserId, Table.rows_insert, List.find?_append]
    cases hother : store.carts.rows.find? (fun cart => cart.userId == otherId) with
    | some other => rfl
    | none =>
        by_cases heq : userId = otherId
        · subst heq
          simpa [Keyed.withKey, itemsOf] using hnew
        · simp [Keyed.withKey, heq]

theorem items_opened : (store.getOrCreateCart userId).items = store.linesOf userId := by
  rw [← linesOf_getOrCreateCart store userId userId,
    linesOf_of_find (store.find_getOrCreateCart userId)]
  rfl

end Opening

/-- After an operation on the opened cart the user finds the items of that
cart. -/
theorem linesOf_final {store : CartStore} {userId : JString} {final : CartStore}
    (hcarts : final.carts = (store.getOrCreateCart userId).store.carts) :
    final.linesOf userId = final.itemsOf (store.getOrCreateCart userId).cart := by
  apply linesOf_of_find
  rw [findByUserId, hcarts]
  exact store.find_getOrCreateCart userId

/-- An operation on an opened cart that keeps the other items and the carts
shows other users nothing. -/
theorem linesOf_other {store : CartStore} {userId otherId : JString} {final : CartStore}
    (hne : userId ≠ otherId)
    (hcarts : final.carts = (store.getOrCreateCart userId).store.carts)
    (hitems : ∀ cartId ≠ (store.getOrCreateCart userId).cart.id,
      final.items.rows.filter (fun item => item.cartId == cartId) =
        store.items.rows.filter fun item => item.cartId == cartId) :
    final.linesOf otherId = store.linesOf otherId := by
  rw [← linesOf_getOrCreateCart store userId otherId]
  simp only [linesOf, findByUserId, hcarts]
  cases hother : (store.getOrCreateCart userId).store.findByUserId otherId with
  | none =>
      have hnone : (store.getOrCreateCart userId).store.carts.rows.find?
        (fun cart => cart.userId == otherId) = none := hother
      simp [hnone]
  | some other =>
      have hsome : (store.getOrCreateCart userId).store.carts.rows.find?
        (fun cart => cart.userId == otherId) = some other := hother
      have hid := cart_id_ne hne (store.find_getOrCreateCart userId) hother
      simp only [hsome, itemsOf, hitems _ hid.symm, items_getOrCreateCart]

end CartStore

end ShoppingWeb.CartService
