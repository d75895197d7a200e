import Mathlib.Data.List.Induction
import ShoppingWeb.Cart.CartUnits
import ShoppingWeb.Lib.Program

/-!
# The invariant of the cart store

Calls of the cart service, by any users and with any arguments, one after
another from an empty store.  A call that throws is rolled back; what it may
have used up are keys.
-/

namespace ShoppingWeb.CartService

open ShoppingWeb.Utf16
open ShoppingWeb.Shared
open ShoppingWeb.Program

/-- A call of the service.  Every argument is an object, and may be null. -/
inductive CartCall where
  | getOrCreateCart (userId : Option JString)
  | addItemToCart (userId : Option JString) (productId : Option ℤ) (quantity : Option Int32)
  | updateItemQuantity (userId : Option JString) (itemId : Option ℤ) (quantity : Option Int32)
  | removeItemFromCart (userId : Option JString) (itemId : Option ℤ)
  | clearCart (userId : Option JString)
  deriving DecidableEq, Repr

/-- A null that is dereferenced, looked up or stored in a column that has to
have a value. -/
def nonNull {Value : Type} : Option Value → Except ServiceException Value
  | none => .error (.runtime (js "null"))
  | some value => .ok value

theorem nonNull_ok {Value : Type} {source : Option Value} {value : Value} :
    nonNull source = .ok value ↔ source = some value := by
  cases source with
  | none => simp [nonNull]
  | some other => simp [nonNull]

namespace CartCall

def userId : CartCall → Option JString
  | .getOrCreateCart userId => userId
  | .addItemToCart userId _ _ => userId
  | .updateItemQuantity userId _ _ => userId
  | .removeItemFromCart userId _ => userId
  | .clearCart userId => userId

def execute (store : CartStore) : CartCall → Except ServiceException CartStore
  | .getOrCreateCart userId => do
      let userId ← nonNull userId
      .ok (store.getOrCreateCart userId).store
  | .addItemToCart userId productId quantity => do
      let userId ← nonNull userId
      let productId ← nonNull productId
      let quantity ← nonNull quantity
      .ok (store.addItemToCart userId productId quantity)
  | .updateItemQuantity userId itemId quantity => do
      let userId ← nonNull userId
      let itemId ← nonNull itemId
      -- The quantity is looked at after the item.
      let _ ← (store.getOrCreateCart userId).findItem itemId
      let quantity ← nonNull quantity
      store.updateItemQuantity userId itemId quantity
  | .removeItemFromCart userId itemId => do
      let userId ← nonNull userId
      let itemId ← nonNull itemId
      store.removeItemFromCart userId itemId
  | .clearCart userId => do
      let userId ← nonNull userId
      .ok (store.clearCart userId)

end CartCall

namespace CartStore

/-- The rows of `before`; keys generated since then stay used. -/
def rollBack (before after : CartStore) : CartStore where
  carts := before.carts.rollBack after.carts
  items := before.items.rollBack after.items
  cart_exists := before.cart_exists

/-- The store in which a call fails: it may have stored a new cart. -/
def attempted (store : CartStore) (call : CartCall) : CartStore :=
  match call.userId with
  | none => store
  | some userId => (store.getOrCreateCart userId).store

/-- One call is one transaction. -/
def step (store : CartStore) (call : CartCall) : CartStore :=
  match call.execute store with
  | .ok final => final
  | .error _ => store.rollBack (store.attempted call)

def run (calls : List CartCall) : CartStore := calls.foldl step empty

/-- What a call that returns has done to the opened cart. -/
inductive Writes (opened : OpenCart) : CartStore → Prop
  | nothing : Writes opened opened.store
  | addItem (productId : ℤ) (quantity : Int32)
      (hnew : ∀ item ∈ opened.items, item.productId ≠ productId) :
      Writes opened (opened.addItem productId quantity)
  | setQuantity (item : CartItem) (quantity : Int32) (hitem : item ∈ opened.items) :
      Writes opened (opened.store.setQuantity item.id quantity)
  | deleteItems (test : CartItem → Bool)
      (hown : ∀ item ∈ opened.store.items.rows, test item = true →
        item.cartId = opened.cart.id) :
      Writes opened (opened.store.deleteItems test)

theorem writes_removeItem {opened : OpenCart} {item : CartItem} (hitem : item ∈ opened.items) :
    Writes opened (opened.store.removeItem item.id) := by
  apply Writes.deleteItems
  intro other hother hid
  obtain ⟨hmem, hcart⟩ := List.mem_filter.mp hitem
  have hsame : other = item :=
    opened.store.items.row_unique hother hmem (beq_iff_eq.mp hid)
  rw [hsame]
  exact beq_iff_eq.mp hcart

theorem writes_addItemToCart (store : CartStore) (userId : JString) (productId : ℤ)
    (quantity : Int32) :
    Writes (store.getOrCreateCart userId) (store.addItemToCart userId productId quantity) := by
  simp only [addItemToCart]
  split
  · rename_i item hfound
    exact Writes.setQuantity item _ (List.mem_of_find?_eq_some hfound)
  · rename_i hnone
    apply Writes.addItem
    intro item hitem
    simpa using List.find?_eq_none.mp hnone item hitem

theorem writes_updateItemQuantity {store final : CartStore} {userId : JString} {itemId : ℤ}
    {quantity : Int32} (hupdate : store.updateItemQuantity userId itemId quantity = .ok final) :
    Writes (store.getOrCreateCart userId) final := by
  simp only [updateItemQuantity] at hupdate
  split at hupdate
  · cases hupdate
  · rename_i item hfind
    have hitem := (mem_of_findItem hfind).1
    split at hupdate
    · obtain rfl := Except.ok.inj hupdate
      exact writes_removeItem hitem
    · obtain rfl := Except.ok.inj hupdate
      exact Writes.setQuantity item quantity hitem

theorem writes_removeItemFromCart {store final : CartStore} {userId : JString} {itemId : ℤ}
    (hremove : store.removeItemFromCart userId itemId = .ok final) :
    Writes (store.getOrCreateCart userId) final := by
  simp only [removeItemFromCart] at hremove
  split at hremove
  · cases hremove
  · rename_i item hfind
    obtain rfl := Except.ok.inj hremove
    exact writes_removeItem (mem_of_findItem hfind).1

theorem writes_clearCart (store : CartStore) (userId : JString) :
    Writes (store.getOrCreateCart userId) (store.clearCart userId) := by
  apply Writes.deleteItems
  intro item _ htest
  exact beq_iff_eq.mp htest

/-- A call that returns has written to the cart of its user. -/
theorem writes_execute {store final : CartStore} {call : CartCall}
    (hexecute : call.execute store = .ok final) :
    ∃ userId, call.userId = some userId ∧ Writes (store.getOrCreateCart userId) final := by
  cases call with
  | getOrCreateCart user =>
      obtain ⟨userId, huser, hfinal⟩ := except_bind_ok.mp hexecute
      obtain rfl := Except.ok.inj hfinal
      exact ⟨userId, nonNull_ok.mp huser, Writes.nothing⟩
  | addItemToCart user product amount =>
      simp only [CartCall.execute, except_bind_ok] at hexecute
      obtain ⟨userId, huser, productId, -, quantity, -, hfinal⟩ := hexecute
      obtain rfl := Except.ok.inj hfinal
      exact ⟨userId, nonNull_ok.mp huser, writes_addItemToCart store userId productId quantity⟩
  | updateItemQuantity user named amount =>
      simp only [CartCall.execute, except_bind_ok] at hexecute
      obtain ⟨userId, huser, itemId, -, -, -, quantity, -, hupdate⟩ := hexecute
      exact ⟨userId, nonNull_ok.mp huser, writes_updateItemQuantity hupdate⟩
  | removeItemFromCart user named =>
      simp only [CartCall.execute, except_bind_ok] at hexecute
      obtain ⟨userId, huser, itemId, -, hremove⟩ := hexecute
      exact ⟨userId, nonNull_ok.mp huser, writes_removeItemFromCart hremove⟩
  | clearCart user =>
      obtain ⟨userId, huser, hfinal⟩ := except_bind_ok.mp hexecute
      obtain rfl := Except.ok.inj hfinal
      exact ⟨userId, nonNull_ok.mp huser, writes_clearCart store userId⟩

/-- A user has one cart, an item is in one cart, and a cart has a product
once. -/
structure WellFormed (store : CartStore) : Prop where
  users_distinct : (store.carts.rows.map Cart.userId).Nodup
  item_in_cart : ∀ item ∈ store.items.rows,
    ∃! cart, cart ∈ store.carts.rows ∧ item ∈ store.itemsOf cart
  products_distinct : (store.items.rows.map fun item => (item.cartId, item.productId)).Nodup

/-- The foreign key is to a row, and keys are primary. -/
theorem existsUnique_cart (store : CartStore) {item : CartItem}
    (hitem : item ∈ store.items.rows) :
    ∃! cart, cart ∈ store.carts.rows ∧ item ∈ store.itemsOf cart := by
  obtain ⟨cart, hcart, hid⟩ := store.cart_exists item hitem
  refine ⟨cart, ⟨hcart, List.mem_filter.mpr ⟨hitem, beq_iff_eq.mpr hid.symm⟩⟩, ?_⟩
  intro other ⟨hother, hlisted⟩
  have hotherId : item.cartId = other.id := beq_iff_eq.mp (List.mem_filter.mp hlisted).2
  exact store.carts.row_unique hother hcart (hotherId.symm.trans hid.symm)

theorem wellFormed_empty : WellFormed empty where
  users_distinct := List.nodup_nil
  item_in_cart := fun _ hitem => existsUnique_cart empty hitem
  products_distinct := List.nodup_nil

section Opened

variable {store : CartStore} (hstore : store.WellFormed)
include hstore

/-- A cart is only created for a user who has none. -/
theorem wellFormed_getOrCreateCart (userId : JString) :
    (store.getOrCreateCart userId).store.WellFormed where
  users_distinct := by
    unfold getOrCreateCart
    split
    · exact hstore.users_distinct
    · rename_i hnone
      simp only [saveCart, Table.rows_insert, List.map_append, List.map_singleton, Keyed.withKey]
      apply hstore.users_distinct.append (List.nodup_singleton _)
      rw [List.disjoint_singleton]
      intro hmem
      obtain ⟨cart, hcart, huser⟩ := List.mem_map.mp hmem
      have hother := List.find?_eq_none.mp hnone cart hcart
      simp [huser] at hother
  item_in_cart := fun _ => existsUnique_cart _
  products_distinct := by
    rw [items_getOrCreateCart]
    exact hstore.products_distinct

end Opened

/-- No way of writing to an opened cart puts a product there twice. -/
theorem wellFormed_writes {opened : OpenCart} {final : CartStore}
    (hopened : opened.store.WellFormed) (hwrites : Writes opened final) : final.WellFormed := by
  cases hwrites with
  | nothing => exact hopened
  | addItem productId quantity hnew =>
      refine ⟨hopened.users_distinct, fun _ => existsUnique_cart _, ?_⟩
      simp only [OpenCart.addItem, Table.rows_insert, List.map_append, List.map_singleton,
        Keyed.withKey]
      apply hopened.products_distinct.append (List.nodup_singleton _)
      rw [List.disjoint_singleton]
      intro hmem
      obtain ⟨item, hitem, hpair⟩ := List.mem_map.mp hmem
      obtain ⟨hcart, hproduct⟩ := Prod.mk.inj hpair
      exact hnew item (List.mem_filter.mpr ⟨hitem, beq_iff_eq.mpr hcart⟩) hproduct
  | setQuantity item quantity hitem =>
      refine ⟨hopened.users_distinct, fun _ => existsUnique_cart _, ?_⟩
      have hpairs : ((opened.store.setQuantity item.id quantity).items.rows.map
          fun item => (item.cartId, item.productId)) =
            opened.store.items.rows.map fun item => (item.cartId, item.productId) := by
        simp only [setQuantity, Table.update, List.map_map]
        apply List.map_congr_left
        intro other _
        simp only [Function.comp_apply]
        split
        · rfl
        · rfl
      rw [hpairs]
      exact hopened.products_distinct
  | deleteItems test hown =>
      refine ⟨hopened.users_distinct, fun _ => existsUnique_cart _, ?_⟩
      exact hopened.products_distinct.sublist (List.filter_sublist.map _)

theorem wellFormed_step {store : CartStore} (hstore : store.WellFormed) (call : CartCall) :
    (store.step call).WellFormed := by
  unfold step
  split
  · rename_i final hexecute
    obtain ⟨userId, -, hwrites⟩ := writes_execute hexecute
    exact wellFormed_writes (wellFormed_getOrCreateCart hstore userId) hwrites
  · exact ⟨hstore.users_distinct, fun _ => existsUnique_cart _, hstore.products_distinct⟩

theorem wellFormed_run (calls : List CartCall) : (run calls).WellFormed := by
  induction calls using List.reverseRecOn with
  | nil => exact wellFormed_empty
  | append_singleton calls call ih =>
      rw [run, List.foldl_append]
      exact wellFormed_step ih call

theorem findByUserId_getOrCreateCart_other (store : CartStore) {userId otherId : JString}
    (hne : userId ≠ otherId) :
    (store.getOrCreateCart userId).store.findByUserId otherId = store.findByUserId otherId := by
  unfold getOrCreateCart
  split
  · rfl
  · simp [saveCart, findByUserId, Keyed.withKey, hne]

theorem Writes.carts {opened : OpenCart} {final : CartStore} (hwrites : Writes opened final) :
    final.carts = opened.store.carts := by
  cases hwrites with
  | nothing => rfl
  | addItem productId quantity hnew => rfl
  | setQuantity item quantity hitem => rfl
  | deleteItems test hown => rfl

/-- The items of the other carts stay as they are. -/
theorem Writes.items_other {opened : OpenCart} {final : CartStore}
    (hwrites : Writes opened final) {cartId : ℤ} (hcartId : cartId ≠ opened.cart.id) :
    final.items.rows.filter (fun item => item.cartId == cartId) =
      opened.store.items.rows.filter fun item => item.cartId == cartId := by
  cases hwrites with
  | nothing => rfl
  | addItem productId quantity hnew =>
      simp [OpenCart.addItem, Keyed.withKey, hcartId.symm]
  | setQuantity item quantity hitem =>
      obtain ⟨hmem, hcart⟩ := List.mem_filter.mp hitem
      have hkeys : ∀ row : CartItem, Keyed.key { row with quantity } = Keyed.key row :=
        fun _ => rfl
      apply Table.filter_rows_update opened.store.items hkeys
      intro other hother hid
      have hsame : other = item := opened.store.items.row_unique hother hmem hid
      have hunseen : (item.cartId == cartId) = false := by
        rw [beq_iff_eq.mp hcart]
        exact beq_false_of_ne hcartId.symm
      rw [hsame]
      exact ⟨hunseen, hunseen⟩
  | deleteItems test hown =>
      simp only [CartStore.deleteItems, Table.rows_deleteWhere, List.filter_filter]
      apply List.filter_congr
      intro item hitem
      by_cases hcart : item.cartId = cartId
      · have hkept : test item = false := by
          apply Bool.eq_false_iff.mpr
          intro htest
          exact hcartId (hcart.symm.trans (hown item hitem htest))
        simp [hkept]
      · simp [hcart]

/-- Whatever a call does, the carts of other users are as they were. -/
theorem step_other (store : CartStore) {call : CartCall} {otherId : JString}
    (hother : call.userId ≠ some otherId) :
    (store.step call).findByUserId otherId = store.findByUserId otherId ∧
      (store.step call).linesOf otherId = store.linesOf otherId := by
  unfold step
  split
  · rename_i final hexecute
    obtain ⟨userId, huser, hwrites⟩ := writes_execute hexecute
    have hne : userId ≠ otherId := fun heq => hother (huser.trans (congrArg some heq))
    constructor
    · calc
        final.findByUserId otherId =
            (store.getOrCreateCart userId).store.findByUserId otherId := by
          rw [findByUserId, hwrites.carts]
          rfl
        _ = store.findByUserId otherId := findByUserId_getOrCreateCart_other store hne
    · apply linesOf_other hne hwrites.carts
      intro cartId hcartId
      rw [hwrites.items_other hcartId, items_getOrCreateCart]
  · exact ⟨rfl, rfl⟩

/-- After any calls the store keeps its invariant, the next call leaves the
carts of other users alone, and one that throws leaves all rows alone. -/
theorem cart_store_invariant (calls : List CartCall) :
    (run calls).WellFormed ∧ ∀ call : CartCall,
      (∀ otherId, call.userId ≠ some otherId →
        ((run calls).step call).findByUserId otherId = (run calls).findByUserId otherId ∧
        ((run calls).step call).linesOf otherId = (run calls).linesOf otherId) ∧
      ∀ exception, call.execute (run calls) = .error exception →
        ((run calls).step call).carts.rows = (run calls).carts.rows ∧
        ((run calls).step call).items.rows = (run calls).items.rows := by
  constructor
  · exact wellFormed_run calls
  · intro call
    constructor
    · intro otherId
      exact step_other (run calls)
    · intro exception hthrown
      rw [step, hthrown]
      exact ⟨rfl, rfl⟩

end CartStore

end ShoppingWeb.CartService
