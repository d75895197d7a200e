import Mathlib.Algebra.Order.BigOperators.Group.List
import ShoppingWeb.Cart.CartService

/-!
# Units in a cart

How many units of a product a user's cart holds, and what each operation does
to that number.  Adding wraps around at 32 bits, so its effect is stated for
sums that fit.
-/

namespace ShoppingWeb.CartService

open ShoppingWeb.Utf16
open ShoppingWeb.Shared

/-- The sum of a product's quantities over a list of items. -/
def unitsIn (items : List CartItem) (productId : ℤ) : ℤ :=
  (items.map fun item => if item.productId = productId then item.quantity.toInt else 0).sum

@[simp]
theorem unitsIn_nil (productId : ℤ) : unitsIn [] productId = 0 := rfl

/-- The 32-bit sum of an addition that fits is exact. -/
theorem toInt_add_of_fits {left right : Int32} (hlower : -2 ^ 31 ≤ left.toInt + right.toInt)
    (hupper : left.toInt + right.toInt < 2 ^ 31) :
    (left + right).toInt = left.toInt + right.toInt := by
  rw [Int32.toInt_add]
  exact Int.bmod_eq_of_le (by omega) (by omega)

namespace CartStore

/-- Units of a product in a user's cart. -/
def units (store : CartStore) (userId : JString) (productId : ℤ) : ℤ :=
  unitsIn (store.linesOf userId) productId

/-- The quantity that `addItemToCart` adds to; zero when the product is new. -/
def existingQuantity (store : CartStore) (userId : JString) (productId : ℤ) : Int32 :=
  match (store.linesOf userId).find? fun item => item.productId == productId with
  | some item => item.quantity
  | none => 0

/-- A row's share of the units of a product in a cart. -/
private def share (cartId productId : ℤ) (item : CartItem) : ℤ :=
  if item.cartId = cartId then
    if item.productId = productId then item.quantity.toInt else 0
  else 0

private theorem unitsIn_itemsOf (store : CartStore) (cart : Cart) (productId : ℤ) :
    unitsIn (store.itemsOf cart) productId = store.items.total (share cart.id productId) := by
  simp only [unitsIn, itemsOf, Table.total]
  induction store.items.rows with
  | nil => rfl
  | cons item items ih =>
      by_cases hcart : item.cartId = cart.id
      · simp [share, hcart, ih]
      · simp [share, hcart, ih]

section Opened

variable (store : CartStore) (userId : JString) (productId : ℤ)

private theorem units_opened :
    store.units userId productId =
      (store.getOrCreateCart userId).store.items.total
        (share (store.getOrCreateCart userId).cart.id productId) := by
  rw [units, ← items_opened, OpenCart.items, unitsIn_itemsOf]

/-- The units after an operation on the opened cart. -/
private theorem units_final (final : CartStore)
    (hcarts : final.carts = (store.getOrCreateCart userId).store.carts) :
    final.units userId productId =
      final.items.total (share (store.getOrCreateCart userId).cart.id productId) := by
  rw [units, linesOf_final hcarts, unitsIn_itemsOf]

private theorem units_setQuantity {item : CartItem} (quantity : Int32)
    (hitem : item ∈ (store.getOrCreateCart userId).items) :
    ((store.getOrCreateCart userId).store.setQuantity item.id quantity).units userId productId =
      store.units userId productId +
        if item.productId = productId then quantity.toInt - item.quantity.toInt else 0 := by
  obtain ⟨hmem, hcart⟩ := List.mem_filter.mp hitem
  have hfind := ((store.getOrCreateCart userId).store.items.find?_eq_some_iff).mpr ⟨hmem, rfl⟩
  have hupdate := Table.total_update _ (share (store.getOrCreateCart userId).cart.id productId)
    hfind (fun item => { item with quantity }) fun _ => rfl
  rw [units_final store userId productId (setQuantity _ item.id quantity) rfl, units_opened]
  apply Eq.trans hupdate
  simp only [share, beq_iff_eq.mp hcart, if_true]
  split_ifs <;> omega

private theorem units_removeItem {item : CartItem}
    (hitem : item ∈ (store.getOrCreateCart userId).items) :
    ((store.getOrCreateCart userId).store.removeItem item.id).units userId productId =
      store.units userId productId -
        if item.productId = productId then item.quantity.toInt else 0 := by
  obtain ⟨hmem, hcart⟩ := List.mem_filter.mp hitem
  have hfind := ((store.getOrCreateCart userId).store.items.find?_eq_some_iff).mpr ⟨hmem, rfl⟩
  have hdelete := Table.total_delete _
    (share (store.getOrCreateCart userId).cart.id productId) hfind
  rw [units_final store userId productId (removeItem _ item.id) rfl, units_opened]
  apply Eq.trans hdelete
  simp only [share, beq_iff_eq.mp hcart, if_true]

private theorem units_addItem (addedId : ℤ) (quantity : Int32) :
    ((store.getOrCreateCart userId).addItem addedId quantity).units userId productId =
      store.units userId productId + if addedId = productId then quantity.toInt else 0 := by
  rw [units_final store userId productId (OpenCart.addItem _ addedId quantity) rfl,
    units_opened, OpenCart.addItem, Table.total_insert]
  simp [share, Keyed.withKey]

/-- Adding adds, as long as the 32-bit sum is exact. -/
theorem units_addItemToCart (addedId : ℤ) (quantity : Int32)
    (hexact : (store.existingQuantity userId addedId + quantity).toInt =
      (store.existingQuantity userId addedId).toInt + quantity.toInt) :
    (store.addItemToCart userId addedId quantity).units userId productId =
      store.units userId productId + if addedId = productId then quantity.toInt else 0 := by
  rw [existingQuantity, ← items_opened] at hexact
  rw [addItemToCart]
  cases hfound : (store.getOrCreateCart userId).items.find?
      (fun item => item.productId == addedId) with
  | none => exact store.units_addItem userId productId addedId quantity
  | some item =>
      have hproduct : item.productId = addedId := by simpa using List.find?_some hfound
      simp only [hfound] at hexact
      simp only
      rw [store.units_setQuantity userId productId _ (List.mem_of_find?_eq_some hfound), hexact,
        hproduct]
      split_ifs <;> omega

theorem mem_of_findItem {opened : OpenCart} {itemId : ℤ} {item : CartItem}
    (hfind : opened.findItem itemId = .ok item) : item ∈ opened.items ∧ item.id = itemId := by
  rw [OpenCart.findItem] at hfind
  split at hfind
  · cases hfind
  · rename_i found hfound
    split at hfind
    · rename_i hcart
      obtain rfl : found = item := by injection hfind
      obtain ⟨hmem, hid⟩ := opened.store.items.find?_eq_some_iff.mp hfound
      exact ⟨List.mem_filter.mpr ⟨hmem, beq_iff_eq.mpr hcart⟩, hid⟩
    · cases hfind

/-- An item of a cart is found by its id in the table. -/
theorem find?_of_mem_linesOf {item : CartItem} (hitem : item ∈ store.linesOf userId) :
    store.items.find? item.id = some item := by
  rw [← items_opened] at hitem
  have hmem := (List.mem_filter.mp hitem).1
  rw [items_getOrCreateCart] at hmem
  exact store.items.find?_eq_some_iff.mpr ⟨hmem, rfl⟩

/-- Updating replaces the quantity of one item, or removes the item. -/
theorem units_updateItemQuantity {itemId : ℤ} {quantity : Int32} {final : CartStore}
    (hupdate : store.updateItemQuantity userId itemId quantity = .ok final) :
    ∃ item ∈ store.linesOf userId, item.id = itemId ∧ ∀ productId,
      final.units userId productId = store.units userId productId +
        if item.productId = productId then max 0 quantity.toInt - item.quantity.toInt else 0 := by
  rw [updateItemQuantity] at hupdate
  split at hupdate
  · cases hupdate
  · rename_i item hfind
    obtain ⟨hitem, hid⟩ := mem_of_findItem hfind
    refine ⟨item, by rwa [← items_opened], hid, fun productId => ?_⟩
    split at hupdate
    · rename_i hquantity
      have hle : quantity.toInt ≤ 0 := Int32.le_iff_toInt_le.mp hquantity
      obtain rfl : _ = final := by injection hupdate
      rw [store.units_removeItem userId productId hitem, max_eq_left hle]
      split_ifs <;> omega
    · rename_i hquantity
      have hlt : 0 < quantity.toInt := not_le.mp fun h => hquantity (Int32.le_iff_toInt_le.mpr h)
      obtain rfl : _ = final := by injection hupdate
      rw [store.units_setQuantity userId productId quantity hitem, max_eq_right hlt.le]

theorem units_removeItemFromCart {itemId : ℤ} {final : CartStore}
    (hremove : store.removeItemFromCart userId itemId = .ok final) :
    ∃ item ∈ store.linesOf userId, item.id = itemId ∧ ∀ productId,
      final.units userId productId = store.units userId productId -
        if item.productId = productId then item.quantity.toInt else 0 := by
  rw [removeItemFromCart] at hremove
  split at hremove
  · cases hremove
  · rename_i item hfind
    obtain ⟨hitem, hid⟩ := mem_of_findItem hfind
    obtain rfl : _ = final := by injection hremove
    exact ⟨item, by rwa [← items_opened], hid,
      fun productId => store.units_removeItem userId productId hitem⟩

theorem linesOf_clearCart : (store.clearCart userId).linesOf userId = [] := by
  have hcarts : (store.clearCart userId).carts = (store.getOrCreateCart userId).store.carts := rfl
  rw [linesOf_final hcarts, itemsOf, List.filter_eq_nil_iff]
  intro item hitem
  simpa [clearCart, deleteItems] using (List.mem_filter.mp hitem).2

@[simp]
theorem units_clearCart : (store.clearCart userId).units userId productId = 0 := by
  rw [units, linesOf_clearCart, unitsIn_nil]

@[simp]
theorem units_getOrCreateCart :
    (store.getOrCreateCart userId).store.units userId productId =
      store.units userId productId := by
  rw [units, units, linesOf_getOrCreateCart]

end Opened

/-- Clearing a cart shows other users nothing. -/
theorem linesOf_clearCart_other (store : CartStore) {userId otherId : JString}
    (hne : userId ≠ otherId) :
    (store.clearCart userId).linesOf otherId = store.linesOf otherId := by
  refine linesOf_other hne rfl fun cartId hcartId => ?_
  simp only [clearCart, deleteItems, Table.rows_deleteWhere, items_getOrCreateCart,
    List.filter_filter]
  apply List.filter_congr
  intro item _
  by_cases hitem : item.cartId = cartId
  · simp [hitem, hcartId]
  · simp [hitem]

/-- Every quantity in every cart satisfies `allowed`. -/
def EveryQuantity (allowed : Int32 → Prop) (store : CartStore) : Prop :=
  ∀ item ∈ store.items.rows, allowed item.quantity

section Quantities

variable {allowed : Int32 → Prop} {store : CartStore} (hstore : store.EveryQuantity allowed)
include hstore

theorem everyQuantity_getOrCreateCart (userId : JString) :
    (store.getOrCreateCart userId).store.EveryQuantity allowed := by
  intro item hitem
  rw [items_getOrCreateCart] at hitem
  exact hstore item hitem

theorem everyQuantity_linesOf {userId : JString} {item : CartItem}
    (hitem : item ∈ store.linesOf userId) : allowed item.quantity := by
  rw [linesOf] at hitem
  split at hitem
  · exact absurd hitem List.not_mem_nil
  · exact hstore item (List.mem_of_mem_filter hitem)

theorem everyQuantity_setQuantity {quantity : Int32} (hquantity : allowed quantity)
    (itemId : ℤ) : (store.setQuantity itemId quantity).EveryQuantity allowed := by
  intro item hitem
  simp only [setQuantity] at hitem
  rcases store.items.mem_rows_update hitem with ⟨hold, -⟩ | ⟨old, -, -, rfl⟩
  · exact hstore item hold
  · exact hquantity

theorem everyQuantity_deleteItems (test : CartItem → Bool) :
    (store.deleteItems test).EveryQuantity allowed :=
  fun item hitem => hstore item (List.mem_of_mem_filter hitem)

theorem everyQuantity_clearCart (userId : JString) :
    (store.clearCart userId).EveryQuantity allowed :=
  everyQuantity_deleteItems (everyQuantity_getOrCreateCart hstore userId) _

theorem everyQuantity_addItemToCart {userId : JString} {productId : ℤ} {quantity : Int32}
    (hallowed : allowed (store.existingQuantity userId productId + quantity)) :
    (store.addItemToCart userId productId quantity).EveryQuantity allowed := by
  have hopened := everyQuantity_getOrCreateCart hstore userId
  rw [existingQuantity, ← items_opened] at hallowed
  rw [addItemToCart]
  cases hfound : (store.getOrCreateCart userId).items.find?
      (fun item => item.productId == productId) with
  | some item =>
      rw [hfound] at hallowed
      exact everyQuantity_setQuantity hopened hallowed item.id
  | none =>
      rw [hfound] at hallowed
      intro item hitem
      rcases List.mem_append.mp hitem with hold | hnew
      · exact hopened item hold
      · rw [List.mem_singleton.mp hnew]
        simpa [Keyed.withKey] using hallowed

omit hstore in
/-- Without negative quantities an item holds no more than all of its product. -/
theorem le_units_of_mem_linesOf (hnonneg : store.EveryQuantity (0 ≤ ·)) {userId : JString}
    {item : CartItem} (hitem : item ∈ store.linesOf userId) :
    item.quantity.toInt ≤ store.units userId item.productId := by
  have hshare : item.quantity.toInt ∈ (store.linesOf userId).map fun other =>
      if other.productId = item.productId then other.quantity.toInt else 0 :=
    List.mem_map.mpr ⟨item, hitem, if_pos rfl⟩
  apply List.single_le_sum _ _ hshare
  intro units hunits
  obtain ⟨other, hother, rfl⟩ := List.mem_map.mp hunits
  split
  · exact Int32.le_iff_toInt_le.mp (everyQuantity_linesOf hnonneg hother)
  · exact le_refl 0

omit hstore in
theorem existingQuantity_nonneg (hnonneg : store.EveryQuantity (0 ≤ ·)) (userId : JString)
    (productId : ℤ) : 0 ≤ (store.existingQuantity userId productId).toInt := by
  rw [existingQuantity]
  split
  · rename_i item hfound
    exact Int32.le_iff_toInt_le.mp
      (everyQuantity_linesOf hnonneg (List.mem_of_find?_eq_some hfound))
  · exact le_refl 0

/-- A request can only write a positive quantity by updating. -/
theorem everyQuantity_updateItemQuantity {userId : JString} {itemId : ℤ} {quantity : Int32}
    {final : CartStore} (hallowed : 0 < quantity → allowed quantity)
    (hupdate : store.updateItemQuantity userId itemId quantity = .ok final) :
    final.EveryQuantity allowed := by
  have hopened := everyQuantity_getOrCreateCart hstore userId
  rw [updateItemQuantity] at hupdate
  split at hupdate
  · cases hupdate
  · rename_i item _
    split at hupdate
    · obtain rfl : _ = final := by injection hupdate
      exact everyQuantity_deleteItems hopened _
    · rename_i hquantity
      obtain rfl : _ = final := by injection hupdate
      exact everyQuantity_setQuantity hopened (hallowed (Int32.not_le.mp hquantity)) item.id

theorem everyQuantity_removeItemFromCart {userId : JString} {itemId : ℤ} {final : CartStore}
    (hremove : store.removeItemFromCart userId itemId = .ok final) :
    final.EveryQuantity allowed := by
  have hopened := everyQuantity_getOrCreateCart hstore userId
  rw [removeItemFromCart] at hremove
  split at hremove
  · cases hremove
  · obtain rfl : _ = final := by injection hremove
    exact everyQuantity_deleteItems hopened _

end Quantities

end CartStore

end ShoppingWeb.CartService
