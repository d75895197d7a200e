import ShoppingWeb.Lib.Quantities
import ShoppingWeb.Cart.CartUnits

/-!
# What a cart holds

The content of a user's cart, as a list of products with 32-bit quantities.
On contents, `addItemToCart` adds to the first entry of the product.  What a
series of additions leaves is then known up to the units that wrapping around
at 32 bits drops.
-/

namespace ShoppingWeb.CartService

open ShoppingWeb.Utf16
open ShoppingWeb.Quantities

instance addCommMonoidInt32 : AddCommMonoid Int32 where
  add_assoc := Int32.add_assoc
  zero_add := Int32.zero_add
  add_zero := Int32.add_zero
  add_comm := Int32.add_comm
  nsmul := nsmulRec

def CartItem.entry (item : CartItem) : ℤ × Int32 := (item.productId, item.quantity)

namespace CartStore

def contents (store : CartStore) (userId : JString) : List (ℤ × Int32) :=
  (store.linesOf userId).map CartItem.entry

/-- Setting the quantity of the first item of a product. -/
theorem map_entry_setQuantity {items : List CartItem} {productId : ℤ} {item : CartItem}
    (hids : (items.map CartItem.id).Nodup)
    (hfound : items.find? (fun item => item.productId == productId) = some item)
    (quantity : Int32) :
    (items.map fun other =>
        if other.id = item.id then { other with quantity := item.quantity + quantity }
        else other).map CartItem.entry =
      addTo (items.map CartItem.entry) productId quantity := by
  induction items with
  | nil => cases hfound
  | cons first items ih =>
      obtain ⟨hfirst, hrest⟩ := List.nodup_cons.mp hids
      rw [List.find?_cons] at hfound
      split at hfound
      · rename_i hproduct
        obtain rfl := Option.some.inj hfound
        have hother : ∀ other ∈ items, other.id ≠ first.id := by
          intro other hother heq
          exact hfirst (heq ▸ List.mem_map_of_mem hother)
        simp only [List.map_cons, if_true, addTo, CartItem.entry, beq_iff_eq.mp hproduct]
        congr 1
        rw [List.map_map]
        apply List.map_congr_left
        intro other hmem
        simp only [Function.comp_apply, if_neg (hother other hmem), CartItem.entry]
      · rename_i hproduct
        have hne : first.productId ≠ productId := by simpa using hproduct
        have hid : first.id ≠ item.id := by
          intro heq
          exact hfirst (heq ▸ List.mem_map_of_mem (List.mem_of_find?_eq_some hfound))
        simp only [List.map_cons, if_neg hid, addTo, CartItem.entry, if_neg hne]
        congr 1
        exact ih hrest hfound

theorem addTo_of_find?_eq_none {items : List CartItem} {productId : ℤ}
    (hnone : items.find? (fun item => item.productId == productId) = none) (quantity : Int32) :
    addTo (items.map CartItem.entry) productId quantity =
      items.map CartItem.entry ++ [(productId, quantity)] := by
  induction items with
  | nil => rfl
  | cons first items ih =>
      rw [List.find?_cons] at hnone
      split at hnone
      · cases hnone
      · rename_i hproduct
        have hne : first.productId ≠ productId := by simpa using hproduct
        simp only [List.map_cons, List.cons_append, addTo, CartItem.entry, if_neg hne]
        congr 1
        exact ih hnone

/-- Adding an item adds to the content. -/
theorem contents_addItemToCart (store : CartStore) (userId : JString) (productId : ℤ)
    (quantity : Int32) :
    (store.addItemToCart userId productId quantity).contents userId =
      addTo (store.contents userId) productId quantity := by
  -- Both branches keep the carts, so the user finds the items of the opened cart.
  have hfinal : ∀ final : CartStore, final.carts = (store.getOrCreateCart userId).store.carts →
      final.contents userId =
        (final.itemsOf (store.getOrCreateCart userId).cart).map CartItem.entry := by
    intro final hcarts
    rw [contents, linesOf_final hcarts]
  have hopened : store.contents userId =
      (store.getOrCreateCart userId).items.map CartItem.entry := by
    rw [items_opened, contents]
  rw [hopened, addItemToCart]
  cases hfound : (store.getOrCreateCart userId).items.find?
      (fun item => item.productId == productId) with
  | none =>
      simp only
      rw [addTo_of_find?_eq_none hfound, hfinal (OpenCart.addItem _ productId quantity) rfl]
      simp [OpenCart.addItem, OpenCart.items, itemsOf, Keyed.withKey, CartItem.entry]
  | some item =>
      have hids : ((store.getOrCreateCart userId).items.map CartItem.id).Nodup :=
        (store.getOrCreateCart userId).store.items.keys_nodup.sublist
          (List.filter_sublist.map CartItem.id)
      simp only
      rw [← map_entry_setQuantity hids hfound quantity, hfinal (setQuantity _ item.id _) rfl]
      congr 1
      simp only [setQuantity, itemsOf, Table.update, OpenCart.items, List.filter_map]
      congr 1
      apply List.filter_congr
      intro other _
      simp only [Function.comp_apply]
      split
      · rfl
      · rfl

end CartStore

end ShoppingWeb.CartService
