import ShoppingWeb.Checkout.CheckoutOrders

/-!
# The local cart

`vault_cart` in the local storage, as the catalog page, the product page and
the cart page write it.  The first two add to what is stored; the cart page
writes back what it shows.
-/

namespace ShoppingWeb.Storefront

open ShoppingWeb.Utf16
open ShoppingWeb.Binary64
open ShoppingWeb.DecimalText
open ShoppingWeb.Shared
open ShoppingWeb.Quantities
open ShoppingWeb.Checkout

/-- A product as the pages show it. -/
structure StoreProduct where
  id : ℤ
  name : JString
  price : BigDecimal
  category : JString
  imageUrl : Option JString
  deriving DecidableEq, Repr

/-- `{ ...product, quantity }` -/
structure CartEntry where
  product : StoreProduct
  quantity : ℤ
  deriving DecidableEq, Repr

namespace CartEntry

def id (item : CartEntry) : ℤ := item.product.id

def localItem (item : CartEntry) : LocalItem := ⟨item.id, item.product.price, item.quantity⟩

def entry (item : CartEntry) : ℤ × ℤ := (item.id, item.quantity)

@[simp]
theorem entry_localItem (item : CartEntry) : item.localItem.entry = item.entry := rfl

end CartEntry

/-- How many units of a product a cart lists. -/
def quantityOf (cart : List CartEntry) (id : ℤ) : ℤ := amountOf (cart.map CartEntry.entry) id

/-- `savedCart ? JSON.parse(savedCart) : []` -/
def parsed (vault_cart : Option (List CartEntry)) : List CartEntry := vault_cart.getD []

/-- The sum that the cart page and the checkout page show, in JavaScript numbers. -/
def sumOf (cart : List CartEntry) : Number := totalOf (cart.map CartEntry.localItem)

/-- The cart that both `addToCart` handlers store. -/
def addToCart (product : StoreProduct) (quantity : ℤ) (currentCart : List CartEntry) :
    List CartEntry :=
  match currentCart.findIdx? fun item => item.id == product.id with
  | some position =>
      currentCart.modify position fun existing =>
        { existing with quantity := existing.quantity + quantity }
  | none => currentCart ++ [⟨product, quantity⟩]

/-- The product page; there is no product while it is loading. -/
structure ProductPage where
  product : Option StoreProduct
  quantity : ℤ
  cartCount : ℕ
  deriving DecidableEq, Repr

namespace ProductPage

def mount (vault_cart : Option (List CartEntry)) : ProductPage :=
  ⟨none, 1, (parsed vault_cart).length⟩

/-- The button `-`. -/
def less (page : ProductPage) : ProductPage := { page with quantity := max 1 (page.quantity - 1) }

/-- The button `+`. -/
def more (page : ProductPage) : ProductPage := { page with quantity := page.quantity + 1 }

end ProductPage

structure CartPage where
  cartItems : List CartEntry
  total : Number
  deriving DecidableEq

namespace CartPage

def mount (vault_cart : Option (List CartEntry)) : CartPage :=
  match vault_cart with
  | none => ⟨[], some 0⟩
  | some parsedCart => ⟨parsedCart, sumOf parsedCart⟩

def removeItem (id : ℤ) (page : CartPage) : CartPage :=
  let newCart := page.cartItems.filter fun item => item.id != id
  ⟨newCart, sumOf newCart⟩

def setQuantity (id newQty : ℤ) (item : CartEntry) : CartEntry :=
  if item.id = id then { item with quantity := newQty } else item

/-- `none` when the handler returns at once. -/
def updateQuantity (id newQty : ℤ) (page : CartPage) : Option CartPage :=
  if newQty < 1 then none
  else
    let newCart := page.cartItems.map (setQuantity id newQty)
    some ⟨newCart, sumOf newCart⟩

end CartPage

/-- The buttons beside an item of the cart page. -/
inductive CartButton where
  | minus
  | plus
  | remove
  deriving DecidableEq, Repr

/-- The handler of a button of an item. -/
def CartPage.press (page : CartPage) (item : CartEntry) : CartButton → Option CartPage
  | .minus => page.updateQuantity item.id (item.quantity - 1)
  | .plus => page.updateQuantity item.id (item.quantity + 1)
  | .remove => some (page.removeItem item.id)

/-- Distinct products, at least one unit of each. -/
structure SoundCart (cart : List CartEntry) : Prop where
  nodup : (cart.map CartEntry.id).Nodup
  positive : ∀ item ∈ cart, 1 ≤ item.quantity

theorem soundCart_nil : SoundCart [] := ⟨List.nodup_nil, fun _ hmem => by cases hmem⟩

@[simp]
theorem quantityOf_nil (id : ℤ) : quantityOf [] id = 0 := rfl

theorem quantityOf_cons (item : CartEntry) (cart : List CartEntry) (id : ℤ) :
    quantityOf (item :: cart) id = (if item.id = id then item.quantity else 0) +
      quantityOf cart id :=
  amountOf_cons item.entry (cart.map CartEntry.entry) id

theorem quantityOf_eq_zero {cart : List CartEntry} {id : ℤ}
    (habsent : id ∉ cart.map CartEntry.id) : quantityOf cart id = 0 := by
  apply amountOf_eq_zero
  rwa [List.map_map]

/-- The entry of a product in a cart of distinct products is all there is of it. -/
theorem quantityOf_of_mem {cart : List CartEntry} (hnodup : (cart.map CartEntry.id).Nodup)
    {item : CartEntry} (hmem : item ∈ cart) : quantityOf cart item.id = item.quantity := by
  induction cart with
  | nil => cases hmem
  | cons first cart ih =>
      obtain ⟨hfirst, hrest⟩ := List.nodup_cons.mp hnodup
      rw [quantityOf_cons]
      rcases List.mem_cons.mp hmem with rfl | hlater
      · rw [if_pos rfl, quantityOf_eq_zero hfirst, add_zero]
      · have hne : first.id ≠ item.id := by
          intro heq
          exact hfirst (heq ▸ List.mem_map_of_mem hlater)
        rw [if_neg hne, zero_add, ih hrest hlater]

theorem addToCart_nil (product : StoreProduct) (quantity : ℤ) :
    addToCart product quantity [] = [⟨product, quantity⟩] := rfl

theorem addToCart_cons (product : StoreProduct) (quantity : ℤ) (item : CartEntry)
    (cart : List CartEntry) :
    addToCart product quantity (item :: cart) =
      if item.id = product.id then { item with quantity := item.quantity + quantity } :: cart
      else item :: addToCart product quantity cart := by
  rw [addToCart, List.findIdx?_cons]
  by_cases hid : item.id = product.id
  · simp [hid]
  · simp only [beq_iff_eq, hid, if_false, addToCart]
    cases cart.findIdx? fun item => item.id == product.id with
    | none => rfl
    | some position => rfl

/-- Adding goes to the entry of the product, or makes one. -/
theorem map_entry_addToCart (product : StoreProduct) (quantity : ℤ) (cart : List CartEntry) :
    (addToCart product quantity cart).map CartEntry.entry =
      addTo (cart.map CartEntry.entry) product.id quantity := by
  induction cart with
  | nil => rfl
  | cons item cart ih =>
      have hkey : item.entry.1 = item.id := rfl
      rw [addToCart_cons, List.map_cons, addTo, hkey]
      split
      · rfl
      · rw [List.map_cons, ih]

theorem mem_ids_addToCart {product : StoreProduct} {quantity : ℤ} {cart : List CartEntry}
    {id : ℤ} :
    id ∈ (addToCart product quantity cart).map CartEntry.id ↔
      id ∈ cart.map CartEntry.id ∨ id = product.id := by
  induction cart with
  | nil => simp [addToCart_nil, CartEntry.id]
  | cons item cart ih =>
      rw [addToCart_cons]
      split
      · rename_i hid
        simp only [List.map_cons, List.mem_cons]
        constructor
        · exact Or.inl
        · rintro (hmem | rfl)
          · exact hmem
          · exact Or.inl hid.symm
      · simp only [List.map_cons, List.mem_cons, ih, or_assoc]

theorem soundCart_addToCart {product : StoreProduct} {quantity : ℤ} {cart : List CartEntry}
    (hsound : SoundCart cart) (hquantity : 1 ≤ quantity) :
    SoundCart (addToCart product quantity cart) := by
  induction cart with
  | nil => exact ⟨by simp [addToCart_nil], by simpa [addToCart_nil] using hquantity⟩
  | cons item cart ih =>
      obtain ⟨hitem, hrest⟩ := List.nodup_cons.mp hsound.nodup
      obtain ⟨hpositive, hpositives⟩ := List.forall_mem_cons.mp hsound.positive
      rw [addToCart_cons]
      split
      · refine ⟨hsound.nodup, List.forall_mem_cons.mpr ⟨?_, hpositives⟩⟩
        exact le_trans hquantity (by simpa using (by omega : 0 ≤ item.quantity))
      · rename_i hid
        obtain ⟨hnodup, hadded⟩ := ih ⟨hrest, hpositives⟩
        constructor
        · refine List.nodup_cons.mpr ⟨?_, hnodup⟩
          rw [mem_ids_addToCart, not_or]
          exact ⟨hitem, hid⟩
        · exact List.forall_mem_cons.mpr ⟨hpositive, hadded⟩

theorem quantityOf_addToCart (product : StoreProduct) (quantity : ℤ) (cart : List CartEntry)
    (other : ℤ) :
    quantityOf (addToCart product quantity cart) other =
      quantityOf cart other + if product.id = other then quantity else 0 := by
  have hzero : id (0 : ℤ) = 0 := rfl
  have hmoved := amountOf_addTo hzero (cart.map CartEntry.entry) product.id other quantity
  simp only [Prod.map_id, List.map_id, id_eq, firstOf_addTo] at hmoved
  rw [quantityOf, quantityOf, map_entry_addToCart]
  omega

theorem quantityOf_removeItem (cart : List CartEntry) (removed id : ℤ) :
    quantityOf (cart.filter fun item => item.id != removed) id =
      if id = removed then 0 else quantityOf cart id := by
  induction cart with
  | nil => simp
  | cons item cart ih =>
      rw [List.filter_cons]
      by_cases hremoved : item.id = removed
      · rw [if_neg (by simpa using hremoved), ih, quantityOf_cons, hremoved]
        split
        · rfl
        · rename_i hid
          rw [if_neg (Ne.symm hid), zero_add]
      · rw [if_pos (by simpa using hremoved), quantityOf_cons, quantityOf_cons, ih]
        by_cases hid : id = removed
        · rw [if_pos hid, if_pos hid, hid, if_neg hremoved, add_zero]
        · rw [if_neg hid, if_neg hid]

@[simp]
theorem id_setQuantity (id newQty : ℤ) (item : CartEntry) :
    (CartPage.setQuantity id newQty item).id = item.id := by
  rw [CartPage.setQuantity]
  split
  · rfl
  · rfl

theorem map_id_setQuantity (id newQty : ℤ) (cart : List CartEntry) :
    (cart.map (CartPage.setQuantity id newQty)).map CartEntry.id = cart.map CartEntry.id := by
  rw [List.map_map]
  exact List.map_congr_left fun item _ => id_setQuantity id newQty item

theorem quantityOf_setQuantity {cart : List CartEntry} (hnodup : (cart.map CartEntry.id).Nodup)
    {item : CartEntry} (hmem : item ∈ cart) (newQty id : ℤ) :
    quantityOf (cart.map (CartPage.setQuantity item.id newQty)) id =
      if id = item.id then newQty else quantityOf cart id := by
  have hnodup' : ((cart.map (CartPage.setQuantity item.id newQty)).map CartEntry.id).Nodup := by
    rwa [map_id_setQuantity]
  split
  · rename_i hid
    have hset := quantityOf_of_mem hnodup'
      (List.mem_map_of_mem (f := CartPage.setQuantity item.id newQty) hmem)
    rw [id_setQuantity] at hset
    rw [hid, hset, CartPage.setQuantity, if_pos rfl]
  · rename_i hid
    by_cases hlisted : id ∈ cart.map CartEntry.id
    · obtain ⟨other, hother, rfl⟩ := List.mem_map.mp hlisted
      have hset := quantityOf_of_mem hnodup'
        (List.mem_map_of_mem (f := CartPage.setQuantity item.id newQty) hother)
      rw [id_setQuantity] at hset
      rw [hset, CartPage.setQuantity, if_neg hid, quantityOf_of_mem hnodup hother]
    · rw [quantityOf_eq_zero hlisted, quantityOf_eq_zero]
      rwa [map_id_setQuantity]

/-- What a button asks the quantity of its item to be; `none` for nothing. -/
def CartButton.asked (item : CartEntry) : CartButton → Option ℤ
  | .minus => if item.quantity - 1 < 1 then none else some (item.quantity - 1)
  | .plus => if item.quantity + 1 < 1 then none else some (item.quantity + 1)
  | .remove => some 0

theorem press_eq_none_iff {page : CartPage} {item : CartEntry} {button : CartButton} :
    page.press item button = none ↔ button.asked item = none := by
  cases button with
  | minus => simp [CartPage.press, CartPage.updateQuantity, CartButton.asked]
  | plus => simp [CartPage.press, CartPage.updateQuantity, CartButton.asked]
  | remove => simp [CartPage.press, CartButton.asked]

/-- A button of the cart page: the page after it sets the quantity of its item
and shows the sum of what it shows. -/
theorem press_eq_some {page next : CartPage} {item : CartEntry} {button : CartButton}
    (hsound : SoundCart page.cartItems) (hmem : item ∈ page.cartItems)
    (hpress : page.press item button = some next) :
    ∃ asked, button.asked item = some asked ∧ SoundCart next.cartItems ∧
      next.total = sumOf next.cartItems ∧
      (∀ id, quantityOf next.cartItems id =
        if id = item.id then asked else quantityOf page.cartItems id) ∧
      ∀ left ∈ next.cartItems, ∃ old ∈ page.cartItems, left.product = old.product := by
  have hset : ∀ newQty, page.updateQuantity item.id newQty = some next →
      1 ≤ newQty ∧ SoundCart next.cartItems ∧ next.total = sumOf next.cartItems ∧
        (∀ id, quantityOf next.cartItems id =
          if id = item.id then newQty else quantityOf page.cartItems id) ∧
        ∀ left ∈ next.cartItems, ∃ old ∈ page.cartItems, left.product = old.product := by
    intro newQty hupdate
    simp only [CartPage.updateQuantity, Option.ite_none_left_eq_some, Option.some.injEq,
      not_lt] at hupdate
    obtain ⟨hpositive, rfl⟩ := hupdate
    refine ⟨hpositive, ⟨?_, ?_⟩, rfl, ?_, ?_⟩
    · simpa only [map_id_setQuantity] using hsound.nodup
    · intro changed hchanged
      obtain ⟨old, hold, rfl⟩ := List.mem_map.mp hchanged
      rw [CartPage.setQuantity]
      split
      · exact hpositive
      · exact hsound.positive old hold
    · exact quantityOf_setQuantity hsound.nodup hmem newQty
    · intro changed hchanged
      obtain ⟨old, hold, rfl⟩ := List.mem_map.mp hchanged
      refine ⟨old, hold, ?_⟩
      rw [CartPage.setQuantity]
      split
      · rfl
      · rfl
  cases button with
  | minus =>
      obtain ⟨hpositive, hrest⟩ := hset _ hpress
      exact ⟨_, if_neg (not_lt.mpr hpositive), hrest⟩
  | plus =>
      obtain ⟨hpositive, hrest⟩ := hset _ hpress
      exact ⟨_, if_neg (not_lt.mpr hpositive), hrest⟩
  | remove =>
      obtain rfl := Option.some.inj hpress
      refine ⟨0, rfl, ⟨?_, ?_⟩, rfl, ?_, ?_⟩
      · exact hsound.nodup.sublist (List.filter_sublist.map CartEntry.id)
      · intro left hleft
        exact hsound.positive left (List.mem_filter.mp hleft).1
      · exact quantityOf_removeItem page.cartItems item.id
      · intro left hleft
        exact ⟨left, (List.mem_filter.mp hleft).1, rfl⟩

end ShoppingWeb.Storefront
