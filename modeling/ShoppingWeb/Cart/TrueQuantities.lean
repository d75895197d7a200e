import ShoppingWeb.Cart.CartTransactions
import ShoppingWeb.Lib.TransitionSystem

/-!
# Stored and true quantities

A ledger keeps, for every product, the quantity it was last set to and the
quantities added since, as unbounded integers.  The stored quantity is their
sum as long as no addition goes past 32 bits.
-/

namespace ShoppingWeb.CartService

open ShoppingWeb.Utf16
open ShoppingWeb.Shared
open ShoppingWeb.TransitionSystem

/-- What was done about a product since it entered the cart. -/
structure ProductLedger where
  lastSet : ℤ
  added : List ℤ
  deriving DecidableEq

namespace ProductLedger

def blank : ProductLedger := ⟨0, []⟩

def add (ledger : ProductLedger) (quantity : ℤ) : ProductLedger :=
  { ledger with added := ledger.added ++ [quantity] }

def setTo (quantity : ℤ) : ProductLedger := ⟨quantity, []⟩

def total (ledger : ProductLedger) : ℤ := ledger.lastSet + ledger.added.sum

@[simp]
theorem total_blank : blank.total = 0 := rfl

@[simp]
theorem total_add (ledger : ProductLedger) (quantity : ℤ) :
    (ledger.add quantity).total = ledger.total + quantity := by
  simp [total, add, add_assoc]

@[simp]
theorem total_setTo (quantity : ℤ) : (setTo quantity).total = quantity := add_zero quantity

end ProductLedger

abbrev CartLedger := ℤ → ProductLedger

/-- Every item has the quantity that the ledger sums up to. -/
def TrueSums (items : List CartItem) (ledger : CartLedger) : Prop :=
  ∀ item ∈ items, item.quantity.toInt = (ledger item.productId).total

/-- Products that are not in the cart have a blank ledger. -/
structure LedgerFits (items : List CartItem) (ledger : CartLedger) : Prop where
  blank_of_absent : ∀ productId, (∀ item ∈ items, item.productId ≠ productId) →
    ledger productId = .blank
  total_nonneg : ∀ productId, 0 ≤ (ledger productId).total

/-- The items of a cart, each with its own id and product. -/
structure DistinctItems (items : List CartItem) : Prop where
  ids : (items.map CartItem.id).Nodup
  products : (items.map CartItem.productId).Nodup

section Items

variable {items : List CartItem} {ledger : CartLedger} {item other : CartItem}

theorem DistinctItems.productId_eq_iff (hdistinct : DistinctItems items) (hitem : item ∈ items)
    (hother : other ∈ items) : other.productId = item.productId ↔ other.id = item.id := by
  constructor
  · intro hproduct
    exact congrArg CartItem.id (List.inj_on_of_nodup_map hdistinct.products hother hitem hproduct)
  · intro hid
    exact congrArg CartItem.productId (List.inj_on_of_nodup_map hdistinct.ids hother hitem hid)

/-- After an item is set, the sums are true exactly when its new quantity is. -/
theorem trueSums_setIn_iff (hdistinct : DistinctItems items) (hsums : TrueSums items ledger)
    (hitem : item ∈ items) (quantity : Int32) (entry : ProductLedger) :
    TrueSums (items.map (OpenCart.setIn item.id quantity))
        (Function.update ledger item.productId entry) ↔
      quantity.toInt = entry.total := by
  constructor
  · intro htrue
    have hset := htrue _ (List.mem_map_of_mem hitem)
    simpa [OpenCart.setIn] using hset
  · intro hquantity other hother
    obtain ⟨old, hold, rfl⟩ := List.mem_map.mp hother
    have hproduct := hdistinct.productId_eq_iff hitem hold
    rw [OpenCart.setIn_productId]
    by_cases hid : old.id = item.id
    · rw [hproduct.mpr hid, Function.update_self, OpenCart.setIn, if_pos hid]
      exact hquantity
    · rw [Function.update_of_ne (mt hproduct.mp hid), OpenCart.setIn, if_neg hid]
      exact hsums old hold

theorem LedgerFits.total_update_nonneg (hfits : LedgerFits items ledger) {changed : ℤ}
    {entry : ProductLedger} (hentry : 0 ≤ entry.total) (productId : ℤ) :
    0 ≤ (Function.update ledger changed entry productId).total := by
  by_cases hproduct : productId = changed
  · rw [hproduct, Function.update_self]
    exact hentry
  · rw [Function.update_of_ne hproduct]
    exact hfits.total_nonneg productId

theorem ledgerFits_setIn (hfits : LedgerFits items ledger) (hitem : item ∈ items)
    (quantity : Int32) {entry : ProductLedger} (hentry : 0 ≤ entry.total) :
    LedgerFits (items.map (OpenCart.setIn item.id quantity))
      (Function.update ledger item.productId entry) where
  blank_of_absent productId habsent := by
    have hold : ∀ other ∈ items, other.productId ≠ productId := by
      intro other hother
      have hset := habsent _ (List.mem_map_of_mem hother)
      rwa [OpenCart.setIn_productId] at hset
    rw [Function.update_of_ne (hold item hitem).symm]
    exact hfits.blank_of_absent productId hold
  total_nonneg := hfits.total_update_nonneg hentry

/-- An item that leaves takes its ledger with it. -/
theorem trueSums_remove (hdistinct : DistinctItems items) (hsums : TrueSums items ledger)
    (hitem : item ∈ items) :
    TrueSums (items.filter fun other => !(other.id == item.id))
      (Function.update ledger item.productId .blank) := by
  intro other hother
  obtain ⟨hold, hid⟩ := List.mem_filter.mp hother
  have hne : other.id ≠ item.id := by simpa using hid
  rw [Function.update_of_ne (mt (hdistinct.productId_eq_iff hitem hold).mp hne)]
  exact hsums other hold

theorem ledgerFits_remove (hdistinct : DistinctItems items) (hfits : LedgerFits items ledger)
    (hitem : item ∈ items) :
    LedgerFits (items.filter fun other => !(other.id == item.id))
      (Function.update ledger item.productId .blank) where
  blank_of_absent productId habsent := by
    by_cases hproduct : productId = item.productId
    · rw [hproduct, Function.update_self]
    · rw [Function.update_of_ne hproduct]
      apply hfits.blank_of_absent
      intro other hother hsame
      have hid : other.id ≠ item.id :=
        fun hid => hproduct (hsame ▸ (hdistinct.productId_eq_iff hitem hother).mpr hid)
      exact habsent other (List.mem_filter.mpr ⟨hother, by simpa using hid⟩) hsame
  total_nonneg := hfits.total_update_nonneg (le_of_eq ProductLedger.total_blank.symm)

/-- A new item starts with the quantity that is added. -/
theorem trueSums_insert (hfits : LedgerFits items ledger) (hsums : TrueSums items ledger)
    (hnew : ∀ old ∈ items, old.productId ≠ item.productId) :
    TrueSums (items ++ [item])
      (Function.update ledger item.productId
        ((ledger item.productId).add item.quantity.toInt)) := by
  intro other hother
  rcases List.mem_append.mp hother with hold | hadded
  · rw [Function.update_of_ne (hnew other hold)]
    exact hsums other hold
  · rw [List.mem_singleton.mp hadded, Function.update_self, ProductLedger.total_add,
      hfits.blank_of_absent _ hnew, ProductLedger.total_blank, zero_add]

theorem ledgerFits_insert (hfits : LedgerFits items ledger) (hquantity : 0 ≤ item.quantity.toInt) :
    LedgerFits (items ++ [item])
      (Function.update ledger item.productId
        ((ledger item.productId).add item.quantity.toInt)) where
  blank_of_absent productId habsent := by
    have hproduct := habsent item (List.mem_append_right _ (List.mem_singleton.mpr rfl))
    rw [Function.update_of_ne hproduct.symm]
    exact hfits.blank_of_absent productId
      fun other hother => habsent other (List.mem_append_left _ hother)
  total_nonneg := by
    apply hfits.total_update_nonneg
    rw [ProductLedger.total_add]
    exact add_nonneg (hfits.total_nonneg item.productId) hquantity

end Items

/-! ## What the operations do to the items -/

namespace CartStore

section Operations

variable (store : CartStore) (userId : JString)

theorem linesOf_setQuantity (itemId : ℤ) (quantity : Int32) :
    ((store.getOrCreateCart userId).store.setQuantity itemId quantity).linesOf userId =
      (store.linesOf userId).map (OpenCart.setIn itemId quantity) := by
  have hcarts : ((store.getOrCreateCart userId).store.setQuantity itemId quantity).carts =
      (store.getOrCreateCart userId).store.carts := rfl
  rw [linesOf_final hcarts, ← items_opened, ← OpenCart.items_setRow]
  rfl

theorem linesOf_removeItem (itemId : ℤ) :
    ((store.getOrCreateCart userId).store.removeItem itemId).linesOf userId =
      (store.linesOf userId).filter fun item => !(item.id == itemId) := by
  have hcarts : ((store.getOrCreateCart userId).store.removeItem itemId).carts =
      (store.getOrCreateCart userId).store.carts := rfl
  rw [linesOf_final hcarts, ← items_opened]
  simp only [removeItem, deleteItems, itemsOf, OpenCart.items, Table.rows_deleteWhere,
    List.filter_filter, Bool.and_comm]

theorem linesOf_addItemToCart_of_some {productId : ℤ} {item : CartItem}
    (hfound : (store.linesOf userId).find? (fun item => item.productId == productId) = some item)
    (quantity : Int32) :
    (store.addItemToCart userId productId quantity).linesOf userId =
      (store.linesOf userId).map (OpenCart.setIn item.id (item.quantity + quantity)) := by
  rw [← items_opened] at hfound
  simp only [addItemToCart, hfound]
  exact linesOf_setQuantity store userId item.id _

theorem linesOf_addItemToCart_of_none {productId : ℤ}
    (hnone : (store.linesOf userId).find? (fun item => item.productId == productId) = none)
    (quantity : Int32) :
    ∃ id cartId, (store.addItemToCart userId productId quantity).linesOf userId =
      store.linesOf userId ++ [⟨id, cartId, productId, quantity⟩] := by
  rw [← items_opened] at hnone
  have hcarts : ((store.getOrCreateCart userId).addItem productId quantity).carts =
      (store.getOrCreateCart userId).store.carts := rfl
  simp only [addItemToCart, hnone]
  rw [linesOf_final hcarts, ← items_opened]
  exact ⟨_, _, OpenCart.items_insertRow productId quantity⟩

theorem linesOf_updateItemQuantity {itemId : ℤ} {quantity : Int32} {item : CartItem}
    (hfind : (store.getOrCreateCart userId).findItem itemId = .ok item) :
    ∃ final, store.updateItemQuantity userId itemId quantity = .ok final ∧
      final.linesOf userId =
        if quantity ≤ 0 then (store.linesOf userId).filter fun other => !(other.id == item.id)
        else (store.linesOf userId).map (OpenCart.setIn item.id quantity) := by
  simp only [updateItemQuantity, hfind]
  split_ifs
  · exact ⟨_, rfl, linesOf_removeItem store userId item.id⟩
  · exact ⟨_, rfl, linesOf_setQuantity store userId item.id quantity⟩

theorem linesOf_removeItemFromCart {itemId : ℤ} {item : CartItem}
    (hfind : (store.getOrCreateCart userId).findItem itemId = .ok item) :
    ∃ final, store.removeItemFromCart userId itemId = .ok final ∧
      final.linesOf userId =
        (store.linesOf userId).filter fun other => !(other.id == item.id) := by
  simp only [removeItemFromCart, hfind]
  exact ⟨_, rfl, linesOf_removeItem store userId item.id⟩

end Operations

theorem step_of_ok {store final : CartStore} {call : CartCall}
    (hreturned : call.execute store = .ok final) : store.step call = final := by
  rw [step, hreturned]

/-- A call that throws leaves every cart as it is. -/
theorem linesOf_step_of_error {store : CartStore} {call : CartCall}
    {exception : ServiceException} (hthrown : call.execute store = .error exception)
    (userId : JString) : (store.step call).linesOf userId = store.linesOf userId := by
  rw [step, hthrown]
  rfl

/-- In a well-formed store the items of a cart are distinct. -/
theorem distinctItems_linesOf {store : CartStore} (hstore : store.WellFormed)
    (userId : JString) : DistinctItems (store.linesOf userId) := by
  rw [linesOf]
  split
  · exact ⟨List.nodup_nil, List.nodup_nil⟩
  · rename_i cart _
    have hrows : List.Sublist (store.itemsOf cart) store.items.rows := List.filter_sublist
    constructor
    · exact store.items.keys_nodup.sublist (hrows.map CartItem.id)
    · have hpairs : (store.itemsOf cart).map (fun item => (item.cartId, item.productId)) =
          ((store.itemsOf cart).map CartItem.productId).map fun productId =>
            (cart.id, productId) := by
        rw [List.map_map]
        apply List.map_congr_left
        intro item hitem
        have hcart : item.cartId = cart.id := by simpa using (List.mem_filter.mp hitem).2
        simp [hcart]
      have hdistinct := hstore.products_distinct.sublist
        (hrows.map fun item => (item.cartId, item.productId))
      rw [hpairs] at hdistinct
      exact hdistinct.of_map _

end CartStore

/-- The ledger after an operation.  One that throws changes nothing. -/
def ledgerAfter (store : CartStore) (userId : JString) (ledger : CartLedger) :
    CartOperation → CartLedger
  | .addItemToCart (some productId) (some quantity) =>
      Function.update ledger productId ((ledger productId).add quantity.toInt)
  | .updateItemQuantity (some itemId) (some quantity) =>
      match (store.getOrCreateCart userId).findItem itemId with
      | .ok item =>
          Function.update ledger item.productId
            (if quantity ≤ 0 then .blank else .setTo quantity.toInt)
      | .error _ => ledger
  | .removeItemFromCart (some itemId) =>
      match (store.getOrCreateCart userId).findItem itemId with
      | .ok item => Function.update ledger item.productId .blank
      | .error _ => ledger
  | .clearCart => fun _ => .blank
  | _ => ledger

/-- What an addition is added to, and what is added. -/
def CartOperation.addition (store : CartStore) (userId : JString) :
    CartOperation → Option (Int32 × Int32)
  | .addItemToCart (some productId) (some quantity) =>
      some (store.existingQuantity userId productId, quantity)
  | _ => none

/-- What an operation does to the items of the cart and to the ledger; `addition`
is what it adds. -/
inductive CartEffect (items : List CartItem) (ledger : CartLedger) :
    Option (Int32 × Int32) → List CartItem → CartLedger → Prop
  | nothing : CartEffect items ledger none items ledger
  | insert (item : CartItem) (hnew : ∀ old ∈ items, old.productId ≠ item.productId) :
      CartEffect items ledger (some (0, item.quantity)) (items ++ [item])
        (Function.update ledger item.productId
          ((ledger item.productId).add item.quantity.toInt))
  | add (item : CartItem) (quantity : Int32) (hitem : item ∈ items) :
      CartEffect items ledger (some (item.quantity, quantity))
        (items.map (OpenCart.setIn item.id (item.quantity + quantity)))
        (Function.update ledger item.productId ((ledger item.productId).add quantity.toInt))
  | set (item : CartItem) (quantity : Int32) (hitem : item ∈ items) (hquantity : 0 < quantity) :
      CartEffect items ledger none (items.map (OpenCart.setIn item.id quantity))
        (Function.update ledger item.productId (.setTo quantity.toInt))
  | remove (item : CartItem) (hitem : item ∈ items) :
      CartEffect items ledger none (items.filter fun other => !(other.id == item.id))
        (Function.update ledger item.productId .blank)
  | clear : CartEffect items ledger none [] fun _ => .blank

section Effects

variable (store : CartStore) (userId : JString) (ledger : CartLedger)

theorem cartEffect_addItemToCart (productId : ℤ) (quantity : Int32) :
    CartEffect (store.linesOf userId) ledger
      (some (store.existingQuantity userId productId, quantity))
      ((store.addItemToCart userId productId quantity).linesOf userId)
      (Function.update ledger productId ((ledger productId).add quantity.toInt)) := by
  cases hfound : (store.linesOf userId).find? fun item => item.productId == productId with
  | some item =>
      have hproduct : item.productId = productId := by simpa using List.find?_some hfound
      simp only [CartStore.existingQuantity, hfound]
      rw [store.linesOf_addItemToCart_of_some userId hfound, ← hproduct]
      exact CartEffect.add item quantity (List.mem_of_find?_eq_some hfound)
  | none =>
      obtain ⟨id, cartId, hlines⟩ := store.linesOf_addItemToCart_of_none userId hfound quantity
      simp only [CartStore.existingQuantity, hfound]
      rw [hlines]
      apply CartEffect.insert ⟨id, cartId, productId, quantity⟩
      intro old hold
      simpa using List.find?_eq_none.mp hfound old hold

/-- A call that throws has no effect. -/
theorem cartEffect_of_error {call : CartCall} {exception : ServiceException}
    (hthrown : call.execute store = .error exception) :
    CartEffect (store.linesOf userId) ledger none ((store.step call).linesOf userId) ledger := by
  rw [CartStore.linesOf_step_of_error hthrown]
  exact CartEffect.nothing

theorem cartEffect_updateItemQuantity (itemId : ℤ) (amount : Option Int32) :
    CartEffect (store.linesOf userId) ledger none
      ((store.step (.updateItemQuantity (some userId) (some itemId) amount)).linesOf userId)
      (ledgerAfter store userId ledger (.updateItemQuantity (some itemId) amount)) := by
  have hexecute : CartCall.execute store (.updateItemQuantity (some userId) (some itemId) amount) =
      (store.getOrCreateCart userId).findItem itemId >>= fun _ =>
        nonNull amount >>= fun quantity => store.updateItemQuantity userId itemId quantity := rfl
  cases hfind : (store.getOrCreateCart userId).findItem itemId with
  | error exception =>
      rw [hfind] at hexecute
      have hledger : ledgerAfter store userId ledger
          (.updateItemQuantity (some itemId) amount) = ledger := by
        cases amount <;> simp only [ledgerAfter, hfind]
      rw [hledger]
      exact cartEffect_of_error store userId ledger hexecute
  | ok item =>
      rw [hfind] at hexecute
      cases amount with
      | none => exact cartEffect_of_error store userId ledger hexecute
      | some quantity =>
          obtain ⟨hitem, -⟩ := OpenCart.findItem_ok.mp hfind
          rw [CartStore.items_opened] at hitem
          obtain ⟨final, hupdate, hlines⟩ := store.linesOf_updateItemQuantity userId hfind
          rw [CartStore.step_of_ok (hexecute.trans hupdate), hlines]
          simp only [ledgerAfter, hfind]
          split_ifs with hquantity
          · exact CartEffect.remove item hitem
          · exact CartEffect.set item quantity hitem (Int32.not_le.mp hquantity)

theorem cartEffect_removeItemFromCart (itemId : ℤ) :
    CartEffect (store.linesOf userId) ledger none
      ((store.step (.removeItemFromCart (some userId) (some itemId))).linesOf userId)
      (ledgerAfter store userId ledger (.removeItemFromCart (some itemId))) := by
  have hexecute : CartCall.execute store (.removeItemFromCart (some userId) (some itemId)) =
      store.removeItemFromCart userId itemId := rfl
  cases hfind : (store.getOrCreateCart userId).findItem itemId with
  | error exception =>
      simp only [CartStore.removeItemFromCart, hfind] at hexecute
      simp only [ledgerAfter, hfind]
      exact cartEffect_of_error store userId ledger hexecute
  | ok item =>
      obtain ⟨hitem, -⟩ := OpenCart.findItem_ok.mp hfind
      rw [CartStore.items_opened] at hitem
      obtain ⟨final, hremove, hlines⟩ := store.linesOf_removeItemFromCart userId hfind
      rw [CartStore.step_of_ok (hexecute.trans hremove), hlines]
      simp only [ledgerAfter, hfind]
      exact CartEffect.remove item hitem

/-- Every operation has one of the effects. -/
theorem cartEffect_step (operation : CartOperation) :
    CartEffect (store.linesOf userId) ledger (operation.addition store userId)
      ((store.step (operation.call userId)).linesOf userId)
      (ledgerAfter store userId ledger operation) := by
  cases operation with
  | addItemToCart product amount =>
      cases product with
      | none => exact cartEffect_of_error store userId ledger rfl
      | some productId =>
          cases amount with
          | none => exact cartEffect_of_error store userId ledger rfl
          | some quantity => exact cartEffect_addItemToCart store userId ledger productId quantity
  | updateItemQuantity named amount =>
      cases named with
      | none => exact cartEffect_of_error store userId ledger rfl
      | some itemId => exact cartEffect_updateItemQuantity store userId ledger itemId amount
  | removeItemFromCart named =>
      cases named with
      | none => exact cartEffect_of_error store userId ledger rfl
      | some itemId => exact cartEffect_removeItemFromCart store userId ledger itemId
  | clearCart =>
      have hreturned : CartCall.execute store (CartOperation.clearCart.call userId) =
          .ok (store.clearCart userId) := rfl
      rw [CartStore.step_of_ok hreturned, CartStore.linesOf_clearCart]
      exact CartEffect.clear

end Effects

section Effect

variable {items after : List CartItem} {ledger nextLedger : CartLedger}
  {addition : Option (Int32 × Int32)}

/-- The addition, if there is one, is of a positive quantity. -/
def IsPositive (addition : Option (Int32 × Int32)) : Prop :=
  ∀ existing added, addition = some (existing, added) → 0 < added

/-- The sum of the addition, if there is one, is a 32-bit integer. -/
def FitsIn32Bits (addition : Option (Int32 × Int32)) : Prop :=
  ∀ existing added, addition = some (existing, added) → existing.toInt + added.toInt < 2 ^ 31

theorem fitsIn32Bits_some {existing added : Int32} :
    FitsIn32Bits (some (existing, added)) ↔ existing.toInt + added.toInt < 2 ^ 31 := by
  simp [FitsIn32Bits]

theorem fitsIn32Bits_none : FitsIn32Bits none := by
  intro existing added hnone
  cases hnone

theorem IsPositive.toInt_pos {existing added : Int32}
    (hpositive : IsPositive (some (existing, added))) : 0 < added.toInt :=
  Int32.lt_iff_toInt_lt.mp (hpositive existing added rfl)

/-- An addition to a quantity is exact when the sum stays below 2^31. -/
theorem toInt_add_iff {existing added : Int32} (hexisting : 0 ≤ existing.toInt)
    (hadded : 0 < added.toInt) :
    (existing + added).toInt = existing.toInt + added.toInt ↔
      existing.toInt + added.toInt < 2 ^ 31 := by
  constructor
  · intro hexact
    rw [← hexact]
    exact Int32.toInt_lt _
  · intro hfits
    exact toInt_add_of_fits (by omega) hfits

theorem ledgerFits_effect (hdistinct : DistinctItems items) (hfits : LedgerFits items ledger)
    (hpositive : IsPositive addition)
    (heffect : CartEffect items ledger addition after nextLedger) :
    LedgerFits after nextLedger := by
  cases heffect with
  | nothing => exact hfits
  | insert item hnew => exact ledgerFits_insert hfits hpositive.toInt_pos.le
  | add item quantity hitem =>
      apply ledgerFits_setIn hfits hitem
      rw [ProductLedger.total_add]
      exact add_nonneg (hfits.total_nonneg item.productId) hpositive.toInt_pos.le
  | set item quantity hitem hquantity =>
      apply ledgerFits_setIn hfits hitem
      rw [ProductLedger.total_setTo]
      exact (Int32.lt_iff_toInt_lt.mp hquantity).le
  | remove item hitem => exact ledgerFits_remove hdistinct hfits hitem
  | clear => exact ⟨fun _ _ => rfl, fun _ => le_rfl⟩

/-- The sums stay true exactly when the addition fits. -/
theorem trueSums_effect_iff (hdistinct : DistinctItems items) (hfits : LedgerFits items ledger)
    (hsums : TrueSums items ledger) (hpositive : IsPositive addition)
    (heffect : CartEffect items ledger addition after nextLedger) :
    TrueSums after nextLedger ↔ FitsIn32Bits addition := by
  cases heffect with
  | nothing => exact iff_of_true hsums fitsIn32Bits_none
  | insert item hnew =>
      refine iff_of_true (trueSums_insert hfits hsums hnew) (fitsIn32Bits_some.mpr ?_)
      have hlt := item.quantity.toInt_lt
      simpa using hlt
  | add item quantity hitem =>
      have hstored := hsums item hitem
      have hexisting : 0 ≤ item.quantity.toInt :=
        hstored.symm ▸ hfits.total_nonneg item.productId
      rw [trueSums_setIn_iff hdistinct hsums hitem, ProductLedger.total_add, ← hstored,
        toInt_add_iff hexisting hpositive.toInt_pos, fitsIn32Bits_some]
  | set item quantity hitem hquantity =>
      rw [trueSums_setIn_iff hdistinct hsums hitem]
      exact iff_of_true (ProductLedger.total_setTo _).symm fitsIn32Bits_none
  | remove item hitem =>
      exact iff_of_true (trueSums_remove hdistinct hsums hitem) fitsIn32Bits_none
  | clear => exact iff_of_true (fun _ hitem => absurd hitem List.not_mem_nil) fitsIn32Bits_none

end Effect

/-! ## Runs -/

/-- An operation of the user, or a call of another user. -/
inductive CartEvent (userId : JString) where
  | own (operation : CartOperation)
  | other (call : CartCall) (hother : call.userId ≠ some userId)

/-- The store, and the ledger of the user's cart. -/
structure CartHistory where
  store : CartStore
  ledger : CartLedger

/-- An addition that names a quantity names a positive one. -/
def CartOperation.addsPositive : CartOperation → Bool
  | .addItemToCart _ (some quantity) => decide (0 < quantity)
  | _ => true

namespace CartHistory

def initial : CartHistory := ⟨.empty, fun _ => .blank⟩

def step (userId : JString) (history : CartHistory) : CartEvent userId → Option CartHistory
  | .own operation =>
      if operation.addsPositive then
        some ⟨history.store.step (operation.call userId),
          ledgerAfter history.store userId history.ledger operation⟩
      else none
  | .other call _ => some ⟨history.store.step call, history.ledger⟩

variable {userId : JString} {history next : CartHistory} {event : CartEvent userId}

/-- The stored quantities of the user's cart are the true sums. -/
def TrueQuantities (userId : JString) (history : CartHistory) : Prop :=
  TrueSums (history.store.linesOf userId) history.ledger

/-- An addition and the quantity that is stored are together at most 2^31 - 1. -/
def AddsWithin32Bits (history : CartHistory) : CartEvent userId → Prop
  | .own operation => FitsIn32Bits (operation.addition history.store userId)
  | .other _ _ => True

structure Accounted (userId : JString) (history : CartHistory) : Prop where
  wellFormed : history.store.WellFormed
  fits : LedgerFits (history.store.linesOf userId) history.ledger

theorem isPositive_addition {operation : CartOperation} (hadds : operation.addsPositive = true) :
    IsPositive (operation.addition history.store userId) := by
  intro existing added haddition
  unfold CartOperation.addition at haddition
  split at haddition
  · obtain ⟨-, rfl⟩ := Prod.mk.inj (Option.some.inj haddition)
    exact of_decide_eq_true hadds
  · cases haddition

/-- What is not positive always fits. -/
theorem fitsIn32Bits_of_not_positive {operation : CartOperation}
    (hadds : ¬ operation.addsPositive = true) :
    FitsIn32Bits (operation.addition history.store userId) := by
  intro existing added haddition
  unfold CartOperation.addition at haddition
  split at haddition
  · rename_i productId quantity
    obtain ⟨rfl, rfl⟩ := Prod.mk.inj (Option.some.inj haddition)
    have hadded := Int32.le_iff_toInt_le.mp
      (Int32.not_lt.mp fun hpositive => hadds (decide_eq_true hpositive))
    have hlt := (history.store.existingQuantity userId productId).toInt_lt
    exact (add_le_of_nonpos_right hadded).trans_lt hlt
  · cases haddition

theorem step_own_eq_some {operation : CartOperation} :
    history.step userId (.own operation) = some next ↔
      operation.addsPositive = true ∧
        next = ⟨history.store.step (operation.call userId),
          ledgerAfter history.store userId history.ledger operation⟩ := by
  rw [step]
  split_ifs with hadds
  · simp [hadds, eq_comm]
  · simp [hadds]

theorem accounted_step (haccounted : Accounted userId history)
    (hstep : history.step userId event = some next) : Accounted userId next := by
  cases event with
  | own operation =>
      obtain ⟨hadds, rfl⟩ := step_own_eq_some.mp hstep
      exact ⟨CartStore.wellFormed_step haccounted.wellFormed _,
        ledgerFits_effect (CartStore.distinctItems_linesOf haccounted.wellFormed userId)
          haccounted.fits (isPositive_addition hadds) (cartEffect_step _ _ _ operation)⟩
  | other call hother =>
      obtain rfl := Option.some.inj hstep
      refine ⟨CartStore.wellFormed_step haccounted.wellFormed _, ?_⟩
      rw [(CartStore.step_other history.store hother).2]
      exact haccounted.fits

/-- A step keeps the quantities true exactly when its addition fits. -/
theorem trueQuantities_step_iff (haccounted : Accounted userId history)
    (htrue : TrueQuantities userId history) (hstep : history.step userId event = some next) :
    TrueQuantities userId next ↔ AddsWithin32Bits history event := by
  cases event with
  | own operation =>
      obtain ⟨hadds, rfl⟩ := step_own_eq_some.mp hstep
      exact trueSums_effect_iff (CartStore.distinctItems_linesOf haccounted.wellFormed userId)
        haccounted.fits htrue (isPositive_addition hadds) (cartEffect_step _ _ _ operation)
  | other call hother =>
      obtain rfl := Option.some.inj hstep
      rw [TrueQuantities, (CartStore.step_other history.store hother).2]
      exact iff_of_true htrue trivial

theorem accounted_initial (userId : JString) : Accounted userId initial where
  wellFormed := CartStore.wellFormed_empty
  fits := ⟨fun _ _ => rfl, fun _ => le_rfl⟩

/-- In every run, the stored quantities are the true sums in every state reached
exactly when every addition stays within 32 bits. -/
theorem trueQuantities_throughout_iff (userId : JString) (events : List (CartEvent userId)) :
    Throughout (step userId) (TrueQuantities userId) initial events ↔
      Guarded (step userId) AddsWithin32Bits initial events := by
  apply throughout_iff_guarded
  · intro state event next haccounted hstep
    exact accounted_step haccounted hstep
  · intro state event next haccounted htrue hstep
    exact trueQuantities_step_iff haccounted htrue hstep
  · intro state event hdisabled
    cases event with
    | own operation =>
        apply fitsIn32Bits_of_not_positive
        intro hadds
        rw [step, if_pos hadds] at hdisabled
        cases hdisabled
    | other call hother => trivial
  · exact accounted_initial userId
  · exact fun item hitem => absurd hitem List.not_mem_nil

/-- As many units as fit, and one more. -/
def overfullCart : List (CartEvent (js "alice")) :=
  [.own (.addItemToCart (some 1) (some 2147483647)), .own (.addItemToCart (some 1) (some 1))]

/-- Then the stored quantity is negative. -/
theorem not_trueQuantities_overfullCart :
    ¬ ∀ (userId : JString) (events : List (CartEvent userId)),
      Throughout (step userId) (TrueQuantities userId) initial events := by
  intro htrue
  obtain ⟨history, hrun, hcheck⟩ := (Option.any_eq_true _ _).mp
    (show (run (step (js "alice")) initial overfullCart).any
      (fun history => (history.store.linesOf (js "alice")).any fun item =>
        decide (item.quantity.toInt ≠ (history.ledger item.productId).total)) = true by
        decide)
  obtain ⟨item, hitem, hdifferent⟩ := List.any_eq_true.mp hcheck
  have hreached := holds_of_run (htrue (js "alice") overfullCart) hrun
  exact of_decide_eq_true hdifferent (hreached item hitem)

end CartHistory

end ShoppingWeb.CartService
