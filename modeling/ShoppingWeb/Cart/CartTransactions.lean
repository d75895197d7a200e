import ShoppingWeb.Cart.CartContents
import ShoppingWeb.Cart.CartInvariant
import ShoppingWeb.Lib.TwoTransactions

/-!
# Cart operations as transactions

An operation on an existing cart reads rows, makes up its writes in memory and
writes rows when it commits.  A row whose quantity is as it was read is not
written, and a write to a row that is gone is an exception.  The row of the
cart itself never changes.
-/

namespace ShoppingWeb.CartService

open ShoppingWeb.Utf16
open ShoppingWeb.Shared
open ShoppingWeb.Program
open ShoppingWeb.TwoTransactions

/-- The operations on the cart of a user. -/
inductive CartOperation where
  | addItemToCart (productId : Option ℤ) (quantity : Option Int32)
  | updateItemQuantity (itemId : Option ℤ) (quantity : Option Int32)
  | removeItemFromCart (itemId : Option ℤ)
  | clearCart
  deriving DecidableEq, Repr

def CartOperation.call (userId : JString) : CartOperation → CartCall
  | .addItemToCart productId quantity => .addItemToCart (some userId) productId quantity
  | .updateItemQuantity itemId quantity => .updateItemQuantity (some userId) itemId quantity
  | .removeItemFromCart itemId => .removeItemFromCart (some userId) itemId
  | .clearCart => .clearCart (some userId)

/-- What a transaction reads next. -/
inductive CartWork where
  | operation (operation : CartOperation)
  /-- The items of the cart, to remove one that has been found by its id. -/
  | removal (item : CartItem)
  deriving DecidableEq, Repr

/-- The rows that a transaction writes. -/
inductive RowWrite where
  | nothing
  | insertItem (productId : ℤ) (quantity : Int32)
  | setQuantity (itemId : ℤ) (quantity : Int32)
  | deleteItems (itemIds : List ℤ)
  deriving DecidableEq, Repr

abbrev CartPhase := Phase CartWork RowWrite

/-- `item.setQuantity(quantity)` at the commit: only a change is written. -/
def dirtyWrite (item : CartItem) (quantity : Int32) : RowWrite :=
  if quantity = item.quantity then .nothing else .setQuantity item.id quantity

namespace OpenCart

/-- The first read.  Nulls that the operation cannot use are exceptions. -/
def readOperation (opened : OpenCart) : CartOperation → CartPhase
  | .addItemToCart (some productId) (some quantity) =>
      match opened.items.find? fun item => item.productId == productId with
      | some item => .planned (dirtyWrite item (item.quantity + quantity))
      | none => .planned (.insertItem productId quantity)
  | .addItemToCart _ _ => .threw
  | .updateItemQuantity (some itemId) (some quantity) =>
      match opened.findItem itemId with
      | .error _ => .threw
      | .ok item =>
          if quantity ≤ 0 then .reading (.removal item)
          else .planned (dirtyWrite item quantity)
  | .updateItemQuantity _ _ => .threw
  | .removeItemFromCart (some itemId) =>
      match opened.findItem itemId with
      | .error _ => .threw
      | .ok item => .reading (.removal item)
  | .removeItemFromCart none => .threw
  | .clearCart => .planned (.deleteItems (opened.items.map CartItem.id))

/-- An item that is not in the collection any more is not removed from it. -/
def readWork (opened : OpenCart) : CartWork → CartPhase
  | .operation operation => opened.readOperation operation
  | .removal item =>
      .planned (if item.id ∈ opened.items.map CartItem.id then .deleteItems [item.id]
        else .nothing)

def hasRow (opened : OpenCart) (itemId : ℤ) : Bool := (opened.store.items.find? itemId).isSome

def insertRow (opened : OpenCart) (productId : ℤ) (quantity : Int32) : OpenCart :=
  ⟨opened.addItem productId quantity, opened.cart, opened.isStored⟩

def setRow (opened : OpenCart) (itemId : ℤ) (quantity : Int32) : OpenCart :=
  ⟨opened.store.setQuantity itemId quantity, opened.cart, opened.isStored⟩

def deleteRows (opened : OpenCart) (itemIds : List ℤ) : OpenCart :=
  ⟨opened.store.deleteItems fun item => itemIds.contains item.id, opened.cart, opened.isStored⟩

def commitWrite (opened : OpenCart) : RowWrite → Option OpenCart
  | .nothing => some opened
  | .insertItem productId quantity => some (opened.insertRow productId quantity)
  | .setQuantity itemId quantity =>
      if opened.hasRow itemId then some (opened.setRow itemId quantity) else none
  | .deleteItems itemIds =>
      if itemIds.all opened.hasRow then some (opened.deleteRows itemIds) else none

end OpenCart

theorem readWork_ne_returned (opened : OpenCart) (work : CartWork) :
    opened.readWork work ≠ .returned := by
  intro hreturned
  cases work with
  | removal item => cases hreturned
  | operation operation =>
      simp only [OpenCart.readWork] at hreturned
      unfold OpenCart.readOperation at hreturned
      split at hreturned
      all_goals try split at hreturned
      all_goals try split at hreturned
      all_goals cases hreturned

def cartDatabase : Database OpenCart CartWork RowWrite where
  read := OpenCart.readWork
  commit := OpenCart.commitWrite
  read_ne_returned := readWork_ne_returned

/-- Two transactions that have not read anything yet. -/
def startBoth (opened : OpenCart) (operations : Bool → CartOperation) :
    World OpenCart CartWork RowWrite where
  store := opened
  phases thread := .reading (.operation (operations thread))

namespace OpenCart

variable {opened : OpenCart}

theorem findItem_ok {itemId : ℤ} {item : CartItem} :
    opened.findItem itemId = .ok item ↔ item ∈ opened.items ∧ item.id = itemId := by
  constructor
  · exact CartStore.mem_of_findItem
  · rintro ⟨hitem, rfl⟩
    obtain ⟨hmem, hcart⟩ := List.mem_filter.mp hitem
    have hfind := opened.store.items.find?_eq_some_iff.mpr ⟨hmem, rfl⟩
    have hfound : opened.store.items.find? item.id = some item := hfind
    simp only [findItem, hfound, beq_iff_eq.mp hcart, if_true]

theorem item_unique {item other : CartItem} (hitem : item ∈ opened.items)
    (hother : other ∈ opened.items) (hid : item.id = other.id) : item = other :=
  opened.store.items.row_unique (List.mem_of_mem_filter hitem) (List.mem_of_mem_filter hother) hid

theorem hasRow_of_mem {item : CartItem} (hitem : item ∈ opened.items) :
    opened.hasRow item.id = true := by
  have hfind := opened.store.items.find?_eq_some_iff.mpr ⟨List.mem_of_mem_filter hitem, rfl⟩
  exact Option.isSome_iff_exists.mpr ⟨item, hfind⟩

theorem items_insertRow (productId : ℤ) (quantity : Int32) :
    (opened.insertRow productId quantity).items = opened.items ++
      [⟨opened.store.items.nextKey, opened.cart.id, productId, quantity⟩] := by
  simp [insertRow, items, addItem, CartStore.itemsOf, Keyed.withKey]

/-- `item.setQuantity` on the item with an id. -/
def setIn (itemId : ℤ) (quantity : Int32) (item : CartItem) : CartItem :=
  if item.id = itemId then { item with quantity } else item

@[simp]
theorem setIn_id (itemId : ℤ) (quantity : Int32) (item : CartItem) :
    (setIn itemId quantity item).id = item.id := by
  unfold setIn
  split
  · rfl
  · rfl

@[simp]
theorem setIn_productId (itemId : ℤ) (quantity : Int32) (item : CartItem) :
    (setIn itemId quantity item).productId = item.productId := by
  unfold setIn
  split
  · rfl
  · rfl

theorem setIn_cartId (itemId : ℤ) (quantity : Int32) (item : CartItem) :
    (setIn itemId quantity item).cartId = item.cartId := by
  unfold setIn
  split
  · rfl
  · rfl

theorem items_setRow (itemId : ℤ) (quantity : Int32) :
    (opened.setRow itemId quantity).items = opened.items.map (setIn itemId quantity) := by
  have hcarts : (fun item : CartItem => item.cartId == opened.cart.id) ∘
      setIn itemId quantity = fun item => item.cartId == opened.cart.id := by
    funext item
    simp only [Function.comp_apply, setIn_cartId]
  calc
    (opened.setRow itemId quantity).items =
        (opened.store.items.rows.map (setIn itemId quantity)).filter
          fun item => item.cartId == opened.cart.id := rfl
    _ = opened.items.map (setIn itemId quantity) := by
      rw [List.filter_map, hcarts]
      rfl

theorem items_deleteRows (itemIds : List ℤ) :
    (opened.deleteRows itemIds).items =
      opened.items.filter fun item => !itemIds.contains item.id := by
  simp only [deleteRows, items, CartStore.itemsOf, CartStore.deleteItems, Table.rows_deleteWhere,
    List.filter_filter]
  apply List.filter_congr
  intro item _
  exact Bool.and_comm _ _

theorem hasRow_deleteRows {itemIds : List ℤ} {itemId : ℤ} (hdeleted : itemId ∈ itemIds) :
    (opened.deleteRows itemIds).hasRow itemId = false := by
  apply Bool.eq_false_iff.mpr
  intro hrow
  obtain ⟨item, hitem⟩ := Option.isSome_iff_exists.mp hrow
  obtain ⟨hmem, hid⟩ := Table.find?_eq_some_iff _ |>.mp hitem
  have hkept := (List.mem_filter.mp hmem).2
  have hkey : item.id = itemId := hid
  simp [hkey, hdeleted] at hkept

/-! ## An operation alone -/

/-- The writes of an operation that runs alone. -/
def plan (opened : OpenCart) (operation : CartOperation) : Option RowWrite :=
  match opened.readOperation operation with
  | .planned write => some write
  | .reading (.removal item) => some (.deleteItems [item.id])
  | _ => none

/-- The cart after an operation that runs alone; one that throws changes
nothing. -/
def perform (opened : OpenCart) (operation : CartOperation) : OpenCart :=
  match opened.plan operation with
  | some write => (opened.commitWrite write).getD opened
  | none => opened

end OpenCart

/-- The operation takes an item out of the cart. -/
def CartOperation.Removes (operation : CartOperation) (itemId : ℤ) : Prop :=
  operation = .removeItemFromCart (some itemId) ∨
    ∃ quantity : Int32, quantity ≤ 0 ∧
      operation = .updateItemQuantity (some itemId) (some quantity)

@[simp] theorem CartOperation.not_removes_addItemToCart {productId : Option ℤ}
    {added : Option Int32} {itemId : ℤ} :
    ¬ (CartOperation.addItemToCart productId added).Removes itemId := by
  rintro (hother | ⟨_, -, hother⟩)
  · cases hother
  · cases hother

@[simp] theorem CartOperation.not_removes_clearCart {itemId : ℤ} :
    ¬ CartOperation.clearCart.Removes itemId := by
  rintro (hother | ⟨_, -, hother⟩)
  · cases hother
  · cases hother

/-- The operations that get as far as their writes, and what they write. -/
inductive Plans (opened : OpenCart) : CartOperation → RowWrite → Prop
  | insert {productId : ℤ} {quantity : Int32}
      (hnew : (opened.items.find? fun item => item.productId == productId) = none) :
      Plans opened (.addItemToCart (some productId) (some quantity))
        (.insertItem productId quantity)
  | add {productId : ℤ} {quantity : Int32} {item : CartItem}
      (hfound : (opened.items.find? fun item => item.productId == productId) = some item) :
      Plans opened (.addItemToCart (some productId) (some quantity))
        (dirtyWrite item (item.quantity + quantity))
  | update {item : CartItem} {quantity : Int32} (hitem : item ∈ opened.items)
      (hquantity : ¬ quantity ≤ 0) :
      Plans opened (.updateItemQuantity (some item.id) (some quantity)) (dirtyWrite item quantity)
  | remove {operation : CartOperation} {item : CartItem} (hitem : item ∈ opened.items)
      (hremoves : operation.Removes item.id) :
      Plans opened operation (.deleteItems [item.id])
  | clear : Plans opened .clearCart (.deleteItems (opened.items.map CartItem.id))

namespace OpenCart

variable {opened : OpenCart} {operation : CartOperation}

theorem readOperation_reading {work : CartWork}
    (hread : opened.readOperation operation = .reading work) :
    ∃ item ∈ opened.items, work = .removal item ∧ operation.Removes item.id := by
  unfold readOperation at hread
  split at hread
  · split at hread
    · cases hread
    · cases hread
  · cases hread
  · rename_i itemId quantity
    split at hread
    · cases hread
    · rename_i item hfind
      obtain ⟨hitem, rfl⟩ := findItem_ok.mp hfind
      split at hread
      · rename_i hquantity
        cases hread
        exact ⟨item, hitem, rfl, Or.inr ⟨quantity, hquantity, rfl⟩⟩
      · cases hread
  · cases hread
  · split at hread
    · cases hread
    · rename_i item hfind
      obtain ⟨hitem, rfl⟩ := findItem_ok.mp hfind
      cases hread
      exact ⟨item, hitem, rfl, Or.inl rfl⟩
  · cases hread
  · cases hread

theorem readOperation_planned {write : RowWrite}
    (hread : opened.readOperation operation = .planned write) : Plans opened operation write := by
  unfold readOperation at hread
  split at hread
  · split at hread
    · rename_i item hfound
      cases hread
      exact Plans.add hfound
    · rename_i hnew
      cases hread
      exact Plans.insert hnew
  · cases hread
  · split at hread
    · cases hread
    · rename_i item hfind
      obtain ⟨hitem, rfl⟩ := findItem_ok.mp hfind
      split at hread
      · cases hread
      · rename_i hquantity
        cases hread
        exact Plans.update hitem hquantity
  · cases hread
  · split at hread
    · cases hread
    · cases hread
  · cases hread
  · cases hread
    exact Plans.clear

theorem plan_removes {itemId : ℤ} (hremoves : operation.Removes itemId) :
    opened.plan operation =
      match opened.findItem itemId with
      | .error _ => none
      | .ok item => some (.deleteItems [item.id]) := by
  cases hfind : opened.findItem itemId with
  | error e =>
      rcases hremoves with rfl | ⟨quantity, hquantity, rfl⟩
      · simp [plan, readOperation, hfind]
      · simp [plan, readOperation, hfind]
  | ok item =>
      rcases hremoves with rfl | ⟨quantity, hquantity, rfl⟩
      · simp [plan, readOperation, hfind]
      · simp [plan, readOperation, hfind, hquantity]

theorem plan_of_not_found {itemId : ℤ} {exception : ServiceException}
    (hnamed : (∃ amount, operation = .updateItemQuantity (some itemId) amount) ∨
      operation = .removeItemFromCart (some itemId))
    (hfind : opened.findItem itemId = .error exception) : opened.plan operation = none := by
  rcases hnamed with ⟨amount, rfl⟩ | rfl
  · cases amount with
    | none => rfl
    | some quantity => simp [plan, readOperation, hfind]
  · simp [plan, readOperation, hfind]

theorem plan_eq_some {write : RowWrite} :
    opened.plan operation = some write ↔ Plans opened operation write := by
  constructor
  · intro hplan
    unfold plan at hplan
    split at hplan
    · rename_i hread
      cases hplan
      exact readOperation_planned hread
    · rename_i hread
      cases hplan
      obtain ⟨item, hitem, hwork, hremoves⟩ := readOperation_reading hread
      cases hwork
      exact Plans.remove hitem hremoves
    · cases hplan
  · intro hplans
    cases hplans with
    | insert hnew => simp [plan, readOperation, hnew]
    | add hfound => simp [plan, readOperation, hfound]
    | update hitem hquantity =>
        simp only [plan, readOperation, findItem_ok.mpr ⟨hitem, rfl⟩, if_neg hquantity]
    | remove hitem hremoves => rw [plan_removes hremoves, findItem_ok.mpr ⟨hitem, rfl⟩]
    | clear => rfl

end OpenCart

/-! ## The service -/

namespace CartStore

theorem ext_tables {store other : CartStore} (hcarts : store.carts = other.carts)
    (hitems : store.items = other.items) : store = other := by
  cases store with
  | mk carts items hexists =>
      cases other with
      | mk otherCarts otherItems hotherExists =>
          subst hcarts hitems
          rfl

theorem rollBack_self (store : CartStore) : store.rollBack store = store := by
  apply ext_tables
  · exact Table.ext rfl (max_self _)
  · exact Table.ext rfl (max_self _)

theorem setQuantity_self {store : CartStore} {item : CartItem}
    (hitem : item ∈ store.items.rows) : store.setQuantity item.id item.quantity = store := by
  refine ext_tables rfl (Table.ext ?_ rfl)
  calc
    (store.setQuantity item.id item.quantity).items.rows =
        store.items.rows.map (OpenCart.setIn item.id item.quantity) := rfl
    _ = store.items.rows.map id := by
      apply List.map_congr_left
      intro other hother
      unfold OpenCart.setIn
      split
      · rename_i hid
        rw [store.items.row_unique hother hitem hid]
        rfl
      · rfl
    _ = store.items.rows := List.map_id _

end CartStore

/-- The cart is the one that the user's requests open. -/
def OpenCart.Opens (opened : OpenCart) (userId : JString) : Prop :=
  opened.store.findByUserId userId = some opened.cart

namespace OpenCart

variable {opened : OpenCart} {userId : JString} {operation : CartOperation}

theorem Opens.getOrCreateCart (hopens : opened.Opens userId) :
    opened.store.getOrCreateCart userId = opened := by
  have hfind : opened.store.findByUserId userId = some opened.cart := hopens
  unfold CartStore.getOrCreateCart
  split
  · rename_i cart hcart
    obtain rfl := Option.some.inj (hcart.symm.trans hfind)
    rfl
  · rename_i hnone
    rw [hfind] at hnone
    cases hnone

theorem Opens.contents (hopens : opened.Opens userId) :
    opened.store.contents userId = opened.items.map CartItem.entry := by
  rw [CartStore.contents, CartStore.linesOf_of_find hopens]
  rfl

/-- A call that throws leaves an existing cart as it is. -/
theorem Opens.step_error (hopens : opened.Opens userId) {exception : ServiceException}
    (hthrown : (operation.call userId).execute opened.store = .error exception) :
    opened.store.step (operation.call userId) = opened.store := by
  have huser : (operation.call userId).userId = some userId := by
    cases operation with
    | addItemToCart productId quantity => rfl
    | updateItemQuantity itemId quantity => rfl
    | removeItemFromCart itemId => rfl
    | clearCart => rfl
  simp only [CartStore.step, hthrown, CartStore.attempted, huser, hopens.getOrCreateCart]
  exact CartStore.rollBack_self opened.store

theorem Opens.step_ok {final : CartStore}
    (hreturned : (operation.call userId).execute opened.store = .ok final) :
    opened.store.step (operation.call userId) = final := by
  simp only [CartStore.step, hreturned]

theorem commit_dirtyWrite {item : CartItem} (hitem : item ∈ opened.items) (quantity : Int32) :
    ((opened.commitWrite (dirtyWrite item quantity)).getD opened).store =
      opened.store.setQuantity item.id quantity := by
  unfold dirtyWrite
  split
  · rename_i hsame
    rw [hsame, CartStore.setQuantity_self (List.mem_of_mem_filter hitem)]
    rfl
  · simp only [commitWrite, hasRow_of_mem hitem, if_true]
    rfl

theorem commit_removeItem {item : CartItem} (hitem : item ∈ opened.items) :
    ((opened.commitWrite (.deleteItems [item.id])).getD opened).store =
      opened.store.removeItem item.id := by
  simp only [commitWrite, List.all_cons, List.all_nil, hasRow_of_mem hitem, Bool.and_true, if_true]
  refine CartStore.ext_tables rfl (Table.ext ?_ rfl)
  apply List.filter_congr
  intro other _
  simp [beq_eq_decide]

theorem commit_clear :
    ((opened.commitWrite (.deleteItems (opened.items.map CartItem.id))).getD opened).store =
      opened.store.deleteItems fun item => item.cartId == opened.cart.id := by
  have hrows : (opened.items.map CartItem.id).all opened.hasRow = true := by
    rw [List.all_map, List.all_eq_true]
    intro item hitem
    exact hasRow_of_mem hitem
  simp only [commitWrite, hrows, if_true]
  refine CartStore.ext_tables rfl (Table.ext ?_ rfl)
  apply List.filter_congr
  intro item hitem
  congr 1
  apply Bool.eq_iff_iff.mpr
  rw [List.contains_iff_mem, List.mem_map, beq_iff_eq]
  constructor
  · rintro ⟨own, hown, hid⟩
    obtain ⟨hmem, hcart⟩ := List.mem_filter.mp hown
    rw [← opened.store.items.row_unique hmem hitem hid]
    exact beq_iff_eq.mp hcart
  · intro hcart
    exact ⟨item, List.mem_filter.mpr ⟨hitem, beq_iff_eq.mpr hcart⟩, rfl⟩

/-- A quantity update, once the cart is open. -/
theorem Opens.execute_updateItemQuantity (hopens : opened.Opens userId) (itemId : ℤ)
    (amount : Option Int32) :
    ((CartOperation.updateItemQuantity (some itemId) amount).call userId).execute opened.store =
      opened.findItem itemId >>= fun item => nonNull amount >>= fun quantity =>
        .ok (if quantity ≤ 0 then opened.store.removeItem item.id
          else opened.store.setQuantity item.id quantity) := by
  have hexecute :
      ((CartOperation.updateItemQuantity (some itemId) amount).call userId).execute opened.store =
        (opened.store.getOrCreateCart userId).findItem itemId >>= fun _ =>
          nonNull amount >>= fun quantity =>
            opened.store.updateItemQuantity userId itemId quantity := rfl
  rw [hexecute, hopens.getOrCreateCart]
  cases hfind : opened.findItem itemId with
  | error exception => rfl
  | ok item =>
      cases amount with
      | none => rfl
      | some quantity =>
          have hupdate : opened.store.updateItemQuantity userId itemId quantity =
              .ok (if quantity ≤ 0 then opened.store.removeItem item.id
                else opened.store.setQuantity item.id quantity) := by
            simp only [CartStore.updateItemQuantity, hopens.getOrCreateCart, hfind]
            split
            · rfl
            · rfl
          exact hupdate

/-- A removal, once the cart is open. -/
theorem Opens.execute_removeItemFromCart (hopens : opened.Opens userId) (itemId : ℤ) :
    ((CartOperation.removeItemFromCart (some itemId)).call userId).execute opened.store =
      opened.findItem itemId >>= fun item => .ok (opened.store.removeItem item.id) := by
  have hremove : opened.store.removeItemFromCart userId itemId =
      opened.findItem itemId >>= fun item => .ok (opened.store.removeItem item.id) := by
    simp only [CartStore.removeItemFromCart, hopens.getOrCreateCart]
    cases opened.findItem itemId with
    | error exception => rfl
    | ok item => rfl
  exact hremove

/-! ## An operation that runs alone is the call of the service -/

theorem Opens.perform_addItemToCart (hopens : opened.Opens userId) (product : Option ℤ)
    (amount : Option Int32) :
    (opened.perform (.addItemToCart product amount)).store =
      opened.store.step ((CartOperation.addItemToCart product amount).call userId) := by
  cases product with
  | none => exact (hopens.step_error rfl).symm
  | some productId =>
      cases amount with
      | none => exact (hopens.step_error rfl).symm
      | some quantity =>
          have hreturned : ((CartOperation.addItemToCart (some productId)
              (some quantity)).call userId).execute opened.store =
                .ok (opened.store.addItemToCart userId productId quantity) := rfl
          rw [Opens.step_ok hreturned, CartStore.addItemToCart, hopens.getOrCreateCart, perform]
          cases hfind : opened.items.find? fun item => item.productId == productId with
          | none =>
              rw [plan_eq_some.mpr (Plans.insert hfind)]
              rfl
          | some item =>
              rw [plan_eq_some.mpr (Plans.add hfind)]
              exact commit_dirtyWrite (List.mem_of_find?_eq_some hfind) _

theorem Opens.perform_updateItemQuantity (hopens : opened.Opens userId) (named : Option ℤ)
    (amount : Option Int32) :
    (opened.perform (.updateItemQuantity named amount)).store =
      opened.store.step ((CartOperation.updateItemQuantity named amount).call userId) := by
  cases named with
  | none => exact (hopens.step_error rfl).symm
  | some itemId =>
      have hexecute := hopens.execute_updateItemQuantity itemId amount
      cases hfind : opened.findItem itemId with
      | error exception =>
          rw [hfind] at hexecute
          rw [hopens.step_error hexecute, perform,
            plan_of_not_found (Or.inl ⟨amount, rfl⟩) hfind]
      | ok item =>
          rw [hfind] at hexecute
          obtain ⟨hitem, rfl⟩ := findItem_ok.mp hfind
          cases amount with
          | none =>
              rw [hopens.step_error hexecute]
              rfl
          | some quantity =>
              rw [Opens.step_ok hexecute, perform]
              by_cases hquantity : quantity ≤ 0
              · have hremoves : (CartOperation.updateItemQuantity (some item.id)
                    (some quantity)).Removes item.id := Or.inr ⟨quantity, hquantity, rfl⟩
                rw [plan_eq_some.mpr (Plans.remove hitem hremoves), if_pos hquantity]
                exact commit_removeItem hitem
              · rw [plan_eq_some.mpr (Plans.update hitem hquantity), if_neg hquantity]
                exact commit_dirtyWrite hitem quantity

theorem Opens.perform_removeItemFromCart (hopens : opened.Opens userId) (named : Option ℤ) :
    (opened.perform (.removeItemFromCart named)).store =
      opened.store.step ((CartOperation.removeItemFromCart named).call userId) := by
  cases named with
  | none => exact (hopens.step_error rfl).symm
  | some itemId =>
      have hexecute := hopens.execute_removeItemFromCart itemId
      cases hfind : opened.findItem itemId with
      | error exception =>
          rw [hfind] at hexecute
          rw [hopens.step_error hexecute, perform, plan_of_not_found (Or.inr rfl) hfind]
      | ok item =>
          rw [hfind] at hexecute
          obtain ⟨hitem, rfl⟩ := findItem_ok.mp hfind
          rw [Opens.step_ok hexecute, perform,
            plan_eq_some.mpr (Plans.remove hitem (Or.inl rfl))]
          exact commit_removeItem hitem

theorem Opens.perform_clearCart (hopens : opened.Opens userId) :
    (opened.perform .clearCart).store =
      opened.store.step (CartOperation.clearCart.call userId) := by
  have hreturned : (CartOperation.clearCart.call userId).execute opened.store =
      .ok (opened.store.clearCart userId) := rfl
  rw [Opens.step_ok hreturned, CartStore.clearCart, hopens.getOrCreateCart, perform,
    plan_eq_some.mpr Plans.clear]
  exact commit_clear

theorem Opens.perform_store (hopens : opened.Opens userId) (operation : CartOperation) :
    (opened.perform operation).store = opened.store.step (operation.call userId) := by
  cases operation with
  | addItemToCart product amount => exact hopens.perform_addItemToCart product amount
  | updateItemQuantity named amount => exact hopens.perform_updateItemQuantity named amount
  | removeItemFromCart named => exact hopens.perform_removeItemFromCart named
  | clearCart => exact hopens.perform_clearCart

end OpenCart

end ShoppingWeb.CartService
