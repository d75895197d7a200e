import ShoppingWeb.Cart.CartTransactions

/-!
# Lost updates

Two operations on one cart, with their reads and commits in any order.  The
cart is the one that some order of the two operations gives, except where an
addition has read the cart before the other operation adds the same product or
sets its quantity.
-/

namespace ShoppingWeb.CartService

open ShoppingWeb.Utf16
open ShoppingWeb.Shared
open ShoppingWeb.TwoTransactions

/-- What the addition that commits last has not seen of the other operation: an
item of its product, an addition to it, or its new quantity, unless that is the
sum in any case. -/
def Conflict (items : List CartItem) : CartOperation → CartOperation → Prop
  | .addItemToCart (some productId) (some quantity), .addItemToCart (some otherId) (some other) =>
      productId = otherId ∧
        ∀ item, (items.find? fun item => item.productId == otherId) = some item →
          quantity ≠ 0 ∧ other ≠ 0
  | .updateItemQuantity (some itemId) (some quantity),
      .addItemToCart (some productId) (some added) =>
      0 < quantity ∧
        ∃ item, (items.find? fun item => item.productId == productId) = some item ∧
          item.id = itemId ∧ quantity ≠ item.quantity ∧ added ≠ 0 ∧
          item.quantity + added ≠ quantity
  | _, _ => False

namespace OpenCart

variable {opened middle final : OpenCart} {operation first second : CartOperation}
  {write otherWrite : RowWrite}

def contents (opened : OpenCart) : List (ℤ × Int32) := opened.items.map CartItem.entry

theorem perform_of_plans (hplans : Plans opened operation write)
    (hcommit : opened.commitWrite write = some final) : opened.perform operation = final := by
  simp only [perform, plan_eq_some.mpr hplans, hcommit, Option.getD_some]

/-- Finding an item and removing it alone comes to the same with the item read
earlier. -/
theorem alone_removal {item : CartItem} (hremoves : operation.Removes item.id)
    (halone : cartDatabase.Alone opened (.reading (.removal item)) final) :
    final = opened.perform operation := by
  cases halone with
  | read hrest =>
      have hread : cartDatabase.read opened (.removal item) = .planned
          (if item.id ∈ opened.items.map CartItem.id then .deleteItems [item.id]
            else .nothing) := rfl
      rw [hread] at hrest
      cases hrest with
      | commit hcommit =>
          by_cases hthere : item.id ∈ opened.items.map CartItem.id
          · rw [if_pos hthere] at hcommit
            obtain ⟨found, hfound, hid⟩ := List.mem_map.mp hthere
            rw [← hid] at hcommit hremoves
            exact (perform_of_plans (Plans.remove hfound hremoves) hcommit).symm
          · rw [if_neg hthere] at hcommit
            have hnone : opened.plan operation = none := by
              rw [plan_removes hremoves]
              split
              · rfl
              · rename_i found hfind
                obtain ⟨hfound, hid⟩ := findItem_ok.mp hfind
                exact absurd (List.mem_map.mpr ⟨found, hfound, hid⟩) hthere
            rw [perform, hnone]
            exact (Option.some.inj hcommit).symm

theorem alone_operation
    (halone : cartDatabase.Alone opened (.reading (.operation operation)) final) :
    final = opened.perform operation := by
  cases halone with
  | read hrest =>
      have hwork : cartDatabase.read opened (.operation operation) =
          opened.readOperation operation := rfl
      rw [hwork] at hrest
      cases hread : opened.readOperation operation with
      | reading work =>
          obtain ⟨item, -, rfl, hremoves⟩ := readOperation_reading hread
          rw [hread] at hrest
          exact alone_removal hremoves hrest
      | planned write =>
          rw [hread] at hrest
          cases hrest with
          | commit hcommit => exact (perform_of_plans (readOperation_planned hread) hcommit).symm
      | returned => exact absurd hread (readWork_ne_returned opened (.operation operation))
      | threw =>
          rw [hread] at hrest
          cases hrest

/-- How far an operation gets without a commit. -/
theorem reads_operation {phase : CartPhase}
    (hreads : cartDatabase.Reads opened (.reading (.operation operation)) phase) :
    phase = .reading (.operation operation) ∨
      (∃ item, phase = .reading (.removal item) ∧ operation.Removes item.id) ∨
      (∃ write, phase = .planned write ∧ Plans opened operation write) ∨ phase = .threw := by
  cases hreads with
  | refl => exact Or.inl rfl
  | read hrest =>
      right
      have hwork : cartDatabase.read opened (.operation operation) =
          opened.readOperation operation := rfl
      rw [hwork] at hrest
      cases hread : opened.readOperation operation with
      | reading work =>
          obtain ⟨item, hitem, rfl, hremoves⟩ := readOperation_reading hread
          rw [hread] at hrest
          cases hrest with
          | refl => exact Or.inl ⟨item, rfl, hremoves⟩
          | read hplanned =>
              have hremoval : cartDatabase.read opened (.removal item) =
                  .planned (.deleteItems [item.id]) :=
                congrArg Phase.planned (if_pos (List.mem_map_of_mem hitem))
              rw [hremoval] at hplanned
              cases hplanned
              exact Or.inr (Or.inl ⟨_, rfl, Plans.remove hitem hremoves⟩)
      | planned write =>
          rw [hread] at hrest
          cases hrest
          exact Or.inr (Or.inl ⟨write, rfl, readOperation_planned hread⟩)
      | returned => exact absurd hread (readWork_ne_returned opened (.operation operation))
      | threw =>
          rw [hread] at hrest
          cases hrest
          exact Or.inr (Or.inr rfl)

theorem plans_of_reads
    (hreads : cartDatabase.Reads opened (.reading (.operation operation)) (.planned write)) :
    Plans opened operation write := by
  rcases reads_operation hreads with hother | ⟨item, hother, -⟩ | ⟨_, hwrite, hplans⟩ | hother
  · cases hother
  · cases hother
  · cases hwrite
    exact hplans
  · cases hother

theorem find?_filter {keep : CartItem → Bool} {items : List CartItem} {productId : ℤ}
    {item : CartItem} (hfound : (items.find? fun item => item.productId == productId) = some item)
    (hkeep : keep item = true) :
    ((items.filter keep).find? fun item => item.productId == productId) = some item := by
  obtain ⟨hproduct, before, after, rfl, hbefore⟩ := List.find?_eq_some_iff_append.mp hfound
  rw [List.filter_append, List.filter_cons_of_pos hkeep, List.find?_append]
  have hnone : ((before.filter keep).find? fun item => item.productId == productId) = none := by
    rw [List.find?_eq_none]
    intro other hother
    simpa using hbefore other (List.mem_of_mem_filter hother)
  rw [hnone, Option.none_or]
  exact List.find?_cons_of_pos hproduct

theorem productId_of_find? {items : List CartItem} {productId : ℤ} {item : CartItem}
    (hfound : (items.find? fun item => item.productId == productId) = some item) :
    item.productId = productId := by
  simpa using List.find?_some hfound

theorem find?_setIn {items : List CartItem} {itemId productId : ℤ} {quantity : Int32} :
    ((items.map (setIn itemId quantity)).find? fun item => item.productId == productId) =
      (items.find? fun item => item.productId == productId).map (setIn itemId quantity) := by
  have hproducts : (fun item : CartItem => item.productId == productId) ∘ setIn itemId quantity =
      fun item => item.productId == productId := by
    funext item
    simp only [Function.comp_apply, setIn_productId]
  rw [List.find?_map, hproducts]

theorem setIn_of_ne {itemId : ℤ} {quantity : Int32} {item : CartItem} (hne : item.id ≠ itemId) :
    setIn itemId quantity item = item := if_neg hne

theorem setIn_self (quantity : Int32) (item : CartItem) :
    setIn item.id quantity item = { item with quantity } := if_pos rfl

/-- After an insertion the other operation still plans the same, unless it adds
the same product or clears the cart. -/
theorem plans_insertRow {productId : ℤ} {quantity : Int32} (hsecond : Plans opened second write)
    (hadds : ∀ added, second ≠ .addItemToCart (some productId) added)
    (hclears : second ≠ .clearCart) : Plans (opened.insertRow productId quantity) second write := by
  have hmem : ∀ item ∈ opened.items, item ∈ (opened.insertRow productId quantity).items := by
    intro item hitem
    rw [items_insertRow]
    exact List.mem_append_left _ hitem
  cases hsecond with
  | @insert otherId added hnew =>
      have hne : productId ≠ otherId := fun heq => hadds (some added) (heq ▸ rfl)
      apply Plans.insert
      simp [items_insertRow, hnew, hne]
  | add hfound =>
      apply Plans.add
      rw [items_insertRow, List.find?_append, hfound]
      rfl
  | update hitem hquantity => exact Plans.update (hmem _ hitem) hquantity
  | remove hitem hremoves => exact Plans.remove (hmem _ hitem) hremoves
  | clear => exact absurd rfl hclears

/-- An insertion is not undone by clearing what has been read before. -/
theorem contents_clear_insertRow {productId : ℤ} {quantity : Int32}
    (hclear : (opened.insertRow productId quantity).commitWrite
      (.deleteItems (opened.items.map CartItem.id)) = some final) :
    final.contents = ((opened.perform .clearCart).perform
      (.addItemToCart (some productId) (some quantity))).contents := by
  have hfinal : final = (opened.insertRow productId quantity).deleteRows
      (opened.items.map CartItem.id) := by
    simp only [commitWrite] at hclear
    split at hclear
    · exact (Option.some.inj hclear).symm
    · cases hclear
  have hcleared : (opened.deleteRows (opened.items.map CartItem.id)).items = [] := by
    rw [items_deleteRows, List.filter_eq_nil_iff]
    intro item hitem
    simpa using ⟨item, hitem, rfl⟩
  have hperform : opened.perform .clearCart =
      opened.deleteRows (opened.items.map CartItem.id) := by
    apply perform_of_plans Plans.clear
    simp only [commitWrite]
    apply if_pos
    rw [List.all_map, List.all_eq_true]
    intro item hitem
    exact hasRow_of_mem hitem
  have hadded : (opened.deleteRows (opened.items.map CartItem.id)).perform
      (.addItemToCart (some productId) (some quantity)) =
        (opened.deleteRows (opened.items.map CartItem.id)).insertRow productId quantity := by
    apply perform_of_plans (Plans.insert _) rfl
    rw [hcleared]
    rfl
  -- The new row has a key that no row has that has been read.
  have hfresh : (opened.items.map CartItem.id).contains opened.store.items.nextKey = false := by
    apply Bool.eq_false_iff.mpr
    intro hcontains
    obtain ⟨item, hitem, hid⟩ := List.mem_map.mp (List.contains_iff_mem.mp hcontains)
    have hlt := opened.store.items.key_lt item (List.mem_of_mem_filter hitem)
    exact absurd hid (ne_of_lt hlt)
  rw [hfinal, hperform, hadded, contents, contents, items_insertRow, hcleared, items_deleteRows,
    items_insertRow, List.filter_append, ← items_deleteRows, hcleared]
  have hkept : ([⟨opened.store.items.nextKey, opened.cart.id, productId, quantity⟩] :
      List CartItem).filter (fun item => !(opened.items.map CartItem.id).contains item.id) =
        [⟨opened.store.items.nextKey, opened.cart.id, productId, quantity⟩] :=
    List.filter_cons_of_pos (by rw [hfresh]; rfl)
  rw [hkept]
  rfl

theorem commit_setQuantity {itemId : ℤ} {quantity : Int32}
    (hcommit : opened.commitWrite (.setQuantity itemId quantity) = some final) :
    opened.hasRow itemId = true ∧ final = opened.setRow itemId quantity := by
  simp only [commitWrite] at hcommit
  split at hcommit
  · rename_i hrow
    exact ⟨hrow, (Option.some.inj hcommit).symm⟩
  · cases hcommit

theorem commit_deleteItems {itemIds : List ℤ}
    (hcommit : opened.commitWrite (.deleteItems itemIds) = some final) :
    (∀ itemId ∈ itemIds, opened.hasRow itemId = true) ∧ final = opened.deleteRows itemIds := by
  simp only [commitWrite] at hcommit
  split at hcommit
  · rename_i hrows
    exact ⟨List.all_eq_true.mp hrows, (Option.some.inj hcommit).symm⟩
  · cases hcommit

theorem map_setIn_self {item : CartItem} (hitem : item ∈ opened.items) :
    opened.items.map (setIn item.id item.quantity) = opened.items := by
  calc
    opened.items.map (setIn item.id item.quantity) = opened.items.map id := by
      apply List.map_congr_left
      intro other hother
      unfold setIn
      split
      · rename_i hid
        rw [item_unique hother hitem hid]
        rfl
      · rfl
    _ = opened.items := List.map_id _

/-- Changing a quantity alone, whether there is a change to write or not. -/
theorem items_perform_dirtyWrite {item : CartItem} {quantity : Int32}
    (hitem : item ∈ opened.items) (hplans : Plans opened operation (dirtyWrite item quantity)) :
    (opened.perform operation).items = opened.items.map (setIn item.id quantity) := by
  by_cases hsame : quantity = item.quantity
  · have hcommit : opened.commitWrite (dirtyWrite item quantity) = some opened := by
      rw [dirtyWrite, if_pos hsame]
      rfl
    rw [perform_of_plans hplans hcommit, hsame, map_setIn_self hitem]
  · have hcommit : opened.commitWrite (dirtyWrite item quantity) =
        some (opened.setRow item.id quantity) := by
      rw [dirtyWrite, if_neg hsame]
      exact if_pos (hasRow_of_mem hitem)
    rw [perform_of_plans hplans hcommit, items_setRow]

theorem dirtyWrite_ne_nothing {item : CartItem} {quantity : Int32}
    (hwrite : dirtyWrite item quantity ≠ .nothing) :
    quantity ≠ item.quantity ∧ dirtyWrite item quantity = .setQuantity item.id quantity := by
  have hchanged : quantity ≠ item.quantity := fun hsame => hwrite (if_pos hsame)
  exact ⟨hchanged, if_neg hchanged⟩

/-- After a quantity is set, the other operation still does the same, unless it
adds to that quantity. -/
theorem contents_setRow {itemId : ℤ} {quantity : Int32} (hsecond : Plans opened second write)
    (hwrite : write ≠ .nothing)
    (hfinal : (opened.setRow itemId quantity).commitWrite write = some final)
    (hadds : ∀ productId added item, second = .addItemToCart (some productId) added →
      (opened.items.find? fun item => item.productId == productId) = some item →
        item.id ≠ itemId) :
    final.contents = ((opened.setRow itemId quantity).perform second).contents := by
  have hmem : ∀ item ∈ opened.items,
      setIn itemId quantity item ∈ (opened.setRow itemId quantity).items := by
    intro item hitem
    rw [items_setRow]
    exact List.mem_map_of_mem hitem
  cases hsecond with
  | @insert productId added hnew =>
      have hnone : ((opened.setRow itemId quantity).items.find?
          fun item => item.productId == productId) = none := by
        rw [items_setRow, find?_setIn, hnew]
        rfl
      rw [perform_of_plans (Plans.insert hnone) hfinal]
  | @add productId added item hfound =>
      have hsame : ((opened.setRow itemId quantity).items.find?
          fun item => item.productId == productId) = some item := by
        rw [items_setRow, find?_setIn, hfound]
        exact congrArg some (setIn_of_ne (hadds productId (some added) item rfl hfound))
      rw [perform_of_plans (Plans.add hsame) hfinal]
  | @update item changed hitem hquantity =>
      have hplans := Plans.update (hmem item hitem) hquantity
      rw [setIn_id] at hplans
      rw [(dirtyWrite_ne_nothing hwrite).2] at hfinal
      have hperform := items_perform_dirtyWrite (hmem item hitem) hplans
      rw [setIn_id] at hperform
      rw [contents, contents, (commit_setQuantity hfinal).2, items_setRow, hperform]
  | @remove _ item hitem hremoves =>
      have hplans := Plans.remove (hmem item hitem) (by rw [setIn_id]; exact hremoves)
      rw [setIn_id] at hplans
      rw [perform_of_plans hplans hfinal]
  | clear =>
      have hids : (opened.setRow itemId quantity).items.map CartItem.id =
          opened.items.map CartItem.id := by
        rw [items_setRow, List.map_map]
        apply List.map_congr_left
        intro item _
        exact setIn_id itemId quantity item
      rw [← hids] at hfinal
      rw [perform_of_plans Plans.clear hfinal]

/-- What is still there after a deletion is planned as before.  An operation
that writes to a row that is gone does not return. -/
theorem plans_deleteRows {itemIds : List ℤ} (hsecond : Plans opened second write)
    (hwrite : write ≠ .nothing)
    (hfinal : (opened.deleteRows itemIds).commitWrite write = some final) :
    Plans (opened.deleteRows itemIds) second write := by
  have hkept : ∀ itemId, (opened.deleteRows itemIds).hasRow itemId = true →
      (!itemIds.contains itemId) = true := by
    intro itemId hrow
    rw [Bool.not_eq_true', List.contains_eq_mem, decide_eq_false_iff_not]
    intro hdeleted
    rw [hasRow_deleteRows hdeleted] at hrow
    cases hrow
  have hmem : ∀ item ∈ opened.items, (opened.deleteRows itemIds).hasRow item.id = true →
      item ∈ (opened.deleteRows itemIds).items := by
    intro item hitem hrow
    rw [items_deleteRows]
    exact List.mem_filter.mpr ⟨hitem, hkept item.id hrow⟩
  cases hsecond with
  | insert hnew =>
      apply Plans.insert
      rw [items_deleteRows, List.find?_eq_none]
      intro item hitem
      exact List.find?_eq_none.mp hnew item (List.mem_of_mem_filter hitem)
  | @add productId added item hfound =>
      rw [(dirtyWrite_ne_nothing hwrite).2] at hfinal
      apply Plans.add
      rw [items_deleteRows]
      exact find?_filter hfound (hkept item.id (commit_setQuantity hfinal).1)
  | @update item changed hitem hquantity =>
      rw [(dirtyWrite_ne_nothing hwrite).2] at hfinal
      exact Plans.update (hmem item hitem (commit_setQuantity hfinal).1) hquantity
  | @remove _ item hitem hremoves =>
      have hrow := (commit_deleteItems hfinal).1 item.id (List.mem_singleton_self _)
      exact Plans.remove (hmem item hitem hrow) hremoves
  | clear =>
      have hall : (opened.deleteRows itemIds).items = opened.items := by
        rw [items_deleteRows, List.filter_eq_self]
        intro item hitem
        exact hkept item.id ((commit_deleteItems hfinal).1 item.id (List.mem_map_of_mem hitem))
      rw [← hall]
      exact Plans.clear

/-! ## Without a conflict -/

theorem plans_of_add {productId : ℤ} {added : Option Int32} {item : CartItem}
    (hplans : Plans opened (.addItemToCart (some productId) added) write)
    (hfound : (opened.items.find? fun item => item.productId == productId) = some item) :
    ∃ quantity, added = some quantity ∧ write = dirtyWrite item (item.quantity + quantity) := by
  cases hplans with
  | insert hnew =>
      rw [hfound] at hnew
      cases hnew
  | @add _ quantity other hother =>
      obtain rfl := Option.some.inj (hfound.symm.trans hother)
      exact ⟨quantity, rfl, rfl⟩
  | remove _ hremoves => exact absurd hremoves CartOperation.not_removes_addItemToCart

theorem added_ne_zero {item : CartItem} {quantity : Int32}
    (hchanged : item.quantity + quantity ≠ item.quantity) : quantity ≠ 0 := by
  rintro rfl
  exact hchanged (Int32.add_zero _)

/-- Two additions that both change the quantity of one item. -/
theorem order_of_add {productId : ℤ} {quantity : Int32} {item : CartItem}
    (hfound : (opened.items.find? fun item => item.productId == productId) = some item)
    (hchanged : item.quantity + quantity ≠ item.quantity)
    (hsecond : Plans opened second write) (hwrite : write ≠ .nothing)
    (hfinal : (opened.setRow item.id (item.quantity + quantity)).commitWrite write = some final)
    (hno : ¬ Conflict opened.items (.addItemToCart (some productId) (some quantity)) second) :
    final.contents =
      ((opened.setRow item.id (item.quantity + quantity)).perform second).contents := by
  apply contents_setRow hsecond hwrite hfinal
  intro otherId added other heq hother hid
  subst heq
  obtain ⟨sum, rfl, rfl⟩ := plans_of_add hsecond hother
  have hsame : other = item :=
    item_unique (List.mem_of_find?_eq_some hother) (List.mem_of_find?_eq_some hfound) hid
  subst hsame
  have hproduct : productId = otherId := by
    calc
      productId = other.productId := (productId_of_find? hfound).symm
      _ = otherId := productId_of_find? hother
  refine hno ⟨hproduct, fun found hfind => ⟨added_ne_zero hchanged, ?_⟩⟩
  exact added_ne_zero (dirtyWrite_ne_nothing hwrite).1

/-- The addition that has not seen a new quantity comes to it by itself. -/
theorem order_of_sum {productId : ℤ} {added quantity : Int32} {item : CartItem}
    (hfound : (opened.items.find? fun item => item.productId == productId) = some item)
    (hquantity : ¬ quantity ≤ 0) (hsum : item.quantity + added = quantity)
    (hfinal : (opened.setRow item.id quantity).commitWrite (.setQuantity item.id quantity) =
      some final) :
    final.contents = ((opened.perform (.addItemToCart (some productId) (some added))).perform
      (.updateItemQuantity (some item.id) (some quantity))).contents := by
  have hitem := List.mem_of_find?_eq_some hfound
  have hplans : Plans opened (.addItemToCart (some productId) (some added))
      (dirtyWrite item (item.quantity + added)) := Plans.add hfound
  have hadded := items_perform_dirtyWrite hitem hplans
  have hmem : setIn item.id quantity item ∈
      (opened.perform (.addItemToCart (some productId) (some added))).items := by
    rw [hadded, hsum]
    exact List.mem_map_of_mem hitem
  have hupdate := items_perform_dirtyWrite hmem (Plans.update hmem hquantity)
  rw [setIn_id] at hupdate
  rw [contents, contents, (commit_setQuantity hfinal).2, items_setRow, items_setRow, hupdate,
    hadded, hsum]

/-- An update and an addition that both change the quantity of one item. -/
theorem order_of_update {item : CartItem} {quantity : Int32} (hitem : item ∈ opened.items)
    (hquantity : ¬ quantity ≤ 0) (hchanged : quantity ≠ item.quantity)
    (hsecond : Plans opened second write) (hwrite : write ≠ .nothing)
    (hfinal : (opened.setRow item.id quantity).commitWrite write = some final)
    (hno : ¬ Conflict opened.items (.updateItemQuantity (some item.id) (some quantity)) second) :
    final.contents = ((opened.setRow item.id quantity).perform second).contents ∨
      final.contents = ((opened.perform second).perform
        (.updateItemQuantity (some item.id) (some quantity))).contents := by
  by_cases hadds : ∀ productId added other, second = .addItemToCart (some productId) added →
      (opened.items.find? fun item => item.productId == productId) = some other →
        other.id ≠ item.id
  · exact Or.inl (contents_setRow hsecond hwrite hfinal hadds)
  · right
    push Not at hadds
    obtain ⟨productId, added, other, rfl, hfound, hid⟩ := hadds
    obtain ⟨sum, rfl, rfl⟩ := plans_of_add hsecond hfound
    obtain rfl := item_unique (List.mem_of_find?_eq_some hfound) hitem hid
    obtain ⟨hne, hdirty⟩ := dirtyWrite_ne_nothing hwrite
    have hpositive : 0 < quantity := Int32.not_le.mp hquantity
    have hsum : other.quantity + sum = quantity := by
      by_contra hother
      exact hno ⟨hpositive, other, hfound, rfl, hchanged, added_ne_zero hne, hother⟩
    rw [hdirty, hsum] at hfinal
    exact order_of_sum hfound hquantity hsum hfinal

/-- A new product and any other operation. -/
theorem order_of_insert {productId : ℤ} {quantity : Int32}
    (hnew : (opened.items.find? fun item => item.productId == productId) = none)
    (hsecond : Plans opened second otherWrite)
    (hfinal : (opened.insertRow productId quantity).commitWrite otherWrite = some final)
    (hno : ¬ Conflict opened.items (.addItemToCart (some productId) (some quantity)) second) :
    final.contents = ((opened.insertRow productId quantity).perform second).contents ∨
      final.contents = ((opened.perform second).perform
        (.addItemToCart (some productId) (some quantity))).contents := by
  by_cases hclears : second = .clearCart
  · right
    subst hclears
    cases hsecond with
    | clear => exact contents_clear_insertRow hfinal
    | remove _ hremoves => exact absurd hremoves CartOperation.not_removes_clearCart
  · left
    have hadds : ∀ added, second ≠ .addItemToCart (some productId) added := by
      rintro added rfl
      cases hsecond with
      | insert hnone =>
          apply hno
          refine ⟨rfl, fun item hitem => ?_⟩
          rw [hnone] at hitem
          cases hitem
      | add hfound =>
          rw [hnew] at hfound
          cases hfound
      | remove _ hremoves => exact absurd hremoves CartOperation.not_removes_addItemToCart
    rw [perform_of_plans (plans_insertRow hsecond hadds hclears) hfinal]

/-- What two operations leave that have both read the cart before either
commits. -/
theorem order_of_plans (hfirst : Plans opened first write)
    (hsecond : Plans opened second otherWrite) (hmiddle : opened.commitWrite write = some middle)
    (hfinal : middle.commitWrite otherWrite = some final)
    (hno : ¬ Conflict opened.items first second) :
    final.contents = ((opened.perform first).perform second).contents ∨
      final.contents = ((opened.perform second).perform first).contents := by
  have hperform : opened.perform first = middle := perform_of_plans hfirst hmiddle
  by_cases hother : otherWrite = .nothing
  · right
    subst hother
    obtain rfl := Option.some.inj hfinal
    rw [perform_of_plans hsecond rfl, hperform]
  by_cases hwrite : write = .nothing
  · left
    subst hwrite
    obtain rfl := Option.some.inj hmiddle
    rw [hperform, perform_of_plans hsecond hfinal]
  cases hfirst with
  | insert hnew =>
      obtain rfl := Option.some.inj hmiddle
      rw [hperform]
      exact order_of_insert hnew hsecond hfinal hno
  | add hfound =>
      left
      obtain ⟨hchanged, hdirty⟩ := dirtyWrite_ne_nothing hwrite
      rw [hdirty] at hmiddle
      obtain ⟨-, rfl⟩ := commit_setQuantity hmiddle
      rw [hperform]
      exact order_of_add hfound hchanged hsecond hother hfinal hno
  | update hitem hquantity =>
      obtain ⟨hchanged, hdirty⟩ := dirtyWrite_ne_nothing hwrite
      rw [hdirty] at hmiddle
      obtain ⟨-, rfl⟩ := commit_setQuantity hmiddle
      rw [hperform]
      exact order_of_update hitem hquantity hchanged hsecond hother hfinal hno
  | remove hitem hremoves =>
      left
      obtain ⟨-, rfl⟩ := commit_deleteItems hmiddle
      rw [hperform, perform_of_plans (plans_deleteRows hsecond hother hfinal) hfinal]
  | clear =>
      left
      obtain ⟨-, rfl⟩ := commit_deleteItems hmiddle
      rw [hperform, perform_of_plans (plans_deleteRows hsecond hother hfinal) hfinal]

/-! ## With a conflict -/

/-- The item of a product after its quantity has been set. -/
theorem find?_perform {productId : ℤ} {quantity : Int32} {item : CartItem}
    (hfound : (opened.items.find? fun item => item.productId == productId) = some item)
    (hplans : Plans opened operation (dirtyWrite item quantity)) :
    ((opened.perform operation).items.find? fun item => item.productId == productId) =
      some { item with quantity } := by
  rw [items_perform_dirtyWrite (List.mem_of_find?_eq_some hfound) hplans, find?_setIn, hfound,
    Option.map_some, setIn_self]

theorem find?_setRow {productId : ℤ} {item : CartItem} (quantity : Int32)
    (hfound : (opened.items.find? fun item => item.productId == productId) = some item) :
    ((opened.setRow item.id quantity).items.find? fun item => item.productId == productId) =
      some { item with quantity } := by
  rw [items_setRow, find?_setIn, hfound, Option.map_some, setIn_self]

theorem find?_perform_add {productId : ℤ} {added : Int32} {item : CartItem}
    (hfound : (opened.items.find? fun item => item.productId == productId) = some item) :
    ((opened.perform (.addItemToCart (some productId) (some added))).items.find?
      fun item => item.productId == productId) =
        some { item with quantity := item.quantity + added } :=
  find?_perform hfound (Plans.add hfound)

theorem find?_perform_update {productId : ℤ} {quantity : Int32} {item : CartItem}
    (hfound : (opened.items.find? fun item => item.productId == productId) = some item)
    (hquantity : ¬ quantity ≤ 0) :
    ((opened.perform (.updateItemQuantity (some item.id) (some quantity))).items.find?
      fun item => item.productId == productId) = some { item with quantity } :=
  find?_perform hfound (Plans.update (List.mem_of_find?_eq_some hfound) hquantity)

theorem lookup_contents (opened : OpenCart) (productId : ℤ) :
    opened.contents.lookup productId =
      (opened.items.find? fun item => item.productId == productId).map CartItem.quantity := by
  rw [contents]
  induction opened.items with
  | nil => rfl
  | cons item items ih =>
      rw [List.map_cons, List.find?_cons, CartItem.entry, List.lookup_cons]
      by_cases hproduct : item.productId = productId
      · simp [hproduct]
      · have hother : (productId == item.productId) = false := beq_false_of_ne (Ne.symm hproduct)
        have hskipped : (item.productId == productId) = false := beq_false_of_ne hproduct
        rw [hother, hskipped]
        exact ih

/-- Carts with the same content have the same quantity of a product. -/
theorem quantity_eq {other : OpenCart} {productId : ℤ} {item otherItem : CartItem}
    (hcontents : opened.contents = other.contents)
    (hitem : (opened.items.find? fun item => item.productId == productId) = some item)
    (hother : (other.items.find? fun item => item.productId == productId) = some otherItem) :
    item.quantity = otherItem.quantity := by
  have hlookup := congrArg (List.lookup productId) hcontents
  rw [lookup_contents, lookup_contents, hitem, hother] at hlookup
  exact Option.some.inj hlookup

theorem plans_of_insert {productId : ℤ} {quantity : Int32}
    (hplans : Plans opened (.addItemToCart (some productId) (some quantity)) write)
    (hnew : (opened.items.find? fun item => item.productId == productId) = none) :
    write = .insertItem productId quantity := by
  cases hplans with
  | insert _ => rfl
  | add hfound =>
      rw [hnew] at hfound
      cases hfound
  | remove _ hremoves => exact absurd hremoves CartOperation.not_removes_addItemToCart

/-- Two additions of a new product, one after the other, make one item. -/
theorem length_perform_adds {productId : ℤ} {quantity added : Int32}
    (hnew : (opened.items.find? fun item => item.productId == productId) = none) :
    ((opened.perform (.addItemToCart (some productId) (some quantity))).perform
      (.addItemToCart (some productId) (some added))).contents.length =
        opened.items.length + 1 := by
  have hinserted : opened.perform (.addItemToCart (some productId) (some quantity)) =
      opened.insertRow productId quantity := perform_of_plans (Plans.insert hnew) rfl
  have hfound : ((opened.insertRow productId quantity).items.find?
      fun item => item.productId == productId) =
        some ⟨opened.store.items.nextKey, opened.cart.id, productId, quantity⟩ := by
    rw [items_insertRow, List.find?_append, hnew]
    simp
  have hitem := List.mem_of_find?_eq_some hfound
  rw [hinserted, contents, List.length_map, items_perform_dirtyWrite hitem (Plans.add hfound),
    List.length_map, items_insertRow, List.length_append, List.length_singleton]

/-- A product that neither addition has found gets two items. -/
theorem disorder_of_insert {productId : ℤ} {quantity added : Int32}
    (hfirst : Plans opened (.addItemToCart (some productId) (some quantity)) write)
    (hsecond : Plans opened (.addItemToCart (some productId) (some added)) otherWrite)
    (hmiddle : opened.commitWrite write = some middle)
    (hfinal : middle.commitWrite otherWrite = some final)
    (hnew : (opened.items.find? fun item => item.productId == productId) = none) :
    final.contents.length = opened.items.length + 2 := by
  rw [plans_of_insert hfirst hnew] at hmiddle
  rw [plans_of_insert hsecond hnew] at hfinal
  obtain rfl := Option.some.inj hmiddle
  obtain rfl := Option.some.inj hfinal
  rw [contents, List.length_map, items_insertRow, items_insertRow]
  simp

/-- The write of an addition that has found its item, and what is left when it
commits last. -/
theorem find?_of_add {productId : ℤ} {added quantity : Int32} {item : CartItem}
    (hfound : (opened.items.find? fun item => item.productId == productId) = some item)
    (hadded : added ≠ 0)
    (hsecond : Plans opened (.addItemToCart (some productId) (some added)) write)
    (hfinal : (opened.setRow item.id quantity).commitWrite write = some final) :
    (final.items.find? fun item => item.productId == productId) =
      some { item with quantity := item.quantity + added } := by
  obtain ⟨_, hsome, rfl⟩ := plans_of_add hsecond hfound
  obtain rfl := Option.some.inj hsome
  have hchanged : item.quantity + added ≠ item.quantity := fun heq =>
    hadded (Int32.add_eq_left.mp heq)
  rw [dirtyWrite, if_neg hchanged] at hfinal
  obtain ⟨-, rfl⟩ := commit_setQuantity hfinal
  have hset : ((opened.setRow item.id quantity).items.find?
      fun item => item.productId == productId) = some { item with quantity } :=
    find?_setRow quantity hfound
  have hagain := find?_setRow (item.quantity + added) hset
  exact hagain

/-- Two additions of one product, where the later one overwrites the sum. -/
theorem disorder_of_adds {productId : ℤ} {quantity added : Int32}
    (hfirst : Plans opened (.addItemToCart (some productId) (some quantity)) write)
    (hsecond : Plans opened (.addItemToCart (some productId) (some added)) otherWrite)
    (hmiddle : opened.commitWrite write = some middle)
    (hfinal : middle.commitWrite otherWrite = some final)
    (hnonzero : ∀ item, (opened.items.find? fun item => item.productId == productId) = some item →
      quantity ≠ 0 ∧ added ≠ 0) :
    final.contents ≠ ((opened.perform (.addItemToCart (some productId) (some quantity))).perform
        (.addItemToCart (some productId) (some added))).contents ∧
      final.contents ≠ ((opened.perform (.addItemToCart (some productId) (some added))).perform
        (.addItemToCart (some productId) (some quantity))).contents := by
  cases hfound : opened.items.find? fun item => item.productId == productId with
  | none =>
      have hlength := disorder_of_insert hfirst hsecond hmiddle hfinal hfound
      constructor
      · intro hserial
        have hother := congrArg List.length hserial
        rw [hlength, length_perform_adds hfound] at hother
        omega
      · intro hserial
        have hother := congrArg List.length hserial
        rw [hlength, length_perform_adds hfound] at hother
        omega
  | some item =>
      obtain ⟨hquantity, hadded⟩ := hnonzero item hfound
      have hchanged : item.quantity + quantity ≠ item.quantity := fun heq =>
        hquantity (Int32.add_eq_left.mp heq)
      obtain ⟨_, hsome, rfl⟩ := plans_of_add hfirst hfound
      obtain rfl := Option.some.inj hsome
      rw [dirtyWrite, if_neg hchanged] at hmiddle
      obtain ⟨-, rfl⟩ := commit_setQuantity hmiddle
      have hlast := find?_of_add hfound hadded hsecond hfinal
      constructor
      · intro hserial
        have hboth := quantity_eq hserial hlast (find?_perform_add (find?_perform_add hfound))
        have hsum : item.quantity + added = item.quantity + quantity + added := hboth
        exact hchanged ((Int32.add_left_inj added).mp hsum).symm
      · intro hserial
        have hboth := quantity_eq hserial hlast (find?_perform_add (find?_perform_add hfound))
        have hsum : item.quantity + added = item.quantity + added + quantity := hboth
        exact hquantity (Int32.left_eq_add.mp hsum)

/-- An update that an addition overwrites with a sum of its own. -/
theorem disorder_of_update {item : CartItem} {productId : ℤ} {quantity added : Int32}
    (hfound : (opened.items.find? fun item => item.productId == productId) = some item)
    (hquantity : ¬ quantity ≤ 0) (hchanged : quantity ≠ item.quantity) (hadded : added ≠ 0)
    (hsum : item.quantity + added ≠ quantity)
    (hsecond : Plans opened (.addItemToCart (some productId) (some added)) otherWrite)
    (hfinal : (opened.setRow item.id quantity).commitWrite otherWrite = some final) :
    final.contents ≠ ((opened.perform (.updateItemQuantity (some item.id) (some quantity))).perform
        (.addItemToCart (some productId) (some added))).contents ∧
      final.contents ≠ ((opened.perform (.addItemToCart (some productId) (some added))).perform
        (.updateItemQuantity (some item.id) (some quantity))).contents := by
  have hlast := find?_of_add hfound hadded hsecond hfinal
  constructor
  · intro hserial
    have hboth := quantity_eq hserial hlast
      (find?_perform_add (find?_perform_update hfound hquantity))
    have hsame : item.quantity + added = quantity + added := hboth
    exact hchanged ((Int32.add_left_inj added).mp hsame).symm
  · intro hserial
    have hsecondAdd : ((opened.perform (.addItemToCart (some productId) (some added))).items.find?
        fun item => item.productId == productId) =
          some { item with quantity := item.quantity + added } := find?_perform_add hfound
    have hafter := find?_perform_update hsecondAdd hquantity
    exact hsum (quantity_eq hserial hlast hafter)

/-- What two conflicting operations leave is not what they leave one after the
other. -/
theorem disorder_of_plans (hfirst : Plans opened first write)
    (hsecond : Plans opened second otherWrite) (hmiddle : opened.commitWrite write = some middle)
    (hfinal : middle.commitWrite otherWrite = some final)
    (hconflict : Conflict opened.items first second) :
    final.contents ≠ ((opened.perform first).perform second).contents ∧
      final.contents ≠ ((opened.perform second).perform first).contents := by
  unfold Conflict at hconflict
  split at hconflict
  · obtain ⟨rfl, hnonzero⟩ := hconflict
    exact disorder_of_adds hfirst hsecond hmiddle hfinal hnonzero
  · rename_i itemId quantity productId added
    obtain ⟨hpositive, item, hfound, rfl, hchanged, hadded, hsum⟩ := hconflict
    have hquantity : ¬ quantity ≤ 0 := Int32.not_le.mpr hpositive
    have hupdate := Plans.update (List.mem_of_find?_eq_some hfound) hquantity
    have hwrite : write = .setQuantity item.id quantity := by
      apply Option.some.inj
      rw [← plan_eq_some.mpr hfirst, plan_eq_some.mpr hupdate, dirtyWrite, if_neg hchanged]
    rw [hwrite] at hmiddle
    obtain ⟨-, rfl⟩ := commit_setQuantity hmiddle
    exact disorder_of_update hfound hquantity hchanged hadded hsum hsecond hfinal
  · exact absurd hconflict id

end OpenCart

/-! ## All schedules -/

theorem getOrCreateCart_existing {store : CartStore} {userId : JString} {cart : Cart}
    (hcart : store.findByUserId userId = some cart) :
    (store.getOrCreateCart userId).store = store := by
  unfold CartStore.getOrCreateCart
  split
  · rfl
  · rename_i hnone
    rw [hcart] at hnone
    cases hnone

/-- The final cart is the one that some order of the two operations gives. -/
def Serializable (store : CartStore) (userId : JString) (operations : Bool → CartOperation)
    (final : CartStore) : Prop :=
  ∃ first : Bool, final.contents userId =
    ((store.step ((operations first).call userId)).step
      ((operations !first).call userId)).contents userId

/-- The operation that commits last has made up its writes by the first commit,
and they do not go with what is committed. -/
def LosesUpdate (opened : OpenCart) (operations : Bool → CartOperation) (schedule : List Bool) :
    Prop :=
  ∃ first write, cartDatabase.firstCommit (startBoth opened operations) schedule =
    some (first, .planned write) ∧
      Conflict opened.items (operations first) (operations !first)

namespace OpenCart

variable {opened final : OpenCart} {userId : JString}

theorem Opens.of_tables (hopens : opened.Opens userId)
    (hcarts : final.store.carts = opened.store.carts) (hcart : final.cart = opened.cart) :
    final.Opens userId := by
  rw [Opens, CartStore.findByUserId, hcarts, hcart]
  exact hopens

theorem Opens.commit (hopens : opened.Opens userId) {write : RowWrite}
    (hcommit : opened.commitWrite write = some final) : final.Opens userId := by
  cases write with
  | nothing =>
      obtain rfl := Option.some.inj hcommit
      exact hopens
  | insertItem productId quantity =>
      obtain rfl := Option.some.inj hcommit
      exact hopens.of_tables rfl rfl
  | setQuantity itemId quantity =>
      obtain ⟨-, rfl⟩ := commit_setQuantity hcommit
      exact hopens.of_tables rfl rfl
  | deleteItems itemIds =>
      obtain ⟨-, rfl⟩ := commit_deleteItems hcommit
      exact hopens.of_tables rfl rfl

theorem Opens.perform (hopens : opened.Opens userId) (operation : CartOperation) :
    (opened.perform operation).Opens userId := by
  unfold OpenCart.perform
  split
  · rename_i write _
    cases hcommit : opened.commitWrite write with
    | none => exact hopens
    | some after => exact hopens.commit hcommit
  · exact hopens

/-- One operation after the other, in the service and on the opened cart. -/
theorem Opens.contents_steps (hopens : opened.Opens userId) (first second : CartOperation) :
    ((opened.store.step (first.call userId)).step (second.call userId)).contents userId =
      ((opened.perform first).perform second).contents := by
  rw [← hopens.perform_store first, ← (hopens.perform first).perform_store second]
  exact ((hopens.perform first).perform second).contents

end OpenCart

open OpenCart in
/-- The two orders, from the one that the commits suggest. -/
theorem serializable_iff_orders {store : CartStore} {opened final : OpenCart} {userId : JString}
    {operations : Bool → CartOperation} (hstore : opened.store = store)
    (hopens : opened.Opens userId) (hfinal : final.Opens userId) (first : Bool) :
    Serializable store userId operations final.store ↔
      final.contents = ((opened.perform (operations first)).perform (operations !first)).contents ∨
      final.contents =
        ((opened.perform (operations !first)).perform (operations first)).contents := by
  have horder : ∀ order : Bool, final.store.contents userId =
      ((store.step ((operations order).call userId)).step
        ((operations !order).call userId)).contents userId ↔
      final.contents =
        ((opened.perform (operations order)).perform (operations !order)).contents := by
    intro order
    rw [← hstore, hopens.contents_steps, hfinal.contents]
    rfl
  constructor
  · rintro ⟨order, hserial⟩
    rw [horder] at hserial
    by_cases hsame : order = first
    · subst hsame
      exact Or.inl hserial
    · obtain rfl := Bool.eq_not.mpr hsame
      rw [Bool.not_not] at hserial
      exact Or.inr hserial
  · rintro (hserial | hserial)
    · exact ⟨first, (horder first).mpr hserial⟩
    · refine ⟨!first, (horder !first).mpr ?_⟩
      rw [Bool.not_not]
      exact hserial

/-- Where the other operation has not made up its writes by the first commit,
one comes after the other. -/
theorem serializable_iff_of_perform {opened middle final : OpenCart} {userId : JString}
    {operations : Bool → CartOperation} {schedule : List Bool} {first : Bool} {phase : CartPhase}
    (hopens : opened.Opens userId) (hmiddleOpens : middle.Opens userId)
    (hmiddle : opened.perform (operations first) = middle)
    (hperform : final = middle.perform (operations !first))
    (hfirst : cartDatabase.firstCommit (startBoth opened operations) schedule =
      some (first, phase))
    (hfresh : ∀ write, phase ≠ .planned write) :
    Serializable opened.store userId operations final.store ↔
      ¬ LosesUpdate opened operations schedule := by
  have hfinalOpens : final.Opens userId := hperform ▸ hmiddleOpens.perform _
  apply iff_of_true
  · rw [serializable_iff_orders rfl hopens hfinalOpens first, hmiddle, hperform]
    exact Or.inl rfl
  · rintro ⟨_, write, hstale, -⟩
    rw [hfirst] at hstale
    cases hstale
    exact hfresh write rfl

open OpenCart in
/-- Where both operations return, the outcome is serializable exactly when no
addition has missed what the other operation commits. -/
theorem serializable_iff {store : CartStore} {userId : JString} {cart : Cart}
    (hcart : store.findByUserId userId = some cart) (operations : Bool → CartOperation)
    (schedule : List Bool) {final : World OpenCart CartWork RowWrite}
    (hrun : cartDatabase.run (startBoth (store.getOrCreateCart userId) operations) schedule = final)
    (hreturned : ∀ thread, final.phases thread = .returned) :
    Serializable store userId operations final.store.store ↔
      ¬ LosesUpdate (store.getOrCreateCart userId) operations schedule := by
  have hstore : (store.getOrCreateCart userId).store = store := getOrCreateCart_existing hcart
  have hopens : (store.getOrCreateCart userId).Opens userId := store.find_getOrCreateCart userId
  generalize store.getOrCreateCart userId = opened at *
  subst hstore
  have hactive : ∀ thread, (startBoth opened operations).phases thread ≠ .returned := by
    intro thread hended
    cases hended
  obtain ⟨⟨first, write, other, middle, hfirst, hplanned, hreached, hcommit, halone⟩⟩ :=
    Database.firstCommit_of_returned hactive hrun hreturned
  have hplans := plans_of_reads hplanned
  have hmiddle : opened.perform (operations first) = middle := perform_of_plans hplans hcommit
  have hmiddleOpens : middle.Opens userId := hopens.commit hcommit
  -- In the first two cases the other operation reads what matters after the first commit.
  rcases reads_operation hreached with rfl | ⟨item, rfl, hremoves⟩ | ⟨otherWrite, rfl, hother⟩ | rfl
  · have hfinal := alone_operation halone
    exact serializable_iff_of_perform hopens hmiddleOpens hmiddle hfinal hfirst
      fun _ hplanned => nomatch hplanned
  · have hfinal := alone_removal hremoves halone
    exact serializable_iff_of_perform hopens hmiddleOpens hmiddle hfinal hfirst
      fun _ hplanned => nomatch hplanned
  · cases halone with
    | commit hlast =>
        have hloses : LosesUpdate opened operations schedule ↔
            Conflict opened.items (operations first) (operations !first) := by
          constructor
          · rintro ⟨_, _, hstale, hconflict⟩
            rw [hfirst] at hstale
            cases hstale
            exact hconflict
          · intro hconflict
            exact ⟨first, otherWrite, hfirst, hconflict⟩
        rw [hloses, serializable_iff_orders rfl hopens (hmiddleOpens.commit hlast) first]
        constructor
        · intro hserial hconflict
          obtain ⟨hleft, hright⟩ := disorder_of_plans hplans hother hcommit hlast hconflict
          exact hserial.elim hleft hright
        · exact order_of_plans hplans hother hcommit hlast
  · cases halone

/-- A cart with two units of product 7. -/
def cartOfTwo : CartStore := CartStore.empty.addItemToCart (js "alice") 7 2

def addThree : CartOperation := .addItemToCart (some 7) (some 3)

/-- Both additions of three units read two and write five. -/
theorem serializable_lost :
    ¬ ∀ (store : CartStore) (userId : JString) (cart : Cart) (operations : Bool → CartOperation)
        (schedule : List Bool),
      store.findByUserId userId = some cart →
      (∀ thread, (cartDatabase.run (startBoth (store.getOrCreateCart userId) operations)
        schedule).phases thread = .returned) →
      Serializable store userId operations
        (cartDatabase.run (startBoth (store.getOrCreateCart userId) operations)
          schedule).store.store := by
  intro hserializable
  obtain ⟨first, hserial⟩ := hserializable cartOfTwo (js "alice") ⟨1, js "alice"⟩
    (fun _ => addThree) [false, true, false, true] (by decide) (by decide +kernel)
  have hlost : ¬ ((cartDatabase.run (startBoth (cartOfTwo.getOrCreateCart (js "alice"))
      fun _ => addThree) [false, true, false, true]).store.store.contents (js "alice") =
        ((cartOfTwo.step (addThree.call (js "alice"))).step
          (addThree.call (js "alice"))).contents (js "alice")) := by
    decide
  exact hlost hserial

theorem serializable_iff_addRemove :
    Serializable cartOfTwo (js "alice")
      (fun thread => if thread then .removeItemFromCart (some 1) else addThree)
      (cartDatabase.run (startBoth (cartOfTwo.getOrCreateCart (js "alice"))
        fun thread => if thread then .removeItemFromCart (some 1) else addThree)
          [false, true, true, false, true]).store.store ↔
      ¬ LosesUpdate (cartOfTwo.getOrCreateCart (js "alice"))
        (fun thread => if thread then .removeItemFromCart (some 1) else addThree)
        [false, true, true, false, true] :=
  serializable_iff rfl _ _ rfl (by decide)

end ShoppingWeb.CartService
