import ShoppingWeb.Storefront.ShoppingRuns
import Mathlib.Logic.Function.Basic

/-!
# What the clicks ask for

A ledger follows the clicks: a cart button of a product adds to its quantity, a
button of the cart page sets it to the number it leads to, and an order takes
away what it ordered.  The stored cart keeps to the ledger exactly as long as
every page that writes back its view, or orders it, shows what is stored.
-/

namespace ShoppingWeb.Storefront

open ShoppingWeb.Utf16
open ShoppingWeb.Quantities
open ShoppingWeb.Checkout
open ShoppingWeb.TransitionSystem

abbrev Wanted := ℤ → ℤ

namespace Wanted

def nothing : Wanted := fun _ => 0

def add (wanted : Wanted) (product : StoreProduct) (quantity : ℤ) : Wanted :=
  fun id => wanted id + if product.id = id then quantity else 0

def setTo (wanted : Wanted) (item : CartEntry) (quantity : ℤ) : Wanted :=
  fun id => if id = item.id then quantity else wanted id

def takeAway (wanted : Wanted) (ordered : List LocalItem) : Wanted :=
  fun id => wanted id - amountOf (ordered.map LocalItem.entry) id

/-- The ledger after an event in a tab. -/
def click (wanted : Wanted) : Tab → TabEvent → Wanted
  | .catalog _, .addFromCatalog product => wanted.add product 1
  | .product page, .addFromProduct =>
      match page.product with
      | none => wanted
      | some product => wanted.add product page.quantity
  | .cart page, .press position button =>
      match page.cartItems[position]? with
      | none => wanted
      | some item =>
          match button.asked item with
          | none => wanted
          | some asked => wanted.setTo item asked
  | .checkout page, .ordered => wanted.takeAway page.cartItems
  | _, _ => wanted

end Wanted

/-- The browser with the quantities that the clicks so far ask for. -/
structure Shopping where
  browser : Browser
  wanted : Wanted

namespace Shopping

def follow (shopping : Shopping) : ShopEvent → Wanted
  | .openTab _ => shopping.wanted
  | .inTab tab event =>
      match shopping.browser.tabs[tab]? with
      | none => shopping.wanted
      | some shown => shopping.wanted.click shown event

def step (shopping : Shopping) (event : ShopEvent) : Option Shopping :=
  (shopping.browser.step event).map fun browser => ⟨browser, shopping.follow event⟩

def stored (shopping : Shopping) : List CartEntry := parsed shopping.browser.vault_cart

/-- The stored cart is what the clicks ask for. -/
def KeepsTo (shopping : Shopping) : Prop :=
  ∀ id, quantityOf shopping.stored id = shopping.wanted id

end Shopping

/-- What a page writes back or orders is what is stored.  The item whose button
is pressed may differ, since its quantity is set anew. -/
def UpToDate (stored : List CartEntry) : Tab → TabEvent → Prop
  | .cart page, .press position button =>
      ∀ item, page.cartItems[position]? = some item → button.asked item ≠ none →
        ∀ id, id ≠ item.id → quantityOf page.cartItems id = quantityOf stored id
  | .checkout page, .ordered =>
      page.status ≠ .success →
        ∀ id, amountOf (page.cartItems.map LocalItem.entry) id = quantityOf stored id
  | _, _ => True

def Shopping.UpToDate (shopping : Shopping) : ShopEvent → Prop
  | .openTab _ => True
  | .inTab tab event =>
      ∀ shown, shopping.browser.tabs[tab]? = some shown →
        Storefront.UpToDate shopping.stored shown event

section Step

variable {vault_cart : Option (List CartEntry)} {wanted : Wanted}

theorem keepsTo_add {product : StoreProduct} {quantity : ℤ}
    (hkeeps : ∀ id, quantityOf (parsed vault_cart) id = wanted id) (id : ℤ) :
    quantityOf (addToCart product quantity (parsed vault_cart)) id =
      wanted.add product quantity id := by
  rw [quantityOf_addToCart, hkeeps, Wanted.add]

/-- A page that has written back its view keeps to the ledger exactly if the
view was up to date. -/
theorem keepsTo_writeBack_iff {page next : CartPage} {button : CartButton}
    {item : CartEntry} (hsound : SoundCart page.cartItems) (hmem : item ∈ page.cartItems)
    (hpress : page.press item button = some next)
    (hkeeps : ∀ id, quantityOf (parsed vault_cart) id = wanted id) {asked : ℤ}
    (hasked : button.asked item = some asked) :
    (∀ id, quantityOf next.cartItems id = wanted.setTo item asked id) ↔
      ∀ id, id ≠ item.id → quantityOf page.cartItems id = quantityOf (parsed vault_cart) id := by
  obtain ⟨quantity, hquantity, -, -, hquantities, -⟩ := press_eq_some hsound hmem hpress
  obtain rfl := Option.some.inj (hasked.symm.trans hquantity)
  simp only [hquantities, Wanted.setTo, hkeeps]
  constructor
  · intro hnext id hid
    have hother := hnext id
    rwa [if_neg hid, if_neg hid] at hother
  · intro hview id
    by_cases hid : id = item.id
    · rw [if_pos hid, if_pos hid]
    · rw [if_neg hid, if_neg hid, hview id hid]

theorem keepsTo_ordered_iff {page : CheckoutPage} (hopen : page.status ≠ .success)
    (hkeeps : ∀ id, quantityOf (parsed vault_cart) id = wanted id) :
    (∀ id, quantityOf (parsed none) id = wanted.click (.checkout page) .ordered id) ↔
      UpToDate (parsed vault_cart) (.checkout page) .ordered := by
  simp only [UpToDate, hopen, ne_eq, not_false_eq_true, true_imp_iff, Wanted.click,
    Wanted.takeAway, ← hkeeps]
  apply forall_congr'
  intro id
  rw [eq_comm, sub_eq_iff_eq_add, eq_comm]
  simp [parsed]

theorem keepsTo_tabStep_iff {shown : Tab} {event : TabEvent} (hshown : shown.Sound)
    (hkeeps : ∀ id, quantityOf (parsed vault_cart) id = wanted id)
    {after : Option (List CartEntry) × Tab} (hafter : tabStep vault_cart shown event = some after) :
    (∀ id, quantityOf (parsed after.1) id = wanted.click shown event id) ↔
      UpToDate (parsed vault_cart) shown event := by
  cases moves_of_tabStep hafter with
  | navigate _ destination => cases shown <;> exact iff_of_true hkeeps trivial
  | addFromCatalog cartCount product => exact iff_of_true (keepsTo_add hkeeps) trivial
  | showProduct page product => exact iff_of_true hkeeps trivial
  | less page => exact iff_of_true hkeeps trivial
  | more page => exact iff_of_true hkeeps trivial
  | addFromProduct page product hproduct =>
      simp only [Wanted.click, hproduct]
      exact iff_of_true (keepsTo_add hkeeps) trivial
  | ignore page position button item hitem hpress =>
      have hasked := press_eq_none_iff.mp hpress
      simp [Wanted.click, UpToDate, hitem, hasked, hkeeps]
  | writeBack page position button item next hitem hpress =>
      have hmem := List.mem_of_getElem? hitem
      obtain ⟨asked, hasked, -⟩ := press_eq_some hshown.1 hmem hpress
      simp only [Wanted.click, UpToDate, hitem, hasked, Option.some.injEq, forall_eq', ne_eq,
        reduceCtorEq, not_false_eq_true, true_imp_iff]
      exact keepsTo_writeBack_iff hshown.1 hmem hpress hkeeps hasked
  | ordered page hopen => exact keepsTo_ordered_iff hopen hkeeps

end Step

/-- A tab in which the event is not possible has no view to be up to date. -/
theorem upToDate_of_tabStep_none {vault_cart : Option (List CartEntry)} {shown : Tab}
    {event : TabEvent} (hnone : tabStep vault_cart shown event = none)
    (stored : List CartEntry) : UpToDate stored shown event := by
  cases event with
  | press position button =>
      cases shown with
      | cart page =>
          intro item hitem
          simp [tabStep, hitem] at hnone
      | _ => trivial
  | ordered =>
      cases shown with
      | checkout page =>
          intro hopen
          simp [tabStep, hopen] at hnone
      | _ => trivial
  | _ => cases shown <;> trivial

namespace Shopping

theorem step_eq_some {shopping next : Shopping} {event : ShopEvent} :
    shopping.step event = some next ↔
      shopping.browser.step event = some next.browser ∧
        shopping.follow event = next.wanted := by
  simp only [step, Option.map_eq_some_iff]
  constructor
  · rintro ⟨browser, hbrowser, rfl⟩
    exact ⟨hbrowser, rfl⟩
  · rintro ⟨hbrowser, hwanted⟩
    exact ⟨next.browser, hbrowser, by rw [hwanted]⟩

theorem sound_step (shopping : Shopping) (event : ShopEvent) (next : Shopping)
    (hsound : shopping.browser.Sound) (hstep : shopping.step event = some next) :
    next.browser.Sound :=
  Storefront.sound_step shopping.browser event next.browser hsound (step_eq_some.mp hstep).1

theorem keepsTo_step_iff (shopping : Shopping) (event : ShopEvent) (next : Shopping)
    (hsound : shopping.browser.Sound) (hkeeps : shopping.KeepsTo)
    (hstep : shopping.step event = some next) :
    next.KeepsTo ↔ shopping.UpToDate event := by
  obtain ⟨hbrowser, hwanted⟩ := step_eq_some.mp hstep
  cases event with
  | openTab destination =>
      have hnext := Option.some.inj hbrowser
      refine iff_of_true (fun id => ?_) trivial
      rw [stored, ← hnext, ← hwanted]
      exact hkeeps id
  | inTab tab event =>
      obtain ⟨shown, after, hshown, hafter, hnext⟩ := Browser.step_inTab.mp hbrowser
      have htab := keepsTo_tabStep_iff (hsound.shown shown (List.mem_of_getElem? hshown)) hkeeps
        hafter
      simp only [follow, hshown] at hwanted
      simp only [KeepsTo, stored, hnext, ← hwanted, UpToDate, hshown, Option.some.injEq,
        forall_eq']
      exact htab

theorem upToDate_of_step_none (shopping : Shopping) (event : ShopEvent)
    (hstep : shopping.step event = none) : shopping.UpToDate event := by
  rw [step, Option.map_eq_none_iff] at hstep
  cases event with
  | openTab destination => trivial
  | inTab tab event =>
      intro shown hshown
      rw [Browser.step, hshown, Option.bind_some, Option.map_eq_none_iff] at hstep
      exact upToDate_of_tabStep_none hstep _

/-- Throughout a run, over any number of tabs, the stored cart is what the
clicks ask for exactly if every page that writes back or orders its view of the
cart is up to date when it does. -/
theorem keepsTo_throughout_iff {shopping : Shopping} {events : List ShopEvent}
    (hsound : shopping.browser.Sound) (hkeeps : shopping.KeepsTo) :
    Throughout step KeepsTo shopping events ↔ Guarded step UpToDate shopping events :=
  @throughout_iff_guarded _ _ step UpToDate KeepsTo (fun shopping => shopping.browser.Sound)
    sound_step keepsTo_step_iff upToDate_of_step_none _ hsound hkeeps events

def sampleMouse : StoreProduct where
  id := 2
  name := js "Mouse"
  price := ⟨20, 0⟩
  category := js "Accessories"
  imageUrl := none

/-- A cart page that still shows a mouse which another tab has removed. -/
def staleTab : Shopping where
  browser :=
    { vault_cart := some [⟨sampleLaptop, 1⟩]
      tabs := [.cart (.mount (some [⟨sampleLaptop, 1⟩, ⟨sampleMouse, 1⟩]))] }
  wanted := Wanted.nothing.add sampleLaptop 1

/-- One more laptop brings the mouse back. -/
theorem keepsTo_throughout_staleTab :
    ¬ Throughout step KeepsTo staleTab [.inTab 0 (.press 0 .plus)] := by
  have hlaptop : SoundCart [⟨sampleLaptop, 1⟩] := ⟨by decide, by decide⟩
  have hboth : SoundCart [⟨sampleLaptop, 1⟩, ⟨sampleMouse, 1⟩] := ⟨by decide, by decide⟩
  have hsound : staleTab.browser.Sound := by
    refine ⟨hlaptop, fun tab htab => ?_⟩
    rw [List.mem_singleton.mp htab]
    exact ⟨hboth, rfl⟩
  have hkeeps : staleTab.KeepsTo := by
    intro id
    have hone : quantityOf [⟨sampleLaptop, 1⟩] id = if sampleLaptop.id = id then 1 else 0 := by
      rw [quantityOf_cons, quantityOf_nil, add_zero]
      rfl
    exact hone.trans (zero_add _).symm
  rw [keepsTo_throughout_iff hsound hkeeps]
  rintro ⟨hview, -⟩
  have hmouse := hview _ rfl ⟨sampleLaptop, 1⟩ rfl (by decide) 2 (by decide)
  exact absurd hmouse (by decide)

end Shopping

end ShoppingWeb.Storefront
