import ShoppingWeb.Lib.TransitionSystem
import ShoppingWeb.Storefront.LocalCart

/-!
# Shopping in several tabs

The tabs of a browser share the local storage, but each page keeps what it has
read.  Every cart stays sound.  What the clicks ask for is what is stored as
long as a page writes back a view of the cart that nobody has changed since.
-/

namespace ShoppingWeb.Storefront

open ShoppingWeb.Utf16
open ShoppingWeb.Quantities
open ShoppingWeb.Checkout
open ShoppingWeb.TransitionSystem

/-- The pages a tab can show; the others have nothing to do with the cart. -/
inductive Tab where
  | catalog (cartCount : ℕ)
  | product (page : ProductPage)
  | cart (page : CartPage)
  | checkout (page : CheckoutPage)
  | elsewhere

structure Browser where
  vault_cart : Option (List CartEntry)
  tabs : List Tab

inductive Destination where
  | catalog
  | product
  | cart
  | checkout (phone address : JString)
  | elsewhere
  deriving DecidableEq, Repr

/-- The effect of the first render of a page. -/
def mount (vault_cart : Option (List CartEntry)) : Destination → Tab
  | .catalog => .catalog (parsed vault_cart).length
  | .product => .product (.mount vault_cart)
  | .cart => .cart (.mount vault_cart)
  | .checkout phone address =>
      .checkout (.load ((parsed vault_cart).map CartEntry.localItem) phone address)
  | .elsewhere => .elsewhere

/-- What happens in a tab. -/
inductive TabEvent where
  | navigate (destination : Destination)
  /-- The cart button of a product of the catalog page. -/
  | addFromCatalog (product : StoreProduct)
  /-- The answer to the request of the product page. -/
  | showProduct (product : StoreProduct)
  | less
  | more
  | addFromProduct
  /-- A button beside an item of the cart page, by the item's position. -/
  | press (position : ℕ) (button : CartButton)
  /-- `confirmPayment` has got to its success. -/
  | ordered

/-- A tab and the storage after an event in it, if the page shown has such an event. -/
def tabStep (vault_cart : Option (List CartEntry)) :
    Tab → TabEvent → Option (Option (List CartEntry) × Tab)
  | _, .navigate destination => some (vault_cart, mount vault_cart destination)
  | .catalog _, .addFromCatalog product =>
      let currentCart := addToCart product 1 (parsed vault_cart)
      some (some currentCart, .catalog currentCart.length)
  | .product page, .showProduct product =>
      some (vault_cart, .product { page with product := some product })
  | .product page, .less => some (vault_cart, .product page.less)
  | .product page, .more => some (vault_cart, .product page.more)
  | .product page, .addFromProduct =>
      page.product.map fun product =>
        let currentCart := addToCart product page.quantity (parsed vault_cart)
        (some currentCart, .product { page with cartCount := currentCart.length })
  | .cart page, .press position button =>
      page.cartItems[position]?.map fun item =>
        match page.press item button with
        | none => (vault_cart, .cart page)
        | some next => (some next.cartItems, .cart next)
  | .checkout page, .ordered =>
      if page.status = .success then none
      else some (none, .checkout { page with cartItems := [], status := .success })
  | _, _ => none

/-- The moves of `tabStep`, one for each thing a page does. -/
inductive Moves (vault_cart : Option (List CartEntry)) :
    Tab → TabEvent → Option (List CartEntry) × Tab → Prop
  | navigate (shown : Tab) (destination : Destination) :
      Moves vault_cart shown (.navigate destination) (vault_cart, mount vault_cart destination)
  | addFromCatalog (cartCount : ℕ) (product : StoreProduct) :
      Moves vault_cart (.catalog cartCount) (.addFromCatalog product)
        (some (addToCart product 1 (parsed vault_cart)),
          .catalog (addToCart product 1 (parsed vault_cart)).length)
  | showProduct (page : ProductPage) (product : StoreProduct) :
      Moves vault_cart (.product page) (.showProduct product)
        (vault_cart, .product { page with product := some product })
  | less (page : ProductPage) :
      Moves vault_cart (.product page) .less (vault_cart, .product page.less)
  | more (page : ProductPage) :
      Moves vault_cart (.product page) .more (vault_cart, .product page.more)
  | addFromProduct (page : ProductPage) (product : StoreProduct)
      (hproduct : page.product = some product) :
      Moves vault_cart (.product page) .addFromProduct
        (some (addToCart product page.quantity (parsed vault_cart)),
          .product { page with
            cartCount := (addToCart product page.quantity (parsed vault_cart)).length })
  | ignore (page : CartPage) (position : ℕ) (button : CartButton) (item : CartEntry)
      (hitem : page.cartItems[position]? = some item) (hpress : page.press item button = none) :
      Moves vault_cart (.cart page) (.press position button) (vault_cart, .cart page)
  | writeBack (page : CartPage) (position : ℕ) (button : CartButton) (item : CartEntry)
      (next : CartPage) (hitem : page.cartItems[position]? = some item)
      (hpress : page.press item button = some next) :
      Moves vault_cart (.cart page) (.press position button) (some next.cartItems, .cart next)
  | ordered (page : CheckoutPage) (hopen : page.status ≠ .success) :
      Moves vault_cart (.checkout page) .ordered
        (none, .checkout { page with cartItems := [], status := .success })

theorem moves_of_tabStep {vault_cart : Option (List CartEntry)} {shown : Tab} {event : TabEvent}
    {after : Option (List CartEntry) × Tab} (hafter : tabStep vault_cart shown event = some after) :
    Moves vault_cart shown event after := by
  fun_cases tabStep vault_cart shown event with
  | case1 shown destination =>
      rw [tabStep] at hafter
      obtain rfl := Option.some.inj hafter
      exact .navigate shown destination
  | case2 cartCount product =>
      obtain rfl := Option.some.inj hafter
      exact .addFromCatalog cartCount product
  | case3 page product =>
      obtain rfl := Option.some.inj hafter
      exact .showProduct page product
  | case4 page =>
      obtain rfl := Option.some.inj hafter
      exact .less page
  | case5 page =>
      obtain rfl := Option.some.inj hafter
      exact .more page
  | case6 page =>
      obtain ⟨product, hproduct, rfl⟩ := Option.map_eq_some_iff.mp hafter
      exact .addFromProduct page product hproduct
  | case7 page position button =>
      obtain ⟨item, hitem, rfl⟩ := Option.map_eq_some_iff.mp hafter
      cases hpress : page.press item button with
      | none => exact .ignore page position button item hitem hpress
      | some next => exact .writeBack page position button item next hitem hpress
  | case8 page hsuccess =>
      rw [tabStep, if_pos hsuccess] at hafter
      cases hafter
  | case9 page hopen =>
      rw [tabStep, if_neg hopen] at hafter
      obtain rfl := Option.some.inj hafter
      exact .ordered page hopen
  | case10 =>
      rw [tabStep] at hafter
      · cases hafter
      all_goals assumption

inductive ShopEvent where
  | openTab (destination : Destination)
  | inTab (tab : ℕ) (event : TabEvent)

namespace Browser

def step (browser : Browser) : ShopEvent → Option Browser
  | .openTab destination =>
      some { browser with tabs := browser.tabs ++ [mount browser.vault_cart destination] }
  | .inTab tab event =>
      browser.tabs[tab]?.bind fun shown =>
        (tabStep browser.vault_cart shown event).map fun after =>
          ⟨after.1, browser.tabs.set tab after.2⟩

/-- What an event in a tab leads to. -/
theorem step_inTab {browser next : Browser} {tab : ℕ} {event : TabEvent} :
    browser.step (.inTab tab event) = some next ↔
      ∃ shown after, browser.tabs[tab]? = some shown ∧
        tabStep browser.vault_cart shown event = some after ∧
        next = ⟨after.1, browser.tabs.set tab after.2⟩ := by
  simp only [step, Option.bind_eq_some_iff, Option.map_eq_some_iff, eq_comm (a := next)]
  constructor
  · rintro ⟨shown, hshown, after, hafter, heq⟩
    exact ⟨shown, after, hshown, hafter, heq⟩
  · rintro ⟨shown, after, hshown, hafter, heq⟩
    exact ⟨shown, hshown, after, hafter, heq⟩

end Browser

/-- What a tab shows of the cart is sound, and so is the sum beside it. -/
def Tab.Sound : Tab → Prop
  | .catalog _ => True
  | .product page => 1 ≤ page.quantity
  | .cart page => SoundCart page.cartItems ∧ page.total = sumOf page.cartItems
  | .checkout page =>
      ∃ cart, SoundCart cart ∧ page.total = sumOf cart ∧
        (page.status ≠ .success → page.cartItems = cart.map CartEntry.localItem)
  | .elsewhere => True

structure Browser.Sound (browser : Browser) : Prop where
  stored : SoundCart (parsed browser.vault_cart)
  shown : ∀ tab ∈ browser.tabs, tab.Sound

theorem sound_mount {vault_cart : Option (List CartEntry)}
    (hstored : SoundCart (parsed vault_cart)) (destination : Destination) :
    (mount vault_cart destination).Sound := by
  cases destination with
  | catalog => trivial
  | product => exact le_refl 1
  | cart =>
      cases vault_cart with
      | none => exact ⟨soundCart_nil, rfl⟩
      | some cart => exact ⟨hstored, rfl⟩
  | checkout phone address => exact ⟨parsed vault_cart, hstored, rfl, fun _ => rfl⟩
  | elsewhere => trivial

theorem sound_tabStep {vault_cart : Option (List CartEntry)} {shown : Tab} {event : TabEvent}
    {after : Option (List CartEntry) × Tab} (hstored : SoundCart (parsed vault_cart))
    (hshown : shown.Sound) (hafter : tabStep vault_cart shown event = some after) :
    SoundCart (parsed after.1) ∧ after.2.Sound := by
  cases moves_of_tabStep hafter with
  | navigate _ destination => exact ⟨hstored, sound_mount hstored destination⟩
  | addFromCatalog cartCount product => exact ⟨soundCart_addToCart hstored le_rfl, trivial⟩
  | showProduct page product => exact ⟨hstored, hshown⟩
  | less page => exact ⟨hstored, le_max_left 1 _⟩
  | more page =>
      have hquantity : 1 ≤ page.quantity := hshown
      exact ⟨hstored, le_add_of_le_of_nonneg hquantity zero_le_one⟩
  | addFromProduct page product hproduct => exact ⟨soundCart_addToCart hstored hshown, hshown⟩
  | ignore page position button item hitem hpress => exact ⟨hstored, hshown⟩
  | writeBack page position button item next hitem hpress =>
      obtain ⟨_, -, hsound, htotal, -⟩ :=
        press_eq_some hshown.1 (List.mem_of_getElem? hitem) hpress
      exact ⟨hsound, hsound, htotal⟩
  | ordered page hopen =>
      obtain ⟨cart, hcart, htotal, -⟩ := hshown
      exact ⟨soundCart_nil, cart, hcart, htotal, fun hopen => absurd rfl hopen⟩

theorem sound_step (browser : Browser) (event : ShopEvent) (next : Browser)
    (hsound : browser.Sound) (hstep : browser.step event = some next) : next.Sound := by
  cases event with
  | openTab destination =>
      obtain rfl := Option.some.inj hstep
      refine ⟨hsound.stored, fun tab htab => ?_⟩
      rcases List.mem_append.mp htab with hold | hnew
      · exact hsound.shown tab hold
      · rw [List.mem_singleton.mp hnew]
        exact sound_mount hsound.stored destination
  | inTab tab event =>
      obtain ⟨shown, after, hshown, hafter, rfl⟩ := Browser.step_inTab.mp hstep
      have hstepped := sound_tabStep hsound.stored
        (hsound.shown shown (List.mem_of_getElem? hshown)) hafter
      refine ⟨hstepped.1, fun other hother => ?_⟩
      rcases List.mem_or_eq_of_mem_set hother with hold | rfl
      · exact hsound.shown other hold
      · exact hstepped.2

/-- In every run, over any number of tabs, the stored cart and every cart shown
list distinct products with at least one unit each, and a cart page shows the
sum of what it lists. -/
theorem carts_sound {browser final : Browser} {events : List ShopEvent}
    (hsound : browser.Sound) (hrun : run Browser.step browser events = some final) :
    final.Sound :=
  run_invariant sound_step hsound hrun

def sampleLaptop : StoreProduct where
  id := 1
  name := js "Laptop"
  price := ⟨500, 0⟩
  category := js "Laptop"
  imageUrl := none

def twoTabs : Browser := ⟨none, [.elsewhere, .elsewhere]⟩

/-- The cart page of the second tab removes what the first tab has added. -/
theorem carts_sound_twoTabs :
    ∃ final, run Browser.step twoTabs
      [.inTab 0 (.navigate .catalog), .inTab 0 (.addFromCatalog sampleLaptop),
        .inTab 1 (.navigate .cart), .inTab 1 (.press 0 .remove)] = some final ∧ final.Sound := by
  have hsound : twoTabs.Sound := by
    refine ⟨soundCart_nil, fun tab htab => ?_⟩
    rw [List.eq_of_mem_replicate (n := 2) htab]
    trivial
  have hrun : ∃ final, run Browser.step twoTabs
      [.inTab 0 (.navigate .catalog), .inTab 0 (.addFromCatalog sampleLaptop),
        .inTab 1 (.navigate .cart), .inTab 1 (.press 0 .remove)] = some final := ⟨_, rfl⟩
  obtain ⟨final, hrun⟩ := hrun
  exact ⟨final, hrun, carts_sound hsound hrun⟩

end ShoppingWeb.Storefront
