import ShoppingWeb.Storefront.ClickLedger
import Mathlib.Algebra.BigOperators.Finprod

/-!
# From the clicks to the order

A customer who shops in one tab and then checks out.  The order has what the
clicks ask for, at the prices that were shown.
-/

namespace ShoppingWeb.Storefront

open ShoppingWeb.Utf16
open ShoppingWeb.Quantities
open ShoppingWeb.Shared
open ShoppingWeb.CartService
open ShoppingWeb.OrderService
open ShoppingWeb.Checkout
open ShoppingWeb.TransitionSystem
open ShoppingWeb.OrderIsolation (ItemsBelong)

/-- What the tab shows of the cart is what is stored. -/
def Tab.Current (stored : List CartEntry) : Tab → Prop
  | .cart page => page.cartItems = stored
  | .checkout page =>
      page.status ≠ .success → page.cartItems = stored.map CartEntry.localItem
  | _ => True

theorem current_mount (vault_cart : Option (List CartEntry)) (destination : Destination) :
    (mount vault_cart destination).Current (parsed vault_cart) := by
  cases destination with
  | cart => cases vault_cart <;> rfl
  | checkout phone address => exact fun _ => rfl
  | _ => trivial

theorem current_tabStep {vault_cart : Option (List CartEntry)} {shown : Tab} {event : TabEvent}
    {after : Option (List CartEntry) × Tab} (hcurrent : shown.Current (parsed vault_cart))
    (hafter : tabStep vault_cart shown event = some after) :
    after.2.Current (parsed after.1) := by
  cases moves_of_tabStep hafter with
  | navigate _ destination => exact current_mount vault_cart destination
  | ignore page position button item hitem hpress => exact hcurrent
  | writeBack page position button item next hitem hpress => rfl
  | ordered page hopen => exact fun hopen => absurd rfl hopen
  | _ => trivial

theorem upToDate_of_current {stored : List CartEntry} {shown : Tab}
    (hcurrent : shown.Current stored) (event : TabEvent) : UpToDate stored shown event := by
  cases event with
  | press position button =>
      cases shown with
      | cart page =>
          have hview : page.cartItems = stored := hcurrent
          intro item _ _ id _
          rw [hview]
      | _ => trivial
  | ordered =>
      cases shown with
      | checkout page =>
          intro hopen id
          rw [hcurrent hopen, List.map_map]
          rfl
      | _ => trivial
  | _ => cases shown <;> trivial

section Products

variable {allowed : StoreProduct → Prop}

/-- The products that an event brings in. -/
def TabEvent.Offers (allowed : StoreProduct → Prop) : TabEvent → Prop
  | .addFromCatalog product => allowed product
  | .showProduct product => allowed product
  | _ => True

def Tab.Lists (allowed : StoreProduct → Prop) : Tab → Prop
  | .product page => ∀ product, page.product = some product → allowed product
  | .cart page => ∀ item ∈ page.cartItems, allowed item.product
  | _ => True

theorem products_addToCart {product : StoreProduct} {quantity : ℤ} {cart : List CartEntry}
    (hcart : ∀ item ∈ cart, allowed item.product) (hproduct : allowed product) :
    ∀ item ∈ addToCart product quantity cart, allowed item.product := by
  induction cart with
  | nil => simpa [addToCart_nil] using hproduct
  | cons first cart ih =>
      obtain ⟨hfirst, hrest⟩ := List.forall_mem_cons.mp hcart
      rw [addToCart_cons]
      split
      · exact List.forall_mem_cons.mpr ⟨hfirst, hrest⟩
      · exact List.forall_mem_cons.mpr ⟨hfirst, ih hrest⟩

theorem lists_tabStep {vault_cart : Option (List CartEntry)} {shown : Tab} {event : TabEvent}
    {after : Option (List CartEntry) × Tab} (hsound : shown.Sound)
    (hstored : ∀ item ∈ parsed vault_cart, allowed item.product) (hshown : shown.Lists allowed)
    (hoffers : event.Offers allowed) (hafter : tabStep vault_cart shown event = some after) :
    (∀ item ∈ parsed after.1, allowed item.product) ∧ after.2.Lists allowed := by
  cases moves_of_tabStep hafter with
  | navigate _ destination =>
      refine ⟨hstored, ?_⟩
      cases destination with
      | product => exact fun product hproduct => by cases hproduct
      | cart =>
          cases vault_cart with
          | none => exact fun item hitem => by cases hitem
          | some cart => exact hstored
      | _ => trivial
  | addFromCatalog cartCount product => exact ⟨products_addToCart hstored hoffers, trivial⟩
  | showProduct page product =>
      refine ⟨hstored, fun shown hproduct => ?_⟩
      rw [← Option.some.inj hproduct]
      exact hoffers
  | less page => exact ⟨hstored, hshown⟩
  | more page => exact ⟨hstored, hshown⟩
  | addFromProduct page product hproduct =>
      exact ⟨products_addToCart hstored (hshown product hproduct), hshown⟩
  | ignore page position button item hitem hpress => exact ⟨hstored, hshown⟩
  | writeBack page position button item next hitem hpress =>
      obtain ⟨_, -, -, -, -, hproducts⟩ :=
        press_eq_some hsound.1 (List.mem_of_getElem? hitem) hpress
      have hlists : ∀ item ∈ next.cartItems, allowed item.product := by
        intro item hitem
        obtain ⟨old, hold, hsame⟩ := hproducts item hitem
        rw [hsame]
        exact hshown old hold
      exact ⟨hlists, hlists⟩
  | ordered page hopen =>
      refine ⟨fun item hitem => ?_, trivial⟩
      cases hitem

end Products

/-- A browser with one tab, which shows what is stored, and a stored cart that
keeps to the clicks and lists allowed products. -/
structure OneTab (allowed : StoreProduct → Prop) (shopping : Shopping) (shown : Tab) : Prop where
  tabs_eq : shopping.browser.tabs = [shown]
  sound : shopping.browser.Sound
  current : shown.Current shopping.stored
  keepsTo : shopping.KeepsTo
  products : ∀ item ∈ shopping.stored, allowed item.product
  lists : shown.Lists allowed

/-- A new browser, with nothing in the cart and nothing asked for. -/
def newSession : Shopping := ⟨⟨none, [.elsewhere]⟩, .nothing⟩

theorem oneTab_newSession (allowed : StoreProduct → Prop) :
    OneTab allowed newSession .elsewhere where
  tabs_eq := rfl
  sound :=
    ⟨soundCart_nil, fun tab htab => by rw [List.mem_singleton.mp htab]; trivial⟩
  current := trivial
  keepsTo _ := rfl
  products _ hitem := by cases hitem
  lists := trivial

theorem oneTab_step {allowed : StoreProduct → Prop} {shopping next : Shopping} {shown : Tab}
    {event : TabEvent} (hone : OneTab allowed shopping shown) (hoffers : event.Offers allowed)
    (hstep : shopping.step (.inTab 0 event) = some next) :
    ∃ after, OneTab allowed next after := by
  have hbrowser := (Shopping.step_eq_some.mp hstep).1
  obtain ⟨found, after, hfound, hafter, hnext⟩ := Browser.step_inTab.mp hbrowser
  obtain rfl : shown = found := by simpa [hone.tabs_eq] using hfound
  have hshown : shown.Sound := hone.sound.shown shown (List.mem_of_getElem? hfound)
  obtain ⟨hproducts, hlists⟩ := lists_tabStep hshown hone.products hone.lists hoffers hafter
  have hstored : next.stored = parsed after.1 := by rw [Shopping.stored, hnext]
  refine ⟨after.2, ?_, ?_, ?_, ?_, ?_, hlists⟩
  · rw [hnext, hone.tabs_eq]
    rfl
  · exact Shopping.sound_step shopping _ next hone.sound hstep
  · rw [hstored]
    exact current_tabStep hone.current hafter
  · apply (Shopping.keepsTo_step_iff shopping _ next hone.sound hone.keepsTo hstep).mpr
    intro other hother
    obtain rfl : shown = other := Option.some.inj (hfound.symm.trans hother)
    exact upToDate_of_current hone.current event
  · rw [hstored]
    exact hproducts

theorem oneTab_run {allowed : StoreProduct → Prop} {shopping final : Shopping} {shown : Tab}
    {events : List TabEvent} (hone : OneTab allowed shopping shown)
    (hoffers : ∀ event ∈ events, event.Offers allowed)
    (hrun : run Shopping.step shopping (events.map (.inTab 0)) = some final) :
    ∃ after, OneTab allowed final after := by
  induction events generalizing shopping shown with
  | nil =>
      obtain rfl : shopping = final := by simpa using hrun
      exact ⟨shown, hone⟩
  | cons event events ih =>
      obtain ⟨next, hnext, hrest⟩ := run_cons_eq_some.mp hrun
      obtain ⟨hevent, hevents⟩ := List.forall_mem_cons.mp hoffers
      obtain ⟨after, hafter⟩ := oneTab_step hone hevent hnext
      exact ih hafter hevents hrest

/-- What the checkout page of the session shows. -/
theorem checkout_of_oneTab {prices : ℤ → ℚ} {shopping : Shopping} {page : CheckoutPage}
    (hone : OneTab (fun product => product.price.toRat = prices product.id) shopping
      (.checkout page)) (hopen : page.status ≠ .success) :
    page.total = totalOf page.cartItems ∧
      (∀ item ∈ page.cartItems, item.price.toRat = prices item.id) ∧
      ∀ id, amountOf (page.cartItems.map LocalItem.entry) id = shopping.wanted id := by
  have hitems : page.cartItems = shopping.stored.map CartEntry.localItem := hone.current hopen
  have hmem : (Tab.checkout page) ∈ shopping.browser.tabs := by
    rw [hone.tabs_eq]
    exact List.mem_singleton_self _
  obtain ⟨cart, -, htotal, hcart⟩ := hone.sound.shown _ hmem
  refine ⟨?_, ?_, fun id => ?_⟩
  · rw [htotal, sumOf, hcart hopen]
  · intro item hitem
    rw [hitems] at hitem
    obtain ⟨old, hold, rfl⟩ := List.mem_map.mp hitem
    exact hone.products old hold
  · rw [← hone.keepsTo id, quantityOf, hitems, List.map_map]
    rfl

/-- All additions of an attempt that get through are pushed. -/
theorem pushedItems_eq {attempt : Attempt} {cartItems : List LocalItem}
    (hhandled : ∀ i, (attempt.addItemFetch i).isHandled = true)
    (hreadable : ∀ item ∈ cartItems, item.isReadable = true) :
    pushedItems attempt cartItems.zipIdx = cartItems := by
  rw [pushedItems, List.filter_eq_self.mpr, List.zipIdx_map_fst]
  intro entry hentry
  rw [hhandled, Bool.true_and]
  exact hreadable entry.1 (List.fst_mem_of_mem_zipIdx hentry)

/-- No quantity of the session goes past the 32 bits of the cart service. -/
theorem fits_of_oneTab {allowed : StoreProduct → Prop} {shopping : Shopping}
    {page : CheckoutPage} (hone : OneTab allowed shopping (.checkout page))
    (hopen : page.status ≠ .success)
    (hreadable : ∀ item ∈ page.cartItems, item.isReadable = true) (id : ℤ) :
    fitsInteger (amountOf (page.cartItems.map LocalItem.entry) id) = true := by
  have hitems : page.cartItems = shopping.stored.map CartEntry.localItem := hone.current hopen
  have hquantity : amountOf (page.cartItems.map LocalItem.entry) id =
      quantityOf shopping.stored id := by
    rw [quantityOf, hitems, List.map_map]
    rfl
  rw [hquantity]
  by_cases hlisted : id ∈ shopping.stored.map CartEntry.id
  · obtain ⟨item, hitem, rfl⟩ := List.mem_map.mp hlisted
    have hread := hreadable item.localItem (hitems ▸ List.mem_map_of_mem hitem)
    rw [show quantityOf shopping.stored item.id = item.quantity from
      quantityOf_of_mem hone.sound.stored.nodup hitem]
    exact (Bool.and_eq_true_iff.mp hread).2
  · rw [quantityOf_eq_zero hlisted]
    decide

/-- The items of the session have at least one unit. -/
theorem positive_of_oneTab {allowed : StoreProduct → Prop} {shopping : Shopping}
    {page : CheckoutPage} (hone : OneTab allowed shopping (.checkout page))
    (hopen : page.status ≠ .success) : ∀ item ∈ page.cartItems, 1 ≤ item.quantity := by
  have hitems : page.cartItems = shopping.stored.map CartEntry.localItem := hone.current hopen
  rw [hitems]
  intro item hitem
  obtain ⟨entry, hentry, rfl⟩ := List.mem_map.mp hitem
  exact hone.sound.stored.positive entry hentry

theorem quantity_lt_of_isReadable {item : LocalItem} (hreadable : item.isReadable = true) :
    item.quantity < 2 ^ 53 := by
  have hfits := of_decide_eq_true (Bool.and_eq_true_iff.mp hreadable).2
  omega

/-- Shop in one tab of a new browser and check out with an empty cart on the
server and every request getting through: the order has, of every product,
what the clicks ask for, and its total is what that costs.  Where prices are
whole and the sum is below `2 ^ 53`, it is the total shown, too. -/
theorem order_matches_clicks {backend : Backend} {events : List TabEvent} {shopping : Shopping}
    {page : CheckoutPage} {services : PaidOrders.World} {attempt : Attempt} {jwt : Jwt}
    {after : CheckoutWorld} {orderId : ℤ} {prices : ℤ → ℚ}
    (hoffers : ∀ event ∈ events,
      event.Offers fun product => product.price.toRat = prices product.id)
    (hrun : run Shopping.step newSession (events.map (.inTab 0)) = some shopping)
    (hpage : shopping.browser.tabs = [.checkout page]) (hopen : page.status ≠ .success)
    (hbelong : ItemsBelong services.shop.tables)
    (htoken : attempt.token = some jwt)
    (hempty : services.shop.cartStore.contents jwt.subject = [])
    (hhandled : ∀ i, (attempt.addItemFetch i).isHandled = true)
    (hreadable : ∀ item ∈ page.cartItems, item.isReadable = true)
    (hcatalog : CatalogAgrees prices attempt.environment.product
      ((shopAtOrder attempt jwt ⟨page, services⟩).cartStore.linesOf jwt.subject))
    (hconfirm : confirmPayment backend attempt ⟨page, services⟩ = (some orderId, after)) :
    ∃ order ∈ after.services.shop.tables.orders.rows, order.id = orderId ∧
      (∀ productId, amountOf
        ((after.services.shop.tables.detailsOf order).items.map OrderItem.entry) productId =
          shopping.wanted productId) ∧
      order.totalAmount.toRat = ∑ᶠ productId, prices productId * shopping.wanted productId ∧
      ((∀ item ∈ page.cartItems, ∃ amount : ℕ, item.price.toRat = amount) →
        order.totalAmount.toRat < 2 ^ 53 → page.ShowsTotal order.totalAmount.toRat) := by
  obtain ⟨shown, hone⟩ := oneTab_run
    (oneTab_newSession fun product => product.price.toRat = prices product.id) hoffers hrun
  obtain rfl : Tab.checkout page = shown := by simpa [hpage] using hone.tabs_eq
  obtain ⟨htotal, hlocal, hwanted⟩ := checkout_of_oneTab hone hopen
  obtain ⟨subject, browser, hcompletes, rfl⟩ := confirmPayment_eq_some_iff.mp hconfirm
  obtain rfl := Option.some.inj (htoken.symm.trans hcompletes.token)
  have hrest : HoldsTheRest (services.shop.cartStore.contents jwt.subject) page.cartItems
      (pushedItems attempt page.cartItems.zipIdx) := by
    rw [hempty, pushedItems_eq hhandled hreadable]
    exact holdsTheRest_nil page.cartItems (fits_of_oneTab hone hopen hreadable)
  obtain ⟨order, hmem, hid, hdetails, hamount⟩ :=
    order_completed hbelong hcompletes.created hlocal hcatalog
  have hsame := (@sameProducts_shopAtOrder_iff attempt jwt ⟨page, services⟩).mpr hrest
  refine ⟨order, hmem, hid, fun productId => ?_, ?_, fun hwhole hbound => ?_⟩
  · rw [hdetails, hsame.2 productId, hwanted]
  · have hkeys : ∀ entry ∈ page.cartItems.map LocalItem.entry,
        entry.1 ∈ ((page.cartItems.map LocalItem.entry).map Prod.fst).toFinset :=
      fun entry hentry => List.mem_toFinset.mpr (List.mem_map_of_mem hentry)
    rw [hamount hsame, exactTotal_eq_total hlocal, total_eq_sum (costOf prices) _ _ hkeys,
      finsum_eq_sum_of_support_subset]
    · apply Finset.sum_congr rfl
      intro productId _
      rw [hwanted]
      rfl
    · intro productId hsupport
      rw [Finset.mem_coe, List.mem_toFinset]
      by_contra hunlisted
      have hnothing : amountOf (page.cartItems.map LocalItem.entry) productId = 0 :=
        amountOf_eq_zero hunlisted
      rw [hwanted] at hnothing
      exact hsupport (by simp [hnothing])
  · rw [hamount hsame] at hbound ⊢
    refine (showsTotal_iff htotal).mpr (printsExactly_of_whole (fun item hitem => ?_) hbound)
    exact ⟨hwhole item hitem, positive_of_oneTab hone hopen item hitem,
      quantity_lt_of_isReadable (hreadable item hitem)⟩

/-- The clicks that lead to the checkout page with one laptop. -/
def laptopClicks : List TabEvent :=
  [.navigate .catalog, .addFromCatalog sampleLaptop,
    .navigate (.checkout (js "0900000000") (js "1 Main Street"))]

theorem confirmPayment_laptopPage :
    (confirmPayment plainBackend plainAttempt laptopPage).1 = some 1 ∧
      ∀ order ∈
        (confirmPayment plainBackend plainAttempt laptopPage).2.services.shop.tables.orders.rows,
        order.totalAmount = ⟨500, 0⟩ := by
  decide +kernel

theorem order_matches_laptopClicks :
    ∃ order ∈
        (confirmPayment plainBackend plainAttempt laptopPage).2.services.shop.tables.orders.rows,
      order.id = 1 ∧ laptopPage.page.ShowsTotal order.totalAmount.toRat := by
  have hrun : ∃ shopping, run Shopping.step newSession (laptopClicks.map (.inTab 0)) =
      some shopping ∧ shopping.browser.tabs = [.checkout laptopPage.page] := ⟨_, rfl, rfl⟩
  obtain ⟨shopping, hrun, hpage⟩ := hrun
  have hoffers : ∀ event ∈ laptopClicks,
      event.Offers fun product => product.price.toRat = (fun _ : ℤ => (500 : ℚ)) product.id := by
    simpa [laptopClicks, TabEvent.Offers, sampleLaptop] using laptopPrice
  have hconfirm : confirmPayment plainBackend plainAttempt laptopPage =
      (some 1, (confirmPayment plainBackend plainAttempt laptopPage).2) :=
    Prod.ext confirmPayment_laptopPage.1 rfl
  obtain ⟨order, hmem, hid, -, -, htotal⟩ := order_matches_clicks hoffers hrun hpage (by decide)
    OrderIsolation.itemsBelong_empty rfl rfl (fun _ => rfl) (by decide)
    (catalogAgrees_laptop _) hconfirm
  have hamount : order.totalAmount.toRat = 500 := by
    rw [confirmPayment_laptopPage.2 order hmem, laptopPrice]
  refine ⟨order, hmem, hid, htotal (fun item hitem => ⟨500, oneLaptop_price item hitem⟩) ?_⟩
  rw [hamount]
  norm_num

end ShoppingWeb.Storefront
