import ShoppingWeb.Lib.TransitionSystem
import ShoppingWeb.Checkout.CheckoutPage

/-!
# What a checkout orders

Every attempt adds the local cart to what the server cart already holds, and
the order is made of the server cart.  So an attempt orders what the page
shows exactly when the server cart holds, before it, what its own additions
leave out; when all of them are carried out, that is nothing.  The total is the
one shown when the page's sum of JavaScript numbers is printed as the exact sum.
-/

namespace ShoppingWeb.Checkout

open ShoppingWeb.Utf16
open ShoppingWeb.Binary64
open ShoppingWeb.Shared
open ShoppingWeb.CartService
open ShoppingWeb.OrderService
open ShoppingWeb.Quantities
open ShoppingWeb.TransitionSystem
open ShoppingWeb.OrderIsolation (ItemsBelong detailsOf_placement_order itemsBelong_empty
  placement_of_createdId rows_placement)
open ShoppingWeb.Program

def LocalItem.entry (item : LocalItem) : ℤ × ℤ := (item.id, item.quantity)

/-- Quantities as the numbers they stand for. -/
def asIntegers (entries : List (ℤ × Int32)) : List (ℤ × ℤ) :=
  entries.map (Prod.map id Int32.toInt)

/-- The items whose addition reaches the cart service and is accepted. -/
def pushedItems (attempt : Attempt) (entries : List (LocalItem × ℕ)) : List LocalItem :=
  (entries.filter fun entry =>
    (attempt.addItemFetch entry.2).isHandled && entry.1.isReadable).map Prod.fst

/-- The units that a 32-bit addition drops. -/
def droppedUnits (before added : ℤ) : ℤ :=
  before + added - (before + added).bmod (2 ^ 32)

theorem contents_pushAll (attempt : Attempt) (subject : JString)
    (entries : List (LocalItem × ℕ)) (cartStore : CartStore) :
    (pushAll attempt subject entries cartStore).contents subject =
      addAll (cartStore.contents subject)
        ((pushedItems attempt entries).map fun item => (item.id, Int32.ofInt item.quantity)) := by
  induction entries generalizing cartStore with
  | nil => rfl
  | cons entry entries ih =>
      rw [pushAll, List.foldl_cons, ← pushAll, ih]
      cases hhandled : (attempt.addItemFetch entry.2).isHandled with
      | false => simp [pushedItems, hhandled]
      | true =>
          cases hreadable : entry.1.isReadable with
          | false => simp [pushedItems, hhandled, hreadable, addItem]
          | true =>
              simp [pushedItems, hhandled, hreadable, addItem,
                CartStore.contents_addItemToCart, addAll]

/-- 32-bit sums are the sums of the numbers, taken to 32 bits. -/
theorem amountOf_ofInt (entries : List (ℤ × ℤ)) (productId : ℤ) :
    amountOf (entries.map fun entry => (entry.1, Int32.ofInt entry.2)) productId =
      Int32.ofInt (amountOf entries productId) := by
  induction entries with
  | nil => rfl
  | cons entry entries ih =>
      rw [List.map_cons, amountOf_cons, amountOf_cons, ih, Int32.ofInt_add]
      split
      · rfl
      · rfl

/-- What the additions leave of each product. -/
theorem amountOf_pushed (contents : List (ℤ × Int32)) (pushed : List LocalItem) (productId : ℤ) :
    amountOf (asIntegers (addAll contents
        (pushed.map fun item => (item.id, Int32.ofInt item.quantity)))) productId =
      amountOf (asIntegers contents) productId +
        amountOf (pushed.map LocalItem.entry) productId -
        droppedUnits (firstOf contents productId).toInt
          (amountOf (pushed.map LocalItem.entry) productId) := by
  have hmap : (pushed.map fun item => (item.id, Int32.ofInt item.quantity)) =
      (pushed.map LocalItem.entry).map fun entry => (entry.1, Int32.ofInt entry.2) := by
    rw [List.map_map]
    rfl
  have hsum : (firstOf contents productId +
      Int32.ofInt (amountOf (pushed.map LocalItem.entry) productId)).toInt =
        ((firstOf contents productId).toInt +
          amountOf (pushed.map LocalItem.entry) productId).bmod (2 ^ 32) := by
    rw [Int32.toInt_add, Int32.toInt_ofInt]
    exact Int.add_bmod_bmod
  rw [asIntegers, amountOf_addAll Int32.toInt_zero, hmap, amountOf_ofInt, hsum, asIntegers,
    droppedUnits]
  omega

/-- The same products, and the same number of units of each. -/
def SameProducts (left right : List (ℤ × ℤ)) : Prop :=
  (∀ productId, (∃ entry ∈ left, entry.1 = productId) ↔ ∃ entry ∈ right, entry.1 = productId) ∧
    ∀ productId, amountOf left productId = amountOf right productId

def OrderItem.entry (item : OrderItem) : ℤ × ℤ := (item.productId, item.quantity.toInt)

/-- The amount is the total on the screen and in the QR code. -/
structure CheckoutPage.ShowsTotal (page : CheckoutPage) (amount : ℚ) : Prop where
  inQr : page.qrAmount = some amount
  onScreen : page.shownAmount.map (fun shown => (shown : ℚ)) = some amount

/-- The order exists, with the products and quantities of the local cart and
the total that the page shows. -/
def OrdersLocalCart (tables : OrderTables) (orderId : ℤ) (page : CheckoutPage) : Prop :=
  ∃ order ∈ tables.orders.rows, order.id = orderId ∧ page.ShowsTotal order.totalAmount.toRat ∧
    SameProducts ((tables.detailsOf order).items.map OrderItem.entry)
      (page.cartItems.map LocalItem.entry)

/-- The server cart holds the units that the additions leave out, and no other
products than the local cart. -/
structure HoldsTheRest (contents : List (ℤ × Int32)) (cartItems pushed : List LocalItem) :
    Prop where
  products : ∀ productId,
    ((∃ entry ∈ contents, entry.1 = productId) ∨
      ∃ entry ∈ pushed.map LocalItem.entry, entry.1 = productId) ↔
        ∃ entry ∈ cartItems.map LocalItem.entry, entry.1 = productId
  units : ∀ productId,
    amountOf (asIntegers contents) productId =
      amountOf (cartItems.map LocalItem.entry) productId -
        amountOf (pushed.map LocalItem.entry) productId +
          droppedUnits (firstOf contents productId).toInt
            (amountOf (pushed.map LocalItem.entry) productId)

/-- With every addition carried out and all sums within 32 bits, the server
cart has to be empty. -/
theorem holdsTheRest_nil (cartItems : List LocalItem)
    (hfits : ∀ productId, fitsInteger (amountOf (cartItems.map LocalItem.entry) productId) = true) :
    HoldsTheRest [] cartItems cartItems where
  products productId := by simp
  units productId := by
    have hsum := of_decide_eq_true (hfits productId)
    have hexact : (amountOf (cartItems.map LocalItem.entry) productId).bmod (2 ^ 32) =
        amountOf (cartItems.map LocalItem.entry) productId :=
      Int.bmod_eq_of_le (by omega) (by omega)
    have hnothing : amountOf (asIntegers []) productId = 0 := rfl
    rw [hnothing, droppedUnits, firstOf, Int32.toInt_zero, zero_add, hexact, sub_self, add_zero]

/-- The prices of the catalog, as far as it gives any, are `prices`. -/
def CatalogAgrees (prices : ℤ → ℚ) (product : ℕ → CatalogAnswer) (lines : List CartItem) : Prop :=
  ∀ entry ∈ lines.zipIdx, ∀ name price, product entry.2 = .product name (some price) →
    price.toRat = prices entry.1.productId

/-! ## Totals -/

/-- What units of a product cost. -/
def costOf (prices : ℤ → ℚ) (productId : ℤ) : ℤ →+ ℚ :=
  (AddMonoidHom.mulLeft (prices productId)).comp (Int.castAddHom ℚ)

/-- What the local cart costs, without rounding. -/
def exactTotal (cartItems : List LocalItem) : ℚ :=
  (cartItems.map fun item => item.price.toRat * (item.quantity : ℚ)).sum

/-- The page prints its sum as what the local cart costs. -/
def PrintsExactly (cartItems : List LocalItem) : Prop :=
  (totalOf cartItems).map shortestDecimal = some (exactTotal cartItems) ∧
    (wholePart (exactTotal cartItems) : ℚ) = exactTotal cartItems

theorem showsTotal_iff {page : CheckoutPage} (htotal : page.total = totalOf page.cartItems) :
    page.ShowsTotal (exactTotal page.cartItems) ↔ PrintsExactly page.cartItems := by
  rw [PrintsExactly, ← htotal]
  constructor
  · rintro ⟨hqr, hscreen⟩
    rw [CheckoutPage.shownAmount, hqr] at hscreen
    exact ⟨hqr, Option.some.inj hscreen⟩
  · rintro ⟨hqr, hscreen⟩
    refine ⟨hqr, ?_⟩
    rw [CheckoutPage.shownAmount, CheckoutPage.qrAmount, hqr]
    exact congrArg some hscreen

theorem showsTotal_eq_of_total {left right : CheckoutPage} (htotal : left.total = right.total)
    {amount : ℚ} : left.ShowsTotal amount ↔ right.ShowsTotal amount := by
  have hqr : left.qrAmount = right.qrAmount := congrArg (Option.map shortestDecimal) htotal
  have hscreen : left.shownAmount = right.shownAmount := congrArg (Option.map wholePart) hqr
  constructor
  · rintro ⟨hinQr, honScreen⟩
    exact ⟨hqr ▸ hinQr, hscreen ▸ honScreen⟩
  · rintro ⟨hinQr, honScreen⟩
    exact ⟨hqr ▸ hinQr, hscreen ▸ honScreen⟩

/-- A price of whole đồng, for a quantity that the page can have. -/
structure LocalItem.IsWhole (item : LocalItem) : Prop where
  price : ∃ amount : ℕ, item.price.toRat = amount
  positive : 1 ≤ item.quantity
  fits : item.quantity < 2 ^ 53

/-- Sums of whole numbers are not rounded below `2 ^ 53`. -/
theorem foldl_whole {cartItems : List LocalItem} (hwhole : ∀ item ∈ cartItems, item.IsWhole)
    {start : ℤ} (hstart : 0 ≤ start) (hsum : start + exactTotal cartItems < 2 ^ 53) :
    ∃ sum : ℤ, 0 ≤ sum ∧ (sum : ℚ) = start + exactTotal cartItems ∧
      cartItems.foldl (fun sum item =>
        add sum (multiply (nearest item.price.toRat) (nearest item.quantity)))
          (some (start : ℚ)) = some (sum : ℚ) := by
  induction cartItems generalizing start with
  | nil => exact ⟨start, hstart, by simp [exactTotal], rfl⟩
  | cons item cartItems ih =>
      obtain ⟨⟨⟨amount, hamount⟩, hpositive, hfits⟩, hrest⟩ := List.forall_mem_cons.mp hwhole
      have hprice : item.price.toRat = ((amount : ℤ) : ℚ) := by rw [hamount, Int.cast_natCast]
      have hlater : 0 ≤ exactTotal cartItems := by
        apply List.sum_nonneg
        intro cost hcost
        obtain ⟨other, hother, rfl⟩ := List.mem_map.mp hcost
        obtain ⟨⟨price, hprice⟩, hquantity, -⟩ := hrest other hother
        rw [hprice]
        exact mul_nonneg (Nat.cast_nonneg _) (by exact_mod_cast (by omega : 0 ≤ other.quantity))
      have hsplit : exactTotal (item :: cartItems) =
          ((amount * item.quantity : ℤ) : ℚ) + exactTotal cartItems := by
        rw [exactTotal, List.map_cons, List.sum_cons, hprice, ← Int.cast_mul]
        rfl
      rw [hsplit, ← add_assoc, ← Int.cast_add] at hsum
      have hcost : 0 ≤ (amount : ℤ) * item.quantity :=
        mul_nonneg (Int.natCast_nonneg _) (by omega)
      have hbound : start + amount * item.quantity < 2 ^ 53 := by
        exact_mod_cast (le_add_of_nonneg_right hlater).trans_lt hsum
      have hamountLe : (amount : ℤ) ≤ amount * item.quantity :=
        le_mul_of_one_le_right (Int.natCast_nonneg _) hpositive
      obtain ⟨sum, hsumNonneg, hsumEq, hfold⟩ := ih hrest (by omega) hsum
      refine ⟨sum, hsumNonneg, ?_, ?_⟩
      · rw [hsumEq, hsplit, Int.cast_add, add_assoc]
      · rw [List.foldl_cons, hprice, nearest_intCast (Int.natCast_nonneg _) (by omega),
          nearest_intCast (by omega) hfits, multiply_intCast hcost (by omega),
          add_intCast (by omega) hbound]
        exact hfold

/-- Whole prices are summed up and printed exactly, below `2 ^ 53`. -/
theorem printsExactly_of_whole {cartItems : List LocalItem}
    (hwhole : ∀ item ∈ cartItems, item.IsWhole) (hsum : exactTotal cartItems < 2 ^ 53) :
    PrintsExactly cartItems := by
  obtain ⟨sum, hnonneg, hexact, hfold⟩ :=
    @foldl_whole cartItems hwhole 0 le_rfl (by rwa [Int.cast_zero, zero_add])
  rw [Int.cast_zero, zero_add] at hexact
  rw [Int.cast_zero] at hfold
  have hbound : sum < 2 ^ 53 := by
    rw [← hexact] at hsum
    exact_mod_cast hsum
  rw [PrintsExactly, totalOf, hfold, ← hexact, Option.map_some,
    shortestDecimal_intCast hnonneg hbound, wholePart_intCast hnonneg]
  exact ⟨rfl, rfl⟩

theorem exactTotal_eq_total {prices : ℤ → ℚ} {cartItems : List LocalItem}
    (hprices : ∀ item ∈ cartItems, item.price.toRat = prices item.id) :
    exactTotal cartItems = total (costOf prices) (cartItems.map LocalItem.entry) := by
  rw [exactTotal, total, List.map_map]
  congr 1
  apply List.map_congr_left
  intro item hitem
  rw [hprices item hitem]
  rfl

theorem cartTotal_eq_total {crypto : Crypto} {prices : ℤ → ℚ} {product : ℕ → CatalogAnswer}
    {lines : List CartItem} {draft : Draft} (hbuilt : buildItems crypto product lines = .ok draft)
    (hcatalog : CatalogAgrees prices product lines) :
    cartTotal product lines =
      total (costOf prices) (asIntegers (lines.map CartItem.entry)) := by
  have hproducts := buildItems_ok_iff.mp ⟨draft, hbuilt⟩
  have hlines : asIntegers (lines.map CartItem.entry) =
      lines.zipIdx.map fun entry => (entry.1.productId, entry.1.quantity.toInt) := by
    conv_lhs => rw [← List.zipIdx_map_fst 0 lines]
    simp only [asIntegers, List.map_map]
    rfl
  rw [cartTotal, total, hlines, List.map_map]
  congr 1
  apply List.map_congr_left
  intro entry hentry
  obtain ⟨name, price, hproduct⟩ := hproducts entry hentry
  rw [hproduct, TransactionSecurityService.getCurrentPrice,
    hcatalog entry hentry _ price hproduct]
  rfl

section Attempt

variable {backend : Backend} {attempt : Attempt} {jwt : Jwt} {browser : WebCrypto}
  {world : CheckoutWorld} {orderId : ℤ}

/-- The order tables are those the order service left. -/
theorem tables_completed :
    (completed backend attempt jwt browser orderId world).services.shop.tables =
      (orderAnswer backend attempt jwt browser world).2.tables := by
  rw [completed]
  simp only [postPayment_unsigned, ite_self]
  rfl

/-- The items of the order are the cart's, product by product. -/
theorem entries_saved {crypto : Crypto} {product : ℕ → CatalogAnswer} {lines : List CartItem}
    {draft : Draft} {saved : List OrderItem} (hbuilt : buildItems crypto product lines = .ok draft)
    (hcontent : saved.map OrderItem.content = draft.jpaOrderItems.map OrderItem.content) :
    saved.map OrderItem.entry = asIntegers (lines.map CartItem.entry) := by
  have hcontents (items : List OrderItem) : items.map OrderItem.entry =
      (items.map OrderItem.content).map OrderItem.entry := by
    rw [List.map_map]
    rfl
  calc
    saved.map OrderItem.entry = draft.jpaOrderItems.map OrderItem.entry := by
      rw [hcontents, hcontent, ← hcontents]
    _ = asIntegers (draft.jpaOrderItems.map fun item => (item.productId, item.quantity)) := by
      rw [asIntegers, List.map_map]
      rfl
    _ = asIntegers (lines.map CartItem.entry) := by
      rw [buildItems_quantities hbuilt]
      rfl

/-- The order that an attempt has created is made of the server cart. -/
theorem order_completed {prices : ℤ → ℚ} {page : CheckoutPage}
    (hbelong : ItemsBelong world.services.shop.tables)
    (hcreated : createdId (orderAnswer backend attempt jwt browser world).1 = some orderId)
    (hlocal : ∀ item ∈ page.cartItems, item.price.toRat = prices item.id)
    (hcatalog : CatalogAgrees prices attempt.environment.product
      ((shopAtOrder attempt jwt world).cartStore.linesOf jwt.subject)) :
    ∃ order ∈ (completed backend attempt jwt browser orderId
        world).services.shop.tables.orders.rows, order.id = orderId ∧
      (((completed backend attempt jwt browser orderId world).services.shop.tables.detailsOf
        order).items.map OrderItem.entry) =
          asIntegers ((shopAtOrder attempt jwt world).cartStore.contents jwt.subject) ∧
      (SameProducts (asIntegers ((shopAtOrder attempt jwt world).cartStore.contents jwt.subject))
        (page.cartItems.map LocalItem.entry) →
          order.totalAmount.toRat = exactTotal page.cartItems) := by
  obtain ⟨placement, ⟨-, -, hplace⟩, rfl, htables⟩ := placement_of_createdId hcreated
  obtain ⟨saved, hrows, hsaved, hcontent⟩ := rows_insertItems world.services.shop.tables.orderItems
    world.services.shop.tables.orders.nextKey placement.draft.jpaOrderItems
  have hdetails : (orderAnswer backend attempt jwt browser world).2.tables.detailsOf
      (placement.order attempt.environment (shopAtOrder attempt jwt world)) =
        ⟨placement.order attempt.environment (shopAtOrder attempt jwt world), saved⟩ := by
    rw [orderAnswer, htables]
    exact detailsOf_placement_order hbelong hrows hsaved
  rw [tables_completed]
  refine ⟨placement.order attempt.environment (shopAtOrder attempt jwt world), ?_, rfl, ?_, ?_⟩
  · rw [orderAnswer, htables, rows_placement]
    exact List.mem_append_right _ (List.mem_singleton.mpr rfl)
  · rw [hdetails]
    exact entries_saved hplace.built hcontent
  · intro hsame
    rw [exactTotal_eq_total hlocal, ← total_eq_of_amountOf_eq (costOf prices) hsame.2]
    exact (buildItems_totalAmount hplace.built).trans (cartTotal_eq_total hplace.built hcatalog)

/-- An order has what the page shows when the cart it is made of has, and the
page prints the sum of that exactly. -/
theorem ordersLocalCart_completed_iff {prices : ℤ → ℚ} {page : CheckoutPage}
    (hbelong : ItemsBelong world.services.shop.tables)
    (hcreated : createdId (orderAnswer backend attempt jwt browser world).1 = some orderId)
    (htotal : page.total = totalOf page.cartItems)
    (hlocal : ∀ item ∈ page.cartItems, item.price.toRat = prices item.id)
    (hcatalog : CatalogAgrees prices attempt.environment.product
      ((shopAtOrder attempt jwt world).cartStore.linesOf jwt.subject)) :
    OrdersLocalCart (completed backend attempt jwt browser orderId world).services.shop.tables
        orderId page ↔
      SameProducts
          (asIntegers ((shopAtOrder attempt jwt world).cartStore.contents jwt.subject))
          (page.cartItems.map LocalItem.entry) ∧
        PrintsExactly page.cartItems := by
  obtain ⟨placed, hplaced, hplacedId, hdetails, hamount⟩ :=
    order_completed hbelong hcreated hlocal hcatalog
  constructor
  · rintro ⟨order, hmem, hid, hshows, hsame⟩
    -- Ids are unique, so this is the order the attempt has placed.
    obtain rfl := Table.row_unique _ hmem hplaced (hid.trans hplacedId.symm)
    rw [hdetails] at hsame
    rw [hamount hsame] at hshows
    exact ⟨hsame, (showsTotal_iff htotal).mp hshows⟩
  · rintro ⟨hsame, hprints⟩
    refine ⟨placed, hplaced, hplacedId, ?_, ?_⟩
    · rw [hamount hsame]
      exact (showsTotal_iff htotal).mpr hprints
    · rw [hdetails]
      exact hsame

/-- What is in the server cart after the additions. -/
theorem sameProducts_shopAtOrder_iff :
    SameProducts
        (asIntegers ((shopAtOrder attempt jwt world).cartStore.contents jwt.subject))
        (world.page.cartItems.map LocalItem.entry) ↔
      HoldsTheRest (world.services.shop.cartStore.contents jwt.subject) world.page.cartItems
        (pushedItems attempt world.page.cartItems.zipIdx) := by
  have hkeys (entries : List (ℤ × Int32)) (productId : ℤ) :
      (∃ entry ∈ asIntegers entries, entry.1 = productId) ↔
        ∃ entry ∈ entries, entry.1 = productId := by
    simp [asIntegers]
  have hpushed (pushed : List LocalItem) (productId : ℤ) :
      (∃ entry ∈ pushed.map fun item => (item.id, Int32.ofInt item.quantity),
          entry.1 = productId) ↔
        ∃ entry ∈ pushed.map LocalItem.entry, entry.1 = productId := by
    simp [LocalItem.entry]
  simp only [shopAtOrder, contents_pushAll]
  constructor
  · rintro ⟨hproducts, hunits⟩
    constructor
    · intro productId
      rw [← hproducts productId, hkeys, exists_addAll_iff, hpushed]
    · intro productId
      have hsum := hunits productId
      rw [amountOf_pushed] at hsum
      omega
  · rintro ⟨hproducts, hunits⟩
    constructor
    · intro productId
      rw [hkeys, exists_addAll_iff, hpushed, hproducts productId]
    · intro productId
      have hrest := hunits productId
      rw [amountOf_pushed]
      omega

end Attempt

/-! ## The checkout -/

/-- An attempt that announces no order; the button works while the page is
idle. -/
def failedStep (backend : Backend) (world : CheckoutWorld) (attempt : Attempt) :
    Option CheckoutWorld :=
  if world.page.status = .idle then
    match confirmPayment backend attempt world with
    | (none, next) => some next
    | (some _, _) => none
  else none

theorem failedStep_eq_some {backend : Backend} {world next : CheckoutWorld} {attempt : Attempt}
    (hstep : failedStep backend world attempt = some next) :
    confirmPayment backend attempt world = (none, next) := by
  rw [failedStep] at hstep
  split at hstep
  · split at hstep
    · rename_i hnone
      rw [hnone, Option.some.inj hstep]
    · cases hstep
  · cases hstep

/-- The page goes on showing the local cart, over any number of attempts. -/
structure Shows (cartItems : List LocalItem) (world : CheckoutWorld) : Prop where
  cartItems_eq : world.page.cartItems = cartItems
  total_eq : world.page.total = totalOf cartItems
  itemsBelong : ItemsBelong world.services.shop.tables

theorem shows_failedStep {backend : Backend} {cartItems : List LocalItem}
    {world next : CheckoutWorld} {attempt : Attempt} (hshows : Shows cartItems world)
    (hstep : failedStep backend world attempt = some next) : Shows cartItems next := by
  have hnone := failedStep_eq_some hstep
  have hpage := (page_confirmPayment_none hnone).page_eq
  have hcontinues : Continues world (confirmPayment backend attempt world).2 :=
    continues_confirmPayment world
  rw [hnone] at hcontinues
  constructor
  · exact (congrArg CheckoutPage.cartItems hpage).trans hshows.cartItems_eq
  · exact (congrArg CheckoutPage.total hpage).trans hshows.total_eq
  · exact hcontinues.itemsBelong hshows.itemsBelong

/-- After any failed attempts, the order of the next one has the products, the
quantities and the total of the page exactly when the server cart held, before
it, what its own additions leave out, and the page prints its sum exactly. -/
theorem finalOrder_ordersLocalCart_iff {backend : Backend} {cartItems : List LocalItem}
    {phone address : JString} {services : PaidOrders.World} {failed : List Attempt}
    {last : Attempt} {before after : CheckoutWorld} {jwt : Jwt} {orderId : ℤ} {prices : ℤ → ℚ}
    (hbelong : ItemsBelong services.shop.tables)
    (hfailed : run (failedStep backend) ⟨.load cartItems phone address, services⟩ failed =
      some before)
    (htoken : last.token = some jwt)
    (hlast : confirmPayment backend last before = (some orderId, after))
    (hlocal : ∀ item ∈ cartItems, item.price.toRat = prices item.id)
    (hcatalog : CatalogAgrees prices last.environment.product
      ((shopAtOrder last jwt before).cartStore.linesOf jwt.subject)) :
    OrdersLocalCart after.services.shop.tables orderId (.load cartItems phone address) ↔
      HoldsTheRest (before.services.shop.cartStore.contents jwt.subject) cartItems
          (pushedItems last cartItems.zipIdx) ∧
        PrintsExactly cartItems := by
  have hshows : Shows cartItems before := by
    apply run_invariant _ _ hfailed
    · intro world attempt next hshows hstep
      exact shows_failedStep hshows hstep
    · exact ⟨rfl, rfl, hbelong⟩
  obtain ⟨subject, browser, hcompletes, rfl⟩ := confirmPayment_eq_some_iff.mp hlast
  obtain rfl := Option.some.inj (htoken.symm.trans hcompletes.token)
  obtain ⟨rfl, htotal, hbelong⟩ := hshows
  calc
    OrdersLocalCart _ orderId (.load before.page.cartItems phone address) ↔
        OrdersLocalCart _ orderId before.page := by
      have hload : (CheckoutPage.load before.page.cartItems phone address).total =
          before.page.total := htotal.symm
      simp only [OrdersLocalCart, showsTotal_eq_of_total hload]
      rfl
    _ ↔ SameProducts (asIntegers ((shopAtOrder last jwt before).cartStore.contents jwt.subject))
          (before.page.cartItems.map LocalItem.entry) ∧ PrintsExactly before.page.cartItems :=
      ordersLocalCart_completed_iff hbelong hcompletes.created htotal hlocal hcatalog
    _ ↔ _ := and_congr_left' sameProducts_shopAtOrder_iff

/-- An attempt whose first request does not get to the cart service. -/
def offlineAttempt : Attempt := { plainAttempt with addItemFetch := fun _ => .rejected false }

/-- An attempt whose signature the server refuses. -/
def refusedAttempt : Attempt := { plainAttempt with java := sampleJava }

theorem laptopPrice : (⟨500, 0⟩ : BigDecimal).toRat = 500 := by
  simp [BigDecimal.toRat]

theorem catalogAgrees_laptop (lines : List CartItem) :
    CatalogAgrees (fun _ => 500) plainAttempt.environment.product lines := by
  intro entry _ name price hproduct
  cases hproduct
  exact laptopPrice

theorem oneLaptop_price : ∀ item ∈ oneLaptop, item.price.toRat = 500 := by
  intro item hitem
  rw [List.mem_singleton.mp hitem]
  exact laptopPrice

theorem oneLaptop_whole : ∀ item ∈ oneLaptop, item.IsWhole := by
  intro item hitem
  rw [List.mem_singleton.mp hitem]
  exact ⟨⟨500, laptopPrice⟩, by decide, by decide⟩

theorem oneLaptop_total : exactTotal oneLaptop < 2 ^ 53 := by
  have htotal : exactTotal oneLaptop = 500 := by simp [exactTotal, oneLaptop, laptopPrice]
  rw [htotal]
  norm_num

/-- After an attempt that has added nothing, the order is the local cart. -/
theorem finalOrder_afterOffline :
    ∃ before after orderId,
      run (failedStep plainBackend) laptopPage [offlineAttempt] = some before ∧
        confirmPayment plainBackend plainAttempt before = (some orderId, after) ∧
        OrdersLocalCart after.services.shop.tables orderId laptopPage.page := by
  obtain ⟨before, hrun, hcheck⟩ := (Option.any_eq_true _ _).mp
    (show (run (failedStep plainBackend) laptopPage [offlineAttempt]).any (fun before =>
        (confirmPayment plainBackend plainAttempt before).1 == some 1 &&
          before.services.shop.cartStore.contents (js "alice") == []) = true by
      decide +kernel)
  simp only [Bool.and_eq_true, beq_iff_eq] at hcheck
  obtain ⟨hannounced, hempty⟩ := hcheck
  have hlast : confirmPayment plainBackend plainAttempt before =
      (some 1, (confirmPayment plainBackend plainAttempt before).2) :=
    Prod.ext hannounced rfl
  refine ⟨before, _, 1, hrun, hlast, ?_⟩
  apply (finalOrder_ordersLocalCart_iff itemsBelong_empty hrun rfl hlast
    oneLaptop_price (catalogAgrees_laptop _)).mpr
  have hpushed : pushedItems plainAttempt oneLaptop.zipIdx = oneLaptop := by decide
  have hcontents : before.services.shop.cartStore.contents
      OrderIsolation.aliceJwt.subject = [] := hempty
  rw [hcontents, hpushed]
  refine ⟨holdsTheRest_nil _ ?_, printsExactly_of_whole oneLaptop_whole oneLaptop_total⟩
  intro productId
  by_cases hproduct : 1 = productId
  · subst hproduct
    decide
  · simp [oneLaptop, LocalItem.entry, amountOf, hproduct, fitsInteger]

/-- After an attempt that was refused when the cart had been pushed, the order
has everything twice. -/
theorem finalOrder_doubled :
    ¬ ∀ (backend : Backend) (cartItems : List LocalItem) (phone address : JString)
      (services : PaidOrders.World) (failed : List Attempt) (last : Attempt)
      (before after : CheckoutWorld) (jwt : Jwt) (orderId : ℤ) (prices : ℤ → ℚ),
      ItemsBelong services.shop.tables →
      run (failedStep backend) ⟨.load cartItems phone address, services⟩ failed = some before →
      last.token = some jwt →
      confirmPayment backend last before = (some orderId, after) →
      (∀ item ∈ cartItems, item.price.toRat = prices item.id) →
      CatalogAgrees prices last.environment.product
        ((shopAtOrder last jwt before).cartStore.linesOf jwt.subject) →
      OrdersLocalCart after.services.shop.tables orderId (.load cartItems phone address) := by
  intro horders
  obtain ⟨before, hrun, hcheck⟩ := (Option.any_eq_true _ _).mp
    (show (run (failedStep plainBackend) laptopPage [refusedAttempt]).any (fun before =>
        (confirmPayment plainBackend plainAttempt before).1 == some 1 &&
          (confirmPayment plainBackend plainAttempt before).2.services.shop.tables.orders.rows.all
            fun order => amountOf
              (((confirmPayment plainBackend plainAttempt before).2.services.shop.tables.detailsOf
                order).items.map OrderItem.entry) 1 == 2) = true by
      decide +kernel)
  simp only [Bool.and_eq_true, beq_iff_eq, List.all_eq_true] at hcheck
  obtain ⟨hannounced, hdoubled⟩ := hcheck
  obtain ⟨order, hmem, -, -, hsame⟩ := horders plainBackend oneLaptop _ _ _ _ plainAttempt before
    _ OrderIsolation.aliceJwt 1 (fun _ => 500) itemsBelong_empty hrun rfl
    (Prod.ext hannounced rfl) oneLaptop_price (catalogAgrees_laptop _)
  have hunits := (hsame.2 1).symm.trans (hdoubled order hmem)
  exact absurd hunits (by decide)

end ShoppingWeb.Checkout
