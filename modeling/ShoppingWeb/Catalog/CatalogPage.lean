import ShoppingWeb.Lib.JavaScriptText
import ShoppingWeb.Lib.Paging
import ShoppingWeb.Lib.TransitionSystem
import Mathlib.Data.List.Infix
import Mathlib.Data.Rat.Defs

/-!
# The catalog page

The page shows its list of products ten at a time.  The list is a built-in one
until the server's arrives.  A search or a filter goes back to page 1; the
server's list does not, so the page number may be past its end.
-/

namespace ShoppingWeb.Catalog

open ShoppingWeb.Utf16
open ShoppingWeb.Paging
open ShoppingWeb.TransitionSystem

/-- A product as the page reads it; a missing field is undefined or null. -/
structure CatalogProduct where
  id : ℤ
  name : Option JString
  productName : Option JString
  title : Option JString
  price : Option ℚ
  category : Option JString
  categoryName : Option JString
  categoryId : Option ℤ
  deriving DecidableEq

inductive PriceFilter where
  | All
  | Under10
  | From10To30
  | Over30
  deriving DecidableEq, Repr

structure CatalogPage where
  products : List CatalogProduct
  searchTerm : JString
  filterCategory : JString
  filterPrice : PriceFilter
  currentPage : ℕ
  /-- The request for the server's list is on its way. -/
  pending : Bool
  deriving DecidableEq

def itemsPerPage : ℕ := 10

/-- `text || other` on strings that may be missing. -/
def orText (text other : Option JString) : Option JString :=
  (text.filter (· ≠ [])).or other

/-- `text.includes(term)` -/
def includes (text term : JString) : Bool := decide (term <:+: text)

def mockProduct (id : ℤ) (name : String) (price : ℚ) (category : String) : CatalogProduct where
  id := id
  name := some (js name)
  productName := none
  title := none
  price := some price
  category := some (js category)
  categoryName := none
  categoryId := none

def MOCK_PRODUCTS : List CatalogProduct :=
  [
    mockProduct 1 "iPhone 15 Pro Max" 29000000 "Smartphone",
    mockProduct 2 "Samsung Galaxy S24 Ultra" 31000000 "Smartphone",
    mockProduct 3 "Google Pixel 8 Pro" 25000000 "Smartphone",
    mockProduct 4 "Xiaomi 14 Pro" 22000000 "Smartphone",
    mockProduct 5 "Oppo Find X7 Ultra" 26000000 "Smartphone",
    mockProduct 6 "Sony Xperia 1 V" 32000000 "Smartphone",
    mockProduct 7 "Asus ROG Phone 8" 28000000 "Smartphone",
    mockProduct 8 "iPhone 15" 20000000 "Smartphone",
    mockProduct 9 "Samsung Galaxy Z Fold 5" 40000000 "Smartphone",
    mockProduct 10 "Samsung Galaxy Z Flip 5" 22000000 "Smartphone",
    mockProduct 11 "MacBook Pro 16 M3 Max" 85000000 "Laptop",
    mockProduct 12 "MacBook Air 15 M3" 35000000 "Laptop",
    mockProduct 13 "Dell XPS 15 9530" 55000000 "Laptop",
    mockProduct 14 "Lenovo ThinkPad X1 Carbon Gen 11" 45000000 "Laptop",
    mockProduct 15 "Asus Zephyrus G14" 40000000 "Laptop",
    mockProduct 16 "Razer Blade 16" 90000000 "Laptop",
    mockProduct 17 "HP Spectre x360" 38000000 "Laptop",
    mockProduct 18 "LG Gram 17" 36000000 "Laptop",
    mockProduct 19 "Alienware m18" 85000000 "Laptop",
    mockProduct 20 "Surface Laptop Studio 2" 65000000 "Laptop",
    mockProduct 21 "iPad Pro 12.9 M2" 30000000 "Tablet",
    mockProduct 22 "iPad Air 5" 15000000 "Tablet",
    mockProduct 23 "Samsung Galaxy Tab S9 Ultra" 28000000 "Tablet",
    mockProduct 24 "Xiaomi Pad 6 Max" 12000000 "Tablet",
    mockProduct 25 "Amazon Kindle Paperwhite" 3500000 "Tablet",
    mockProduct 26 "Boox Note Air 3" 11000000 "Tablet",
    mockProduct 27 "Surface Pro 9" 25000000 "Tablet",
    mockProduct 28 "Lenovo Tab P12 Pro" 18000000 "Tablet",
    mockProduct 29 "iPad Mini 6" 13000000 "Tablet",
    mockProduct 30 "Remarkable 2" 12000000 "Tablet",
    mockProduct 31 "AirPods Pro 2" 6000000 "Audio",
    mockProduct 32 "AirPods Max" 12000000 "Audio",
    mockProduct 33 "Sony WH-1000XM5" 8500000 "Audio",
    mockProduct 34 "Sony WF-1000XM5" 6500000 "Audio",
    mockProduct 35 "Bose QuietComfort Ultra" 9000000 "Audio",
    mockProduct 36 "Sennheiser Momentum 4" 8000000 "Audio",
    mockProduct 37 "Marshall Motif II ANC" 4500000 "Audio",
    mockProduct 38 "Jabra Elite 8 Active" 5000000 "Audio",
    mockProduct 39 "Samsung Galaxy Buds 2 Pro" 4000000 "Audio",
    mockProduct 40 "Devialet Gemini II" 11000000 "Audio",
    mockProduct 41 "Apple Watch Ultra 2" 20000000 "Accessories",
    mockProduct 42 "Apple Watch Series 9" 10000000 "Accessories",
    mockProduct 43 "Samsung Galaxy Watch 6 Classic" 8000000 "Accessories",
    mockProduct 44 "Garmin Epix Pro" 25000000 "Accessories",
    mockProduct 45 "Garmin Fenix 7X" 22000000 "Accessories",
    mockProduct 46 "Anker 737 Power Bank" 3500000 "Accessories",
    mockProduct 47 "Apple MagSafe Charger" 1200000 "Accessories",
    mockProduct 48 "Logitech MX Master 3S" 2500000 "Accessories",
    mockProduct 49 "Keychron Q1 Pro" 4500000 "Accessories",
    mockProduct 50 "Sony DualSense Edge" 5500000 "Accessories"]

/-- The answer to `/api/catalog/products`. -/
inductive ProductsResponse where
  | content (items : List CatalogProduct)
  | list (items : List CatalogProduct)
  | other
  | failed
  deriving DecidableEq

def ProductsResponse.items : ProductsResponse → List CatalogProduct
  | .content items => items
  | .list items => items
  | .other => []
  | .failed => []

/-- The category of the server's product, in the words of the page. -/
def mapItem (p : CatalogProduct) : CatalogProduct :=
  { p with
    category := orText p.category
      (some
        (if p.categoryId = some 1 then js "Smartphone"
        else if p.categoryId = some 2 then js "Laptop"
        else js "Accessories")) }

namespace CatalogPage

def initial : CatalogPage where
  products := MOCK_PRODUCTS
  searchTerm := []
  filterCategory := js "All"
  filterPrice := .All
  currentPage := 1
  pending := true

/-- The options of the first filter. -/
def categories (page : CatalogPage) : List JString :=
  (js "All" :: (page.products.filterMap CatalogProduct.category).eraseDups).filter (· ≠ [])

section

variable (toLowerCase : JString → JString)

/-- The predicate of `filteredProducts`. -/
def passes (page : CatalogPage) (p : CatalogProduct) : Bool :=
  let safeName := toLowerCase ((orText p.name (orText p.productName p.title)).getD [])
  let safeCategory := toLowerCase ((orText p.category p.categoryName).getD [])
  let term := toLowerCase page.searchTerm
  let termMatch := includes safeName term || includes safeCategory term
  let categoryMatch := page.filterCategory = js "All" || p.category = some page.filterCategory
  let price := p.price.getD 0
  let priceMatch :=
    match page.filterPrice with
    | .All => true
    | .Under10 => decide (price < 10000000)
    | .From10To30 => decide (10000000 ≤ price) && decide (price ≤ 30000000)
    | .Over30 => decide (30000000 < price)
  termMatch && categoryMatch && priceMatch

def filteredProducts (page : CatalogPage) : List CatalogProduct :=
  page.products.filter (page.passes toLowerCase)

def totalPages (page : CatalogPage) : ℕ :=
  pageCount itemsPerPage (page.filteredProducts toLowerCase)

def currentProducts (page : CatalogPage) : List CatalogProduct :=
  pageAt itemsPerPage page.currentPage (page.filteredProducts toLowerCase)

end

end CatalogPage

inductive CatalogEvent where
  | search (term : JString)
  | filterCategory (category : JString)
  | filterPrice (range : PriceFilter)
  | previous
  | goTo (idx : ℕ)
  | next
  | arrival (response : ProductsResponse)
  deriving DecidableEq

variable (toLowerCase : JString → JString)

/-- The pager is there with two pages and more, its arrows where they lead
somewhere. -/
def step (page : CatalogPage) : CatalogEvent → Option CatalogPage
  | .search term => some { page with searchTerm := term, currentPage := 1 }
  | .filterCategory category =>
      if category ∈ page.categories then
        some { page with filterCategory := category, currentPage := 1 }
      else none
  | .filterPrice range => some { page with filterPrice := range, currentPage := 1 }
  | .previous =>
      if 1 < page.totalPages toLowerCase ∧ page.currentPage ≠ 1 then
        some { page with currentPage := max (page.currentPage - 1) 1 }
      else none
  | .goTo idx =>
      if 1 < page.totalPages toLowerCase ∧ idx < page.totalPages toLowerCase then
        some { page with currentPage := idx + 1 }
      else none
  | .next =>
      if 1 < page.totalPages toLowerCase ∧ page.currentPage ≠ page.totalPages toLowerCase then
        some { page with
          currentPage := min (page.currentPage + 1) (page.totalPages toLowerCase) }
      else none
  | .arrival response =>
      if page.pending then
        if 0 < response.items.length then
          some { page with products := response.items.map mapItem, pending := false }
        else some { page with pending := false }
      else none

/-- A list with an entry is shown on a page with an entry. -/
def ShowsProducts (page : CatalogPage) : Prop :=
  page.filteredProducts toLowerCase ≠ [] →
    page.currentProducts toLowerCase ≠ [] ∧
      1 ≤ page.currentPage ∧ page.currentPage ≤ page.totalPages toLowerCase

/-- A list that arrives has enough products for the number of the page. -/
def ArrivalFits (page : CatalogPage) : CatalogEvent → Prop
  | .arrival response =>
      let arriving := (response.items.map mapItem).filter (page.passes toLowerCase)
      page.pending → arriving = [] ∨ (page.currentPage - 1) * itemsPerPage < arriving.length
  | _ => True

variable {toLowerCase}
variable {page next : CatalogPage}

theorem showsProducts_iff (hpage : 1 ≤ page.currentPage) :
    ShowsProducts toLowerCase page ↔
      page.filteredProducts toLowerCase = [] ∨
        (page.currentPage - 1) * itemsPerPage < (page.filteredProducts toLowerCase).length := by
  unfold ShowsProducts CatalogPage.currentProducts CatalogPage.totalPages
  rw [pageAt_ne_nil (by decide) hpage, le_pageCount (by decide) hpage, imp_iff_not_or, not_not]
  simp only [hpage, true_and, and_self]

theorem showsProducts_of_le (hpage : 1 ≤ page.currentPage)
    (hcount : page.currentPage ≤ page.totalPages toLowerCase) : ShowsProducts toLowerCase page :=
  (showsProducts_iff hpage).mpr (.inr ((le_pageCount (by decide) hpage _).mp hcount))

theorem showsProducts_first (hfirst : page.currentPage = 1) : ShowsProducts toLowerCase page := by
  intro hfiltered
  have hcount : 1 ≤ page.totalPages toLowerCase := one_le_pageCount (by decide) hfiltered
  exact showsProducts_of_le hfirst.ge (hfirst ▸ hcount) hfiltered

/-- A page of a list of several pages is one of them. -/
theorem ShowsProducts.le_totalPages (hshows : ShowsProducts toLowerCase page)
    (hseveral : 1 < page.totalPages toLowerCase) :
    page.currentPage ≤ page.totalPages toLowerCase := by
  have hfiltered : page.filteredProducts toLowerCase ≠ [] := by
    intro hnone
    rw [CatalogPage.totalPages, hnone] at hseveral
    exact absurd hseveral (by decide)
  exact (hshows hfiltered).2.2

theorem one_le_currentPage_step (page : CatalogPage) (event : CatalogEvent) (next : CatalogPage)
    (hpage : 1 ≤ page.currentPage) (hstep : step toLowerCase page event = some next) :
    1 ≤ next.currentPage := by
  cases event <;> grind [step]

theorem showsProducts_step (page : CatalogPage) (event : CatalogEvent) (next : CatalogPage)
    (hpage : 1 ≤ page.currentPage) (hshows : ShowsProducts toLowerCase page)
    (hstep : step toLowerCase page event = some next) :
    ShowsProducts toLowerCase next ↔ ArrivalFits toLowerCase page event := by
  cases event with
  | search term =>
      obtain rfl := Option.some.inj hstep
      exact iff_of_true (showsProducts_first rfl) trivial
  | filterCategory category =>
      simp only [step, Option.ite_none_right_eq_some, Option.some.injEq] at hstep
      obtain ⟨_, rfl⟩ := hstep
      exact iff_of_true (showsProducts_first rfl) trivial
  | filterPrice range =>
      obtain rfl := Option.some.inj hstep
      exact iff_of_true (showsProducts_first rfl) trivial
  | previous =>
      simp only [step, Option.ite_none_right_eq_some, Option.some.injEq] at hstep
      obtain ⟨⟨hseveral, _⟩, rfl⟩ := hstep
      have hcount := hshows.le_totalPages hseveral
      refine iff_of_true (showsProducts_of_le (le_max_right _ _) ?_) trivial
      exact max_le ((Nat.sub_le _ _).trans hcount) hseveral.le
  | goTo idx =>
      simp only [step, Option.ite_none_right_eq_some, Option.some.injEq] at hstep
      obtain ⟨⟨_, hidx⟩, rfl⟩ := hstep
      exact iff_of_true (showsProducts_of_le (Nat.le_add_left 1 idx) hidx) trivial
  | next =>
      simp only [step, Option.ite_none_right_eq_some, Option.some.injEq] at hstep
      obtain ⟨⟨hseveral, _⟩, rfl⟩ := hstep
      refine iff_of_true (showsProducts_of_le ?_ (min_le_right _ _)) trivial
      exact le_min (Nat.le_add_left 1 _) hseveral.le
  | arrival response =>
      simp only [step, Option.ite_none_right_eq_some] at hstep
      obtain ⟨hpending, hstep⟩ := hstep
      by_cases hitems : 0 < response.items.length
      · rw [if_pos hitems] at hstep
        obtain rfl := Option.some.inj hstep
        refine (showsProducts_iff ?_).trans ?_
        · exact hpage
        · exact ⟨fun hfits _ => hfits, fun hfits => hfits hpending⟩
      · -- an empty answer leaves the list as it is
        rw [if_neg hitems] at hstep
        obtain rfl := Option.some.inj hstep
        have hnone : response.items = [] := List.length_eq_zero_iff.mp (by omega)
        refine iff_of_true hshows fun _ => Or.inl ?_
        rw [hnone]
        rfl

theorem arrivalFits_of_disabled (page : CatalogPage) (event : CatalogEvent)
    (hstep : step toLowerCase page event = none) : ArrivalFits toLowerCase page event := by
  cases event with
  | arrival response =>
      intro hpending
      simp only [step, hpending, if_true] at hstep
      split at hstep <;> exact absurd hstep (Option.some_ne_none _)
  | _ => trivial

/-- No state of a run shows an empty page of a list with products, exactly if the
server's list arrives while the page number is not past its end. -/
theorem showsProducts_run_iff (toLowerCase : JString → JString) (events : List CatalogEvent) :
    Throughout (step toLowerCase) (ShowsProducts toLowerCase) .initial events ↔
      Guarded (step toLowerCase) (ArrivalFits toLowerCase) .initial events :=
  throughout_iff_guarded one_le_currentPage_step showsProducts_step arrivalFits_of_disabled
    le_rfl (showsProducts_first rfl) events

/-- `toLowerCase` on ASCII text. -/
def asciiLowerCase (text : JString) : JString :=
  text.map fun unit => if 65 ≤ unit ∧ unit ≤ 90 then unit + 32 else unit

/-- The fifth page of a list of three products. -/
def lateArrival : CatalogPage :=
  { CatalogPage.initial with
    products := (MOCK_PRODUCTS.take 3).map mapItem
    currentPage := 5
    pending := false }

/-- The fifth page is opened before a list of three products arrives. -/
theorem not_showsProducts_lateArrival :
    ¬ Throughout (step asciiLowerCase) (ShowsProducts asciiLowerCase) .initial
      [.goTo 4, .arrival (.content (MOCK_PRODUCTS.take 3))] := by
  intro hthroughout
  have hrun : run (step asciiLowerCase) .initial
      [.goTo 4, .arrival (.content (MOCK_PRODUCTS.take 3))] = some lateArrival := by decide +kernel
  have hproducts : lateArrival.filteredProducts asciiLowerCase ≠ [] := by decide +kernel
  have hnone : lateArrival.currentProducts asciiLowerCase = [] := by decide +kernel
  exact (holds_of_run hthroughout hrun hproducts).1 hnone

end ShoppingWeb.Catalog
