import ShoppingWeb.Catalog.ProductController
import ShoppingWeb.Lib.DecimalText
import ShoppingWeb.Lib.JavaScriptText
import ShoppingWeb.Lib.Program

/-!
# The admin products page

The page's form has a name, a price and a category.  What it sends is a whole
product: the fields it does not show are constants or missing.  The server
takes the body as it is, so a creation that names an id overwrites a row, and
an edit overwrites fields that nobody has touched.
-/

namespace ShoppingWeb.CatalogService

open ShoppingWeb.Utf16
open ShoppingWeb.DecimalText
open ShoppingWeb.JavaScriptText
open ShoppingWeb.Shared
open ShoppingWeb.Program

/-- The numbers of the page. -/
structure JsNumbers where
  /-- `toString` of a price that was read from JSON. -/
  text : BigDecimal → JString
  /-- The number nearest to an integer, as JSON carries it; an infinite one is null. -/
  nearest : ℤ → Option BigDecimal

/-- An entry of the page's list: a product of the server, or what the page made
of one while the server did not answer. -/
structure ListedProduct where
  product : Product
  category : Option JString
  deriving DecidableEq, Repr

structure AdminProductsPage where
  products : List ListedProduct
  /-- The `vault_admin_products` of the local storage. -/
  stored : Option (List ListedProduct)
  isAddModalOpen : Bool
  newProductName : JString
  newProductPrice : JString
  newProductCategory : ℤ
  editId : Option ℤ
  deriving DecidableEq, Repr

/-- An input of the form. -/
inductive FormInput where
  | name (text : JString)
  | price (text : JString)
  | category (id : ℤ)
  deriving DecidableEq, Repr

/-- `p || other` on numbers that may be missing. -/
def orNumber (value : Option ℤ) (other : ℤ) : ℤ := (value.filter (· ≠ 0)).getD other

def shownCategory (listed : ListedProduct) : ℤ :=
  orNumber listed.product.categoryId
    (if listed.category = some (js "Laptop") then 2
    else if listed.category = some (js "Accessories") then 3
    else 1)

def categoryName (category : ℤ) : JString :=
  if category = 1 then js "Smartphone" else if category = 2 then js "Laptop" else js "Accessories"

/-- `toLowerCase`, then the two replacements: of what is left, all is ASCII.
Two other letters have an ASCII letter in lower case. -/
def slugUnit (unit : CodeUnit) : Option CodeUnit :=
  if 65 ≤ unit ∧ unit ≤ 90 then some (unit + 32)
  else if unit = 32 then some 45
  else if unit = 0x0130 then some 105
  else if unit = 0x212A then some 107
  else if (97 ≤ unit ∧ unit ≤ 122) ∨ (48 ≤ unit ∧ unit ≤ 57) ∨ unit = 45 ∨ unit = 95 then some unit
  else none

def slugOf (name : JString) (now : ℤ) : JString :=
  name.filterMap slugUnit ++ js "-" ++ intText now

/-- What a call of `handleAddSubmit` leaves behind; `saved` is the product in a
response that is ok. -/
structure Submission where
  page : AdminProductsPage
  products : ProductRepository
  saved : Option Product

namespace AdminProductsPage

/-- A price that is missing has no `toString`, and a name that is missing
already breaks the list. -/
def openEditModal (numbers : JsNumbers) (page : AdminProductsPage) (listed : ListedProduct) :
    Option AdminProductsPage := do
  let name ← listed.product.name
  let price ← listed.product.price
  return { page with
    editId := some listed.product.id
    newProductName := name
    newProductPrice := numbers.text price
    newProductCategory := shownCategory listed
    isAddModalOpen := true }

def openAddModal (page : AdminProductsPage) : AdminProductsPage :=
  { page with
    editId := none
    newProductName := []
    newProductPrice := []
    newProductCategory := 1
    isAddModalOpen := true }

def fillIn (page : AdminProductsPage) : FormInput → AdminProductsPage
  | .name text => { page with newProductName := text }
  | .price text => { page with newProductPrice := text }
  | .category id => { page with newProductCategory := id }

/-- `parseInt(newProductPrice) || 0` -/
def price (page : AdminProductsPage) : ℤ := orNumber (parseInt page.newProductPrice) 0

/-- The body of both requests, as `@RequestBody Product` reads it. -/
def productPayload (numbers : JsNumbers) (now : ℤ) (page : AdminProductsPage) : ProductBody where
  id := none
  categoryId := some page.newProductCategory
  name := some page.newProductName
  slug := some (slugOf page.newProductName now)
  description := none
  price := numbers.nearest page.price
  stock := some 100
  imageUrl := none
  isActive := some true

/-- What the page puts into its list when there is no response that is ok. -/
def fallbackProducts (numbers : JsNumbers) (now : ℤ) (page : AdminProductsPage) :
    List ListedProduct :=
  match page.editId with
  | some id =>
      page.products.map fun listed =>
        if listed.product.id = id then
          { product :=
              { listed.product with
                name := some page.newProductName
                price := numbers.nearest page.price
                categoryId := some page.newProductCategory }
            category := some (categoryName page.newProductCategory) }
        else listed
  | none =>
      page.products ++
        [⟨⟨(page.productPayload numbers now).toProductDetails, now⟩,
          some (categoryName page.newProductCategory)⟩]

/-- The list with the product of a response that is ok. -/
def updatedProducts (page : AdminProductsPage) (saved : Product) : List ListedProduct :=
  match page.editId with
  | some id =>
      page.products.map fun listed => if listed.product.id = id then ⟨saved, none⟩ else listed
  | none => page.products ++ [⟨saved, none⟩]

/-- The service's part of the request. -/
def request (body : ProductBody) (editId : Option ℤ) (products : ProductRepository) :
    Except ServiceException (Product × ProductRepository) :=
  match editId with
  | some id => updateProduct products id body
  | none => .ok (createProduct products body)

/-- The end of `handleAddSubmit`: a new list and an empty form. -/
def showing (products : List ListedProduct) : AdminProductsPage where
  products := products
  stored := some products
  isAddModalOpen := false
  newProductName := []
  newProductPrice := []
  newProductCategory := 1
  editId := none

def handleAddSubmit (numbers : JsNumbers) (now : ℤ) (delivery : Delivery)
    (page : AdminProductsPage) (products : ProductRepository) : Submission :=
  if trim page.newProductName = [] then ⟨page, products, none⟩
  else
    let fallback := showing (page.fallbackProducts numbers now)
    match delivery, request (page.productPayload numbers now) page.editId products with
    | .success, .ok (saved, after) => ⟨showing (page.updatedProducts saved), after, some saved⟩
    | .replyLost, .ok (_, after) => ⟨fallback, after, none⟩
    | _, _ => ⟨fallback, products, none⟩

/-- A response that is ok is the service's answer to the payload. -/
theorem handleAddSubmit_saved {numbers : JsNumbers} {now : ℤ} {delivery : Delivery}
    {page : AdminProductsPage} {products : ProductRepository} {saved : Product}
    (hsaved : (page.handleAddSubmit numbers now delivery products).saved = some saved) :
    request (page.productPayload numbers now) page.editId products =
      .ok (saved, (page.handleAddSubmit numbers now delivery products).products) := by
  rw [handleAddSubmit] at hsaved ⊢
  split_ifs at hsaved ⊢ with hblank
  cases hrequest : request (page.productPayload numbers now) page.editId products with
  | error exception =>
      rw [hrequest] at hsaved
      cases delivery <;> cases hsaved
  | ok answer =>
      rw [hrequest] at hsaved
      cases delivery with
      | success =>
          obtain rfl := Option.some.inj hsaved
          rfl
      | failsBefore => cases hsaved
      | replyLost => cases hsaved

end AdminProductsPage

end ShoppingWeb.CatalogService
