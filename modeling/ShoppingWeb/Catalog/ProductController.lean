import ShoppingWeb.Lib.Table
import ShoppingWeb.Shared.ServiceException
import ShoppingWeb.Shared.TransactionContext

/-!
# Products of the catalog service

`ProductController` over its table.  Deleting a product only sets its flag to
inactive; no query reads the flag.
-/

namespace ShoppingWeb.CatalogService

open ShoppingWeb.Utf16
open ShoppingWeb.Shared

/-- Everything about a product but its id. -/
structure ProductDetails where
  categoryId : Option ℤ
  name : Option JString
  slug : Option JString
  description : Option JString
  price : Option BigDecimal
  stock : Option Int32
  imageUrl : Option JString
  isActive : Option Bool
  deriving DecidableEq, Repr

structure Product extends ProductDetails where
  id : ℤ
  deriving DecidableEq, Repr

instance : Keyed Product where
  key := Product.id
  withKey id product := { product with id }
  key_withKey _ _ := rfl

/-- A product as a request body, which may name an id. -/
structure ProductBody extends ProductDetails where
  id : Option ℤ
  deriving DecidableEq, Repr

abbrev ProductRepository := Table Product

def getAllProducts (products : ProductRepository) : List Product := products.rows

def getProductById (products : ProductRepository) (id : ℤ) : Except ServiceException Product :=
  match products.find? id with
  | some product => .ok product
  | none => .error (.illegalArgument (js "Product not found"))

/-- `productRepository.save`: a product with a stored id replaces the stored
one, any other is inserted under a generated id. -/
def saveProduct (products : ProductRepository) (id : Option ℤ) (details : ProductDetails) :
    Product × ProductRepository :=
  match id.filter fun id => (products.find? id).isSome with
  | some id =>
      (⟨details, id⟩, products.update id (fun product => ⟨details, product.id⟩) fun _ => rfl)
  | none => (⟨details, products.nextKey⟩, products.insert ⟨details, 0⟩)

def createProduct (products : ProductRepository) (body : ProductBody) :
    Product × ProductRepository :=
  saveProduct products body.id { body.toProductDetails with isActive := some true }

/-- The setters of `updateProduct`: a body without the flag leaves it alone. -/
def updatedDetails (product : Product) (body : ProductBody) : ProductDetails :=
  { body.toProductDetails with isActive := body.isActive.or product.isActive }

def updateProduct (products : ProductRepository) (id : ℤ) (body : ProductBody) :
    Except ServiceException (Product × ProductRepository) := do
  let product ← getProductById products id
  return saveProduct products (some product.id) (updatedDetails product body)

def deleteProduct (products : ProductRepository) (id : ℤ) : ProductRepository :=
  match products.find? id with
  | none => products
  | some product =>
      (saveProduct products (some product.id)
        { product.toProductDetails with isActive := some false }).2

/-- What a caller reads from the answer to `GET /api/products/{id}`. -/
def productAnswer (doubleText : BigDecimal → BigDecimal) (products : ProductRepository) (id : ℤ) :
    CatalogAnswer :=
  match getProductById products id with
  | .ok product => .ofJson doubleText product.name product.price
  | .error _ => .failed

section Saving

variable {products : ProductRepository} {id : ℤ} {product : Product} {details : ProductDetails}

theorem getProductById_eq_ok_iff :
    getProductById products id = .ok product ↔ product ∈ products.rows ∧ product.id = id := by
  rw [getProductById]
  cases hfind : products.find? id with
  | none =>
      simp only [reduceCtorEq, false_iff, not_and]
      intro hmem hid
      have hsome := products.find?_eq_some_iff.mpr ⟨hmem, hid⟩
      rw [hfind] at hsome
      cases hsome
  | some found =>
      rw [Except.ok.injEq]
      constructor
      · intro heq
        rw [← heq]
        exact products.find?_eq_some_iff.mp hfind
      · intro hmem
        exact Option.some.inj (hfind.symm.trans (products.find?_eq_some_iff.mpr hmem))

theorem saveProduct_stored (hfind : products.find? id = some product) :
    saveProduct products (some id) details =
      (⟨details, id⟩, products.update id (fun product => ⟨details, product.id⟩) fun _ => rfl) := by
  have hstored : (some id).filter (fun id => (products.find? id).isSome) = some id :=
    Option.filter_eq_some_iff.mpr ⟨rfl, by simp [hfind]⟩
  simp only [saveProduct, hstored]

/-- A stored product is saved under its id. -/
theorem mem_saveProduct_stored (hfind : products.find? id = some product) :
    (⟨details, id⟩ : Product) ∈ (saveProduct products (some id) details).2.rows := by
  obtain ⟨hproduct, hid⟩ := products.find?_eq_some_iff.mp hfind
  rw [saveProduct_stored hfind]
  apply List.mem_map.mpr
  refine ⟨product, hproduct, ?_⟩
  rw [if_pos hid]
  exact congrArg (Product.mk details) hid

/-- The row of any other product stays. -/
theorem mem_saveProduct_of_ne {saved : Option ℤ} (hproduct : product ∈ products.rows)
    (hne : product.id ≠ (saveProduct products saved details).1.id) :
    product ∈ (saveProduct products saved details).2.rows := by
  rw [saveProduct] at hne ⊢
  split at hne
  · exact List.mem_map.mpr ⟨product, hproduct, if_neg hne⟩
  · exact List.mem_append_left _ hproduct

end Saving

end ShoppingWeb.CatalogService
