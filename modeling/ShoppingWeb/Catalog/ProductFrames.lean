import ShoppingWeb.Catalog.AdminProductsPage

/-!
# What requests leave alone

A creation adds one product and leaves the others alone, unless its body names
the id of a stored one.  An edit of the page changes fields that its form does
not show, unless they hold the constants that the page sends.
-/

namespace ShoppingWeb.CatalogService

open ShoppingWeb.Utf16
open ShoppingWeb.DecimalText
open ShoppingWeb.Shared
open ShoppingWeb.Program

/-- One product more, and the stored ones as they were. -/
structure AddsOneProduct (before after : ProductRepository) : Prop where
  length_eq : after.rows.length = before.rows.length + 1
  unchanged : ∀ product ∈ before.rows, after.find? product.id = some product

theorem addsOneProduct_insert (products : ProductRepository) (product : Product) :
    AddsOneProduct products (products.insert product) where
  length_eq := by rw [Table.rows_insert, List.length_append, List.length_singleton]
  unchanged old hold := by
    apply Table.find?_eq_some_iff _ |>.mpr
    exact ⟨List.mem_append_left _ hold, rfl⟩

/-- A body whose id is not stored is inserted. -/
theorem addsOneProduct_createProduct {products : ProductRepository} {body : ProductBody}
    (hfree : ∀ id, body.id = some id → products.find? id = none) :
    AddsOneProduct products (createProduct products body).2 := by
  rw [createProduct, saveProduct]
  split
  · rename_i id hstored
    obtain ⟨hbody, hfind⟩ := Option.filter_eq_some_iff.mp hstored
    rw [hfree id hbody] at hfind
    cases hfind
  · exact addsOneProduct_insert products _

/-- A creation adds one product and changes no other exactly when its body does
not name the id of a stored product. -/
theorem addsOneProduct_createProduct_iff (products : ProductRepository) (body : ProductBody) :
    AddsOneProduct products (createProduct products body).2 ↔
      ∀ id, body.id = some id → products.find? id = none := by
  constructor
  · intro hadds id hbody
    by_contra hstored
    obtain ⟨product, hfind⟩ := Option.ne_none_iff_exists'.mp hstored
    have hlength := hadds.length_eq
    rw [createProduct, hbody, saveProduct_stored hfind] at hlength
    simp only [Table.update, List.length_map] at hlength
    omega
  · exact addsOneProduct_createProduct

/-- A phone, as it is stored. -/
def storedPhone : Product where
  id := 1
  categoryId := some 1
  name := some (js "iPhone 15 Pro Max")
  slug := some (js "iphone-15-pro-max")
  description := some (js "Titanium, 256GB")
  price := some ⟨29000000, 0⟩
  stock := some 45
  imageUrl := some (js "/iphone.png")
  isActive := some true

def phoneRepository : ProductRepository := Table.empty.insert storedPhone

theorem find?_phone : phoneRepository.find? storedPhone.id = some storedPhone := rfl

/-- A creation that names the id of the phone takes its row. -/
theorem not_addsOneProduct_namedId :
    ¬ ∀ (products : ProductRepository) (body : ProductBody),
      AddsOneProduct products (createProduct products body).2 := by
  intro hadds
  have hlength := (hadds phoneRepository
    ⟨{ storedPhone.toProductDetails with name := some (js "Laptop") }, some 1⟩).length_eq
  exact absurd hlength (by decide)

/-- The page's own creations name no id. -/
theorem addsOneProduct_handleAddSubmit {numbers : JsNumbers} {now : ℤ} {delivery : Delivery}
    {page : AdminProductsPage} {products : ProductRepository} {saved : Product}
    (hadding : page.editId = none)
    (hsaved : (page.handleAddSubmit numbers now delivery products).saved = some saved) :
    AddsOneProduct products (page.handleAddSubmit numbers now delivery products).products := by
  have hrequest := AdminProductsPage.handleAddSubmit_saved hsaved
  rw [hadding] at hrequest
  have hcreated : (createProduct products (page.productPayload numbers now)).2 =
      (page.handleAddSubmit numbers now delivery products).products :=
    congrArg Prod.snd (Except.ok.inj hrequest)
  rw [← hcreated]
  apply addsOneProduct_createProduct
  intro id hid
  cases hid

/-- The stored product has the fields that the form does not show as they were. -/
def KeepsUnshownFields (product : Product) (after : ProductRepository) : Prop :=
  ∃ edited, after.find? product.id = some edited ∧
    edited.description = product.description ∧ edited.imageUrl = product.imageUrl ∧
    edited.stock = product.stock ∧ edited.isActive = product.isActive

/-- The fields have the values that the page sends for every product. -/
structure HoldsPayloadConstants (product : Product) : Prop where
  description_eq : product.description = none
  imageUrl_eq : product.imageUrl = none
  stock_eq : product.stock = some 100
  isActive_eq : product.isActive = some true

/-- An update of a stored product saves what the body says. -/
theorem find?_updateProduct {products after : ProductRepository} {id : ℤ} {body : ProductBody}
    {product saved : Product} (hstored : products.find? id = some product)
    (hupdate : updateProduct products id body = .ok (saved, after)) :
    after.find? product.id = some ⟨updatedDetails product body, product.id⟩ := by
  obtain ⟨hmem, hid⟩ := products.find?_eq_some_iff.mp hstored
  have hself : products.find? product.id = some product :=
    products.find?_eq_some_iff.mpr ⟨hmem, rfl⟩
  have hget : getProductById products id = .ok product :=
    getProductById_eq_ok_iff.mpr ⟨hmem, hid⟩
  simp only [updateProduct, hget] at hupdate
  have hsaved : (saveProduct products (some product.id) (updatedDetails product body)).2 = after :=
    congrArg Prod.snd (Except.ok.inj hupdate)
  rw [← hsaved]
  exact Table.find?_eq_some_iff _ |>.mpr ⟨mem_saveProduct_stored hself, rfl⟩

section Form

variable (numbers : JsNumbers) {page opened : AdminProductsPage} {listed : ListedProduct}

theorem editId_openEditModal (hopen : page.openEditModal numbers listed = some opened) :
    opened.editId = some listed.product.id := by
  rw [AdminProductsPage.openEditModal] at hopen
  obtain ⟨name, -, hopen⟩ := Option.bind_eq_some_iff.mp hopen
  obtain ⟨price, -, hopen⟩ := Option.bind_eq_some_iff.mp hopen
  rw [← Option.some.inj hopen]

theorem editId_fillIn (inputs : List FormInput) :
    (inputs.foldl AdminProductsPage.fillIn opened).editId = opened.editId := by
  induction inputs generalizing opened with
  | nil => rfl
  | cons input inputs ih =>
      rw [List.foldl_cons, ih]
      cases input <;> rfl

/-- A successful edit keeps what the form does not show exactly when the
product holds the constants of the payload. -/
theorem keepsUnshownFields_edit_iff (hopen : page.openEditModal numbers listed = some opened)
    (inputs : List FormInput) (now : ℤ) (delivery : Delivery) {products : ProductRepository}
    {product saved : Product} (hstored : products.find? listed.product.id = some product)
    (hsaved : ((inputs.foldl AdminProductsPage.fillIn opened).handleAddSubmit numbers now delivery
      products).saved = some saved) :
    KeepsUnshownFields product ((inputs.foldl AdminProductsPage.fillIn opened).handleAddSubmit
        numbers now delivery products).products ↔
      HoldsPayloadConstants product := by
  have hrequest := AdminProductsPage.handleAddSubmit_saved hsaved
  rw [editId_fillIn, editId_openEditModal numbers hopen] at hrequest
  have hfind := find?_updateProduct hstored hrequest
  rw [KeepsUnshownFields, hfind]
  constructor
  · rintro ⟨edited, hedited, hdescription, himage, hstock, hactive⟩
    obtain rfl := Option.some.inj hedited
    exact ⟨hdescription.symm, himage.symm, hstock.symm, hactive.symm⟩
  · intro hconstants
    exact ⟨_, rfl, hconstants.description_eq.symm, hconstants.imageUrl_eq.symm,
      hconstants.stock_eq.symm, hconstants.isActive_eq.symm⟩

end Form

/-- Numbers that are small enough to be exact. -/
def exactNumbers : JsNumbers where
  text price := intText price.unscaledValue
  nearest price := some ⟨price, 0⟩

/-- The page with the phone in its list, before and after its form is opened. -/
def phonePage : AdminProductsPage := .showing [⟨storedPhone, none⟩]

def openedPhonePage : AdminProductsPage :=
  { phonePage with
    editId := some 1
    newProductName := js "iPhone 15 Pro Max"
    newProductPrice := js "29000000"
    newProductCategory := 1
    isAddModalOpen := true }

theorem openEditModal_phone :
    phonePage.openEditModal exactNumbers ⟨storedPhone, none⟩ = some openedPhonePage := by
  decide

/-- What a new price makes of the phone. -/
def priceEdit : Submission :=
  ([FormInput.price (js "28000000")].foldl AdminProductsPage.fillIn openedPhonePage).handleAddSubmit
    exactNumbers 7 .success phoneRepository

theorem saved_priceEdit : priceEdit.saved = some
    ⟨updatedDetails storedPhone ((openedPhonePage.fillIn (.price (js "28000000"))).productPayload
      exactNumbers 7), 1⟩ := by
  decide

theorem keepsUnshownFields_edit_iff_phone :
    KeepsUnshownFields storedPhone priceEdit.products ↔ HoldsPayloadConstants storedPhone :=
  keepsUnshownFields_edit_iff exactNumbers openEditModal_phone [.price (js "28000000")] 7 .success
    find?_phone saved_priceEdit

/-- A new price costs the phone its description, its image and its stock. -/
theorem not_keepsUnshownFields_priceEdit :
    ¬ ∀ (numbers : JsNumbers) (page opened : AdminProductsPage) (listed : ListedProduct)
        (inputs : List FormInput) (now : ℤ) (delivery : Delivery) (products : ProductRepository)
        (product saved : Product),
      page.openEditModal numbers listed = some opened →
      products.find? listed.product.id = some product →
      ((inputs.foldl AdminProductsPage.fillIn opened).handleAddSubmit numbers now delivery
        products).saved = some saved →
      KeepsUnshownFields product ((inputs.foldl AdminProductsPage.fillIn opened).handleAddSubmit
        numbers now delivery products).products := by
  intro hkeeps
  obtain ⟨edited, hfind, hdescription, -⟩ := hkeeps exactNumbers phonePage openedPhonePage
    ⟨storedPhone, none⟩ [.price (js "28000000")] 7 .success phoneRepository storedPhone _
    openEditModal_phone find?_phone saved_priceEdit
  have hlost : (priceEdit.products.find? 1).map (fun edited => edited.description) = some none := by
    decide
  have hedited := congrArg (Option.map fun edited => edited.description) hfind
  have hsame : some edited.description = some none := hedited.symm.trans hlost
  rw [hdescription] at hsame
  exact absurd hsame (by decide)

end ShoppingWeb.CatalogService
