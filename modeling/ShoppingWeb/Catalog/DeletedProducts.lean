import ShoppingWeb.Cart.CartInvariant
import ShoppingWeb.Catalog.ProductController
import ShoppingWeb.Lib.TransitionSystem
import ShoppingWeb.Order.CreateOrderSpec
import ShoppingWeb.Order.OrderController

/-!
# Deleted products

Requests to the catalog, the carts and the orders, one after another.  The
catalog answers the order service from the table a deletion has left, and a
deletion leaves everything but a flag.  So a deleted product is listed whenever
products are listed, and ordered whenever a cart that holds it is.
-/

namespace ShoppingWeb.DeletedProducts

open ShoppingWeb.Utf16
open ShoppingWeb.Shared
open ShoppingWeb.CartService
open ShoppingWeb.CatalogService
open ShoppingWeb.OrderService
open ShoppingWeb.TransitionSystem
open Program

structure World where
  products : ProductRepository
  shop : ShopState
  /-- The products deleted and not set active since.  No service reads it. -/
  deleted : List ℤ

def World.start (products : ProductRepository) (shop : ShopState) : World := ⟨products, shop, []⟩

inductive Event where
  | createProduct (body : ProductBody)
  | updateProduct (id : ℤ) (body : ProductBody)
  | deleteProduct (id : ℤ)
  | getAllProducts
  | getProductById (id : ℤ)
  | cart (call : CartCall)
  | createOrder (environment : CreateOrderEnvironment) (request : CreateOrderRequest)
  | updateOrderStatus (id : ℤ) (status : JString)

section System

variable (configuration : OrderConfiguration) (doubleText : BigDecimal → BigDecimal)

/-- Every lookup of a call fails or gets the catalog's answer. -/
def asksCatalog (products : ProductRepository) (cartItems : List CartItem)
    (environment : CreateOrderEnvironment) : Bool :=
  cartItems.zipIdx.all fun entry =>
    [environment.product entry.2, environment.lookups.integrity entry.2,
      environment.lookups.price entry.2].all fun answer =>
        answer == .failed || answer == productAnswer doubleText products entry.1.productId

def step (world : World) : Event → Option World
  | .createProduct body =>
      let saved := createProduct world.products body
      some
        { world with
          products := saved.2
          deleted := world.deleted.filter fun id => id != saved.1.id }
  | .updateProduct id body =>
      match updateProduct world.products id body with
      | .error _ => some world
      | .ok saved =>
          some
            { world with
              products := saved.2
              deleted :=
                if body.isActive = some true then world.deleted.filter fun other => other != id
                else world.deleted }
  | .deleteProduct id =>
      some
        { world with
          products := deleteProduct world.products id
          deleted :=
            if (world.products.find? id).isSome then id :: world.deleted else world.deleted }
  | .getAllProducts => some world
  | .getProductById _ => some world
  | .cart call =>
      some { world with shop := { world.shop with cartStore := world.shop.cartStore.step call } }
  | .createOrder environment request =>
      if asksCatalog doubleText world.products (world.shop.cartStore.linesOf request.bearerSubject)
          environment then
        some { world with shop := (exec (createOrder configuration environment request)
          world.shop).2 }
      else none
  | .updateOrderStatus id status =>
      some { world with shop := (updateOrderStatus id status world.shop).2 }

/-- The user's cart holds a deleted product. -/
def HoldsDeleted (world : World) (userId : JString) : Prop :=
  ∃ item ∈ world.shop.cartStore.linesOf userId, item.productId ∈ world.deleted

/-- A listing shows no deleted product. -/
def ListsNoDeleted (world : World) : Event → Prop
  | .getAllProducts => ∀ product ∈ getAllProducts world.products, product.id ∉ world.deleted
  | _ => True

/-- A call on a cart that holds a deleted product saves no order. -/
def OrdersNoDeleted (world : World) : Event → Prop
  | .createOrder environment request =>
      ∀ next, step configuration doubleText world (.createOrder environment request) = some next →
        HoldsDeleted world request.bearerSubject →
          next.shop.tables.orders.rows = world.shop.tables.orders.rows
  | _ => True

/-- For one of the deleted products in the cart, the call does not get a name
and a price. -/
def LookupFails (world : World) (environment : CreateOrderEnvironment) (userId : JString) : Prop :=
  ∃ entry ∈ (world.shop.cartStore.linesOf userId).zipIdx, entry.1.productId ∈ world.deleted ∧
    ∀ name price, environment.product entry.2 ≠ .product (some name) (some price)

/-- Products are listed while none is deleted, and a cart that holds a deleted
product is ordered in calls only that fail to look one up. -/
def SparesDeleted (world : World) : Event → Prop
  | .getAllProducts => world.deleted = []
  | .createOrder environment request => HoldsDeleted world request.bearerSubject →
      LookupFails world environment request.bearerSubject
  | _ => True

end System

/-- The deleted products are stored, with their flag set to inactive. -/
def DeletedInactive (world : World) : Prop :=
  ∀ id ∈ world.deleted, ∃ product ∈ world.products.rows,
    product.id = id ∧ product.isActive = some false

section Steps

variable {configuration : OrderConfiguration} {doubleText : BigDecimal → BigDecimal}
  {world next : World}

theorem deletedInactive_createProduct (hworld : DeletedInactive world) {body : ProductBody}
    (hstep : step configuration doubleText world (.createProduct body) = some next) :
    DeletedInactive next := by
  obtain rfl := Option.some.inj hstep
  intro id hid
  obtain ⟨hold, hne⟩ := List.mem_filter.mp hid
  obtain ⟨product, hproduct, rfl, hinactive⟩ := hworld id hold
  have hother : product.id ≠ (createProduct world.products body).1.id := by simpa using hne
  exact ⟨product, mem_saveProduct_of_ne hproduct hother, rfl, hinactive⟩

/-- Saving a product as inactive keeps the deleted products inactive. -/
theorem deletedInactive_save (hworld : DeletedInactive world) {id : ℤ} {product : Product}
    {details : ProductDetails} (hfind : world.products.find? id = some product)
    {deleted : List ℤ} (hdeleted : ∀ other ∈ deleted, other ≠ id → other ∈ world.deleted)
    (hdetails : id ∈ deleted → details.isActive = some false) :
    DeletedInactive
      { world with
        products := (saveProduct world.products (some id) details).2
        deleted } := by
  intro other hother
  by_cases hsame : other = id
  · rw [hsame] at hother ⊢
    exact ⟨_, mem_saveProduct_stored hfind, rfl, hdetails hother⟩
  · obtain ⟨kept, hkept, rfl, hinactive⟩ := hworld other (hdeleted other hother hsame)
    refine ⟨kept, mem_saveProduct_of_ne hkept ?_, rfl, hinactive⟩
    rw [saveProduct_stored hfind]
    exact hsame

theorem deletedInactive_updateProduct (hworld : DeletedInactive world) {id : ℤ}
    {body : ProductBody}
    (hstep : step configuration doubleText world (.updateProduct id body) = some next) :
    DeletedInactive next := by
  rw [step] at hstep
  split at hstep
  · cases hstep
    exact hworld
  · rename_i saved hupdate
    obtain rfl := Option.some.inj hstep
    obtain ⟨product, hget, hsaved⟩ := except_bind_ok.mp hupdate
    obtain ⟨hproduct, hid⟩ := getProductById_eq_ok_iff.mp hget
    obtain rfl := Except.ok.inj hsaved
    rw [hid]
    apply deletedInactive_save hworld (world.products.find?_eq_some_iff.mpr ⟨hproduct, hid⟩)
    · intro other hother _
      split at hother
      · exact List.mem_of_mem_filter hother
      · exact hother
    · intro hdeleted
      split at hdeleted
      · simp at hdeleted
      · rename_i hflag
        obtain ⟨stored, hstored, hstoredId, hinactive⟩ := hworld id hdeleted
        have hsame : stored = product :=
          world.products.row_unique hstored hproduct (hstoredId.trans hid.symm)
        rw [hsame] at hinactive
        cases hbody : body.isActive with
        | none => simp [updatedDetails, hbody, hinactive]
        | some flag =>
            have hfalse : flag = false := by simpa [hbody] using hflag
            simp [updatedDetails, hbody, hfalse]

theorem deletedInactive_deleteProduct (hworld : DeletedInactive world) {id : ℤ}
    (hstep : step configuration doubleText world (.deleteProduct id) = some next) :
    DeletedInactive next := by
  obtain rfl := Option.some.inj hstep
  rw [deleteProduct]
  cases hfind : world.products.find? id with
  | none => exact hworld
  | some product =>
      have hid : product.id = id := (world.products.find?_eq_some_iff.mp hfind).2
      simp only [hid, Option.isSome_some, if_true]
      apply deletedInactive_save hworld hfind
      · intro other hother hne
        exact (List.mem_cons.mp hother).resolve_left hne
      · intro _
        rfl

theorem deletedInactive_step {event : Event} (hworld : DeletedInactive world)
    (hstep : step configuration doubleText world event = some next) : DeletedInactive next := by
  cases event with
  | createProduct body => exact deletedInactive_createProduct hworld hstep
  | updateProduct id body => exact deletedInactive_updateProduct hworld hstep
  | deleteProduct id => exact deletedInactive_deleteProduct hworld hstep
  | getAllProducts =>
      obtain rfl := Option.some.inj hstep
      exact hworld
  | getProductById id =>
      obtain rfl := Option.some.inj hstep
      exact hworld
  | cart call =>
      obtain rfl := Option.some.inj hstep
      exact hworld
  | createOrder environment request =>
      rw [step] at hstep
      split at hstep
      · obtain rfl := Option.some.inj hstep
        exact hworld
      · cases hstep
  | updateOrderStatus id status =>
      obtain rfl := Option.some.inj hstep
      exact hworld

/-- A listing shows every stored product, so every deleted one. -/
theorem listsNoDeleted_iff (hworld : DeletedInactive world) :
    (∀ product ∈ getAllProducts world.products, product.id ∉ world.deleted) ↔
      world.deleted = [] := by
  constructor
  · intro hlists
    apply List.eq_nil_iff_forall_not_mem.mpr
    intro id hid
    obtain ⟨product, hproduct, rfl, -⟩ := hworld id hid
    exact hlists product hproduct hid
  · intro hnone product _
    rw [hnone]
    exact List.not_mem_nil

/-- A call that fails to look up a product of the cart saves nothing. -/
theorem orders_createOrder_of_lookup {environment : CreateOrderEnvironment}
    {request : CreateOrderRequest} {state : ShopState} {entry : CartItem × ℕ}
    (hentry : entry ∈ (state.cartStore.linesOf request.bearerSubject).zipIdx)
    (hlookup : ∀ name price, environment.product entry.2 ≠ .product (some name) (some price)) :
    (exec (createOrder configuration environment request) state).2.tables.orders.rows =
      state.tables.orders.rows := by
  rw [rows_createOrder, List.append_right_eq_self]
  cases hexec : exec (createOrder configuration environment request) state with
  | mk outcome final =>
      cases outcome with
      | error exception => rfl
      | ok order =>
          obtain ⟨placement, ⟨-, -, hplace⟩, -⟩ := exec_createOrder_ok.mp hexec
          obtain ⟨name, price, hproduct⟩ := buildItems_ok_iff.mp ⟨_, hplace.built⟩ entry hentry
          exact absurd hproduct (hlookup name price)

/-- A step that spares deleted products neither lists nor orders one. -/
theorem gone_of_sparesDeleted (hworld : DeletedInactive world) {event : Event}
    (hspares : SparesDeleted world event) :
    ListsNoDeleted world event ∧ OrdersNoDeleted configuration doubleText world event := by
  cases event with
  | getAllProducts => exact ⟨(listsNoDeleted_iff hworld).mpr hspares, trivial⟩
  | createOrder environment request =>
      refine ⟨trivial, fun next hstep hholds => ?_⟩
      obtain ⟨entry, hentry, -, hlookup⟩ := hspares hholds
      rw [step] at hstep
      split at hstep
      · obtain rfl := Option.some.inj hstep
        exact orders_createOrder_of_lookup hentry hlookup
      · cases hstep
  | _ => exact ⟨trivial, trivial⟩

end Steps

/-- In every run whose steps spare deleted products, they are gone from sale. -/
theorem deleted_gone (configuration : OrderConfiguration) (doubleText : BigDecimal → BigDecimal)
    (products : ProductRepository) (shop : ShopState) (events : List Event)
    (hspares : Guarded (step configuration doubleText) SparesDeleted (.start products shop)
      events) :
    Guarded (step configuration doubleText)
      (fun world event =>
        ListsNoDeleted world event ∧ OrdersNoDeleted configuration doubleText world event)
      (.start products shop) events := by
  apply guarded_of_invariant (fun _ _ _ hworld _ hstep => deletedInactive_step hworld hstep)
    (fun _ _ hworld hguard => gone_of_sparesDeleted hworld hguard) _ hspares
  exact fun _ hid => absurd hid List.not_mem_nil

def laptopBody : ProductBody where
  id := none
  categoryId := none
  name := some (js "Laptop")
  slug := none
  description := none
  price := some ⟨500, 0⟩
  stock := some 1
  imageUrl := none
  isActive := none

/-- A user puts the laptop into the cart before it is deleted. -/
def deletion : List Event :=
  [.createProduct laptopBody, .cart (.addItemToCart (some (js "alice")) (some 1) (some 1)),
    .deleteProduct 1]

/-- The laptop is listed before it is deleted, and the order on the cart fails
to look it up afterwards. -/
def lookupAfterDeletion : List Event :=
  .getAllProducts :: deletion ++
    [.createOrder { smoothEnvironment laptop with product := fun _ => .failed }
      (plainRequest (js "alice"))]

theorem sparesDeleted_lookupAfterDeletion :
    Guarded (step plainConfiguration id) SparesDeleted (.start .empty .empty)
      lookupAfterDeletion := by
  refine ⟨rfl, fun listed hlisted => ⟨trivial, fun created hcreated => ⟨trivial,
    fun filled hfilled => ⟨trivial, fun deleted hdeleted => ⟨fun _ => ?_, fun _ _ => trivial⟩⟩⟩⟩⟩
  obtain rfl := Option.some.inj hlisted
  obtain rfl := Option.some.inj hcreated
  obtain rfl := Option.some.inj hfilled
  obtain rfl := Option.some.inj hdeleted
  exact ⟨(⟨1, 1, 1, 1⟩, 0), by decide +kernel, by decide +kernel, fun _ _ => by simp⟩

theorem deleted_gone_lookupAfterDeletion :
    (run (step plainConfiguration id) (.start .empty .empty) lookupAfterDeletion).any (fun world =>
        world.deleted == [1] && world.shop.tables.orders.rows.isEmpty) = true ∧
      Guarded (step plainConfiguration id)
        (fun world event =>
          ListsNoDeleted world event ∧ OrdersNoDeleted plainConfiguration id world event)
        (.start .empty .empty) lookupAfterDeletion :=
  ⟨by decide +kernel, deleted_gone _ _ _ _ _ sparesDeleted_lookupAfterDeletion⟩

/-- It is still listed, and it is still ordered. -/
theorem deleted_laptop_sold :
    (¬ ∀ (configuration : OrderConfiguration) (doubleText : BigDecimal → BigDecimal)
      (products : ProductRepository) (shop : ShopState) (events : List Event),
      Guarded (step configuration doubleText) ListsNoDeleted (.start products shop) events) ∧
    ¬ ∀ (configuration : OrderConfiguration) (doubleText : BigDecimal → BigDecimal)
      (products : ProductRepository) (shop : ShopState) (events : List Event),
      Guarded (step configuration doubleText) (OrdersNoDeleted configuration doubleText)
        (.start products shop) events := by
  obtain ⟨world, hrun, hcheck⟩ := (Option.any_eq_true _ _).mp
    (show (run (step plainConfiguration id) (.start .empty .empty) deletion).any (fun world =>
      world.deleted == [1] && (getAllProducts world.products).any (fun product =>
        product.id == 1) &&
      (world.shop.cartStore.linesOf (js "alice")).any (fun item => item.productId == 1) &&
      (step plainConfiguration id world (.createOrder (smoothEnvironment laptop)
        (plainRequest (js "alice")))).any fun next =>
          next.shop.tables.orders.rows != world.shop.tables.orders.rows) = true by
        decide +kernel)
  simp only [Bool.and_eq_true, beq_iff_eq] at hcheck
  obtain ⟨⟨⟨hdeleted, hlisted⟩, hheld⟩, hordered⟩ := hcheck
  constructor
  · intro hlists
    obtain ⟨product, hproduct, hid⟩ := List.any_eq_true.mp hlisted
    have hguarded := guarded_append (hlists plainConfiguration id .empty .empty
      (deletion ++ [.getAllProducts])) hrun
    have hgone := hguarded.2.1 product hproduct
    rw [hdeleted, beq_iff_eq.mp hid] at hgone
    exact hgone List.mem_cons_self
  · intro horders
    obtain ⟨item, hitem, hid⟩ := List.any_eq_true.mp hheld
    obtain ⟨next, hstep, hrows⟩ := (Option.any_eq_true _ _).mp hordered
    have hguarded := guarded_append (horders plainConfiguration id .empty .empty
      (deletion ++ [.createOrder (smoothEnvironment laptop) (plainRequest (js "alice"))])) hrun
    have hholds : HoldsDeleted world (js "alice") := by
      refine ⟨item, hitem, ?_⟩
      rw [hdeleted, beq_iff_eq.mp hid]
      exact List.mem_cons_self
    have hkept := hguarded.2.1 next hstep hholds
    simp [hkept] at hrows

end ShoppingWeb.DeletedProducts
