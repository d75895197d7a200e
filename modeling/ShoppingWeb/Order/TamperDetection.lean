import ShoppingWeb.Lib.Correspondence
import ShoppingWeb.Order.CreateOrderSpec
import ShoppingWeb.Shared.RiskScore

/-!
# Detecting a changed catalog

`createOrder` hashes id, name and price of every item it reads; the integrity
check hashes what the catalog says later.  Id and plain price hold no colon, so
the hashed text determines all three, and an issue is raised for exactly the
items that have changed.  Only the 32-bit score can lose count.
-/

namespace ShoppingWeb.OrderService

open ShoppingWeb.Utf16
open ShoppingWeb.DecimalText
open ShoppingWeb.Delimited
open ShoppingWeb.Shared
open ShoppingWeb.Shared.TransactionSecurityService
open ShoppingWeb.CartService
open Program
open Correspondence

/-- No two messages have the same digest, and no digest is empty. -/
structure CollisionFree (sha256 : Bytes → Bytes) : Prop where
  injective : Function.Injective sha256
  digest_ne_nil : ∀ message, sha256 message ≠ []

theorem wellFormed_hashedText {name : JString} (hname : WellFormed name) (productId : ℤ)
    (price : BigDecimal) :
    WellFormed (intText productId ++ js ":" ++ name ++ js ":" ++ price.toPlainString) := by
  have hcolon : WellFormed (js ":") := ⟨[':'], rfl⟩
  exact wellFormed_append (wellFormed_append (wellFormed_append (wellFormed_append
    (wellFormed_intText productId) hcolon) hname) hcolon) price.wellFormed_toPlainString

/-- The hashed text determines the name and the plain price. -/
theorem hashedText_injective {productId : ℤ} {name other : JString} {price otherPrice : BigDecimal}
    (heq : intText productId ++ js ":" ++ name ++ js ":" ++ price.toPlainString =
      intText productId ++ js ":" ++ other ++ js ":" ++ otherPrice.toPlainString) :
    name = other ∧ price.toPlainString = otherPrice.toPlainString := by
  have hcolon : js ":" = [58] := by decide
  simp only [hcolon, List.append_assoc, List.singleton_append] at heq
  have hid := (List.cons.inj (List.append_cancel_left heq)).2
  exact join_injective_of_right price.colon_not_mem_toPlainString
    otherPrice.colon_not_mem_toPlainString hid

theorem productDigest_eq_iff {sha256 : Bytes → Bytes} (hsha256 : CollisionFree sha256)
    {name other : JString} (hname : WellFormed name) (hother : WellFormed other) (productId : ℤ)
    (price otherPrice : BigDecimal) :
    productDigest sha256 productId name price =
        productDigest sha256 productId other otherPrice ↔
      name = other ∧ price.toPlainString = otherPrice.toPlainString := by
  constructor
  · intro hdigest
    have hencoded := congrArg Base64.decode hdigest
    simp only [productDigest, Base64.decode_encode, Option.some.injEq] at hencoded
    exact hashedText_injective (getBytes_injOn (wellFormed_hashedText hname productId price)
      (wellFormed_hashedText hother productId otherPrice) (hsha256.injective hencoded))
  · rintro ⟨rfl, hprice⟩
    rw [productDigest, productDigest, hprice]

/-- The product is missing or unreachable, or it has another name or price than
`createOrder` read. -/
def isChanged : (read current : CatalogAnswer) → Bool
  | .product (some name) (some price), .product (some currentName) (some currentPrice) =>
      name != currentName || price.toPlainString != currentPrice.toPlainString
  | _, _ => true

def changedEntries (environment : CreateOrderEnvironment) (cartItems : List CartItem) :
    List (CartItem × ℕ) :=
  cartItems.zipIdx.filter fun entry =>
    isChanged (environment.product entry.2) (environment.lookups.integrity entry.2)

/-- The names in the answers for these items have no unpaired surrogate. -/
def NamesWellFormed (answers : ℕ → CatalogAnswer) (cartItems : List CartItem) : Prop :=
  ∀ entry ∈ cartItems.zipIdx, ∀ name price,
    answers entry.2 = .product (some name) price → WellFormed name

/-- What the checks make of the items: an issue for each one that has changed
and 40 points for it, and nothing where the catalog is as it was. -/
structure DetectsTampering (sha256 : Bytes → Bytes) (environment : CreateOrderEnvironment)
    (cartItems : List CartItem) (context : TransactionContext) : Prop where
  issues : (validateProductIntegrity sha256 environment.lookups.integrity context).issues =
    (changedEntries environment cartItems).map fun entry =>
      js "Product ID " ++ intText entry.1.productId ++
        js " integrity check failed (Tampering detected)"
  score : (validateProductIntegrity sha256 environment.lookups.integrity context).score.toInt =
    max 0 (100 - 40 * ((changedEntries environment cartItems).length : ℤ))
  unchanged : (∀ entry ∈ cartItems.zipIdx,
      environment.lookups.integrity entry.2 = environment.product entry.2 ∧
        environment.lookups.price entry.2 = environment.product entry.2) →
    (validateProductIntegrity sha256 environment.lookups.integrity context).score = 100 ∧
      (validatePriceAccuracy environment.lookups.price context).score = 100 ∧
      (validatePriceAccuracy environment.lookups.price context).calculatedTotal =
        context.totalAmount

/-- A cart item and what it is built into. -/
def BuiltFrom (crypto : Crypto) (product : ℕ → CatalogAnswer) (entry : CartItem × ℕ)
    (item : TransactionContext.OrderItem) : Prop :=
  ∃ name price, product entry.2 = .product (some name) (some price) ∧
    item = ⟨entry.1.productId, some name, some price, entry.1.quantity,
      some (calculateProductHash crypto entry.1.productId name price)⟩

/-- What a cart item adds to the total at these prices. -/
def entryTotal (answers : ℕ → CatalogAnswer) (entry : CartItem × ℕ) : BigDecimal :=
  (getCurrentPrice (answers entry.2)).multiply (BigDecimal.ofInt entry.1.quantity.toInt)

section Building

variable {crypto : Crypto} {product : ℕ → CatalogAnswer} {cartItems : List CartItem}
  {draft : Draft}

theorem builtFrom_of_buildItems (hbuild : buildItems crypto product cartItems = .ok draft) :
    List.Forall₂ (BuiltFrom crypto product) cartItems.zipIdx draft.orderContextItems := by
  refine foldlM_induction (fun done (draft : Draft) =>
    List.Forall₂ (BuiltFrom crypto product) done draft.orderContextItems) List.Forall₂.nil ?_ hbuild
  intro done entry before after hbefore _ hadd
  obtain ⟨name, price, hproduct, rfl⟩ := addCartItem_ok hadd
  apply List.rel_append hbefore
  exact List.Forall₂.cons ⟨name, price, hproduct, rfl⟩ List.Forall₂.nil

theorem totalAmount_of_buildItems (hbuild : buildItems crypto product cartItems = .ok draft) :
    draft.totalAmount =
      (cartItems.zipIdx.map (entryTotal product)).foldl BigDecimal.add BigDecimal.zero := by
  refine foldlM_induction (fun done (draft : Draft) => draft.totalAmount =
    (done.map (entryTotal product)).foldl BigDecimal.add BigDecimal.zero) rfl ?_ hbuild
  intro done entry before after hbefore _ hadd
  obtain ⟨name, price, hproduct, rfl⟩ := addCartItem_ok hadd
  simp [hbefore, entryTotal, hproduct, getCurrentPrice]

end Building

/-- The integrity check suspects the items that have changed. -/
theorem isTampered_eq_isChanged {crypto : Crypto} {product : ℕ → CatalogAnswer}
    (hsha256 : CollisionFree crypto.sha256) {entry : CartItem × ℕ}
    {item : TransactionContext.OrderItem} (hbuilt : BuiltFrom crypto product entry item)
    (hread : ∀ name price, product entry.2 = .product (some name) price → WellFormed name)
    {current : CatalogAnswer}
    (hcurrent : ∀ name price, current = .product (some name) price → WellFormed name) :
    isTampered crypto.sha256 current item = isChanged (product entry.2) current := by
  obtain ⟨name, price, hproduct, rfl⟩ := hbuilt
  have hdigest : ∀ text amount,
      productDigest crypto.sha256 entry.1.productId text amount ≠ [] :=
    fun text amount => Base64.encode_ne_nil (hsha256.digest_ne_nil _)
  rw [hproduct]
  cases current with
  | failed => rfl
  | nullBody => rfl
  | product currentName currentPrice =>
      cases currentName with
      | none => rfl
      | some currentName =>
          cases currentPrice with
          | none => rfl
          | some currentPrice =>
              have hsame := productDigest_eq_iff hsha256 (hread name price hproduct)
                (hcurrent currentName currentPrice rfl) entry.1.productId price currentPrice
              rw [Bool.eq_iff_iff]
              simp only [isTampered, generateProductHash, calculateProductHash, isChanged,
                Bool.or_eq_true, List.isEmpty_iff, hdigest, false_or, bne_iff_ne, ne_eq,
                Option.some.injEq, hsame, not_and_or]

section Findings

variable {crypto : Crypto} {environment : CreateOrderEnvironment} {request : CreateOrderRequest}
  {cartItems : List CartItem} {draft : Draft}
  (hbuild : buildItems crypto environment.product cartItems = .ok draft)
include hbuild

/-- The suspect items are the changed ones, in the order of the cart. -/
theorem tampered_eq_changedEntries (hsha256 : CollisionFree crypto.sha256)
    (hread : NamesWellFormed environment.product cartItems)
    (hcurrent : NamesWellFormed environment.lookups.integrity cartItems) {Value : Type}
    (text : ℤ → Value) :
    ((draft.orderContextItems.zipIdx.filter fun entry =>
        isTampered crypto.sha256 (environment.lookups.integrity entry.2) entry.1).map
          fun entry => text entry.1.productId) =
      (changedEntries environment cartItems).map fun entry => text entry.1.productId := by
  symm
  apply filter_map_eq_of_forall₂
  have hpairs := forall₂_zipIdx_right (builtFrom_of_buildItems hbuild)
  have hnames := (List.forall₂_and_left _ _).mpr ⟨fun entry hentry =>
    And.intro (hread entry hentry) (hcurrent entry hentry), hpairs⟩
  apply hnames.imp
  rintro entry built ⟨⟨hreadName, hcurrentName⟩, hbuilt, hposition⟩
  constructor
  · rw [← hposition, isTampered_eq_isChanged hsha256 hbuilt hreadName hcurrentName]
  · obtain ⟨name, price, -, hitem⟩ := hbuilt
    rw [hitem]

theorem tamperedCount_eq (hsha256 : CollisionFree crypto.sha256)
    (hread : NamesWellFormed environment.product cartItems)
    (hcurrent : NamesWellFormed environment.lookups.integrity cartItems) :
    tamperedCount crypto.sha256 environment.lookups (contextOf environment request draft) =
      (changedEntries environment cartItems).length := by
  have hids := congrArg List.length
    (tampered_eq_changedEntries hbuild hsha256 hread hcurrent fun productId => productId)
  rw [List.length_map, List.length_map] at hids
  rw [tamperedCount, List.countP_eq_length_filter]
  exact hids

theorem issues_eq (hsha256 : CollisionFree crypto.sha256)
    (hread : NamesWellFormed environment.product cartItems)
    (hcurrent : NamesWellFormed environment.lookups.integrity cartItems) :
    (validateProductIntegrity crypto.sha256 environment.lookups.integrity
        (contextOf environment request draft)).issues =
      (changedEntries environment cartItems).map fun entry =>
        js "Product ID " ++ intText entry.1.productId ++
          js " integrity check failed (Tampering detected)" := by
  simp only [validateProductIntegrity, checkIntegrity, foldl_penalizeWhere_issues,
    ItemFindings.initial, List.nil_append]
  exact tampered_eq_changedEntries hbuild hsha256 hread hcurrent fun productId =>
    js "Product ID " ++ intText productId ++ js " integrity check failed (Tampering detected)"

theorem productScore_eq (hsha256 : CollisionFree crypto.sha256)
    (hread : NamesWellFormed environment.product cartItems)
    (hcurrent : NamesWellFormed environment.lookups.integrity cartItems) :
    (validateProductIntegrity crypto.sha256 environment.lookups.integrity
        (contextOf environment request draft)).score.toInt =
      max 0 (itemScore (changedEntries environment cartItems).length) := by
  rw [validateProductIntegrity_score, productDeduction, sub_sub_cancel,
    tamperedCount_eq hbuild hsha256 hread hcurrent]

/-- An item that is as it was read has not changed. -/
theorem changedEntries_eq_nil (hunchanged : ∀ entry ∈ cartItems.zipIdx,
    environment.lookups.integrity entry.2 = environment.product entry.2) :
    changedEntries environment cartItems = [] := by
  rw [changedEntries, List.filter_eq_nil_iff]
  intro entry hentry
  obtain ⟨name, price, hproduct⟩ := buildItems_ok_iff.mp ⟨draft, hbuild⟩ entry hentry
  rw [hunchanged entry hentry, hproduct]
  simp [isChanged]

/-- With the prices that were read the total is added up once more. -/
theorem calculatedTotal_eq (hunchanged : ∀ entry ∈ cartItems.zipIdx,
    environment.lookups.price entry.2 = environment.product entry.2) :
    (validatePriceAccuracy environment.lookups.price
        (contextOf environment request draft)).calculatedTotal = draft.totalAmount := by
  have hpairs := (List.forall₂_and_left _ _).mpr
    ⟨hunchanged, forall₂_zipIdx_right (builtFrom_of_buildItems hbuild)⟩
  have htotals : cartItems.zipIdx.map (entryTotal environment.product) =
      draft.orderContextItems.zipIdx.map fun entry =>
        (getCurrentPrice (environment.lookups.price entry.2)).multiply
          (BigDecimal.ofInt entry.1.quantity.toInt) := by
    apply map_eq_map_of_forall₂
    apply hpairs.imp
    rintro entry built ⟨hprice, ⟨name, price, -, hitem⟩, hposition⟩
    rw [entryTotal, ← hposition, hprice, hitem]
  rw [totalAmount_of_buildItems hbuild, htotals, List.foldl_map]
  rfl

theorem mispricedCount_eq_zero (hunchanged : ∀ entry ∈ cartItems.zipIdx,
    environment.lookups.price entry.2 = environment.product entry.2) :
    mispricedCount environment.lookups (contextOf environment request draft) = 0 := by
  have hpairs := forall₂_zipIdx_right (builtFrom_of_buildItems hbuild)
  rw [mispricedCount, List.countP_eq_zero]
  intro built hbuilt
  obtain ⟨entry, hentry, ⟨name, price, hproduct, hitem⟩, hposition⟩ :=
    exists_counterpart hpairs hbuilt
  rw [← hposition, hunchanged entry hentry, hproduct, hitem]
  simp [isMispriced, getCurrentPrice]

theorem scores_unchanged (hsha256 : CollisionFree crypto.sha256)
    (hread : NamesWellFormed environment.product cartItems)
    (hcurrent : NamesWellFormed environment.lookups.integrity cartItems)
    (hunchanged : ∀ entry ∈ cartItems.zipIdx,
      environment.lookups.integrity entry.2 = environment.product entry.2 ∧
        environment.lookups.price entry.2 = environment.product entry.2) :
    (validateProductIntegrity crypto.sha256 environment.lookups.integrity
        (contextOf environment request draft)).score = 100 ∧
      (validatePriceAccuracy environment.lookups.price
        (contextOf environment request draft)).score = 100 := by
  have hitems : itemScore 0 = 100 := by decide
  have hintegrity := fun entry hentry => (hunchanged entry hentry).1
  have hprice := fun entry hentry => (hunchanged entry hentry).2
  constructor
  · rw [← Int32.toInt_inj, validateProductIntegrity_score, productDeduction,
      tamperedCount_eq hbuild hsha256 hread hcurrent, changedEntries_eq_nil hbuild hintegrity,
      List.length_nil, hitems]
    rfl
  · have htotal : catalogTotal environment.lookups (contextOf environment request draft) =
        draft.totalAmount.toRat := by
      have hadded := toRat_foldl_addItemTotal environment.lookups.price
        draft.orderContextItems.zipIdx .zero
      rw [BigDecimal.toRat_zero, zero_add] at hadded
      exact hadded.symm.trans (congrArg BigDecimal.toRat
        (calculatedTotal_eq hbuild hprice : (validatePriceAccuracy environment.lookups.price
          (contextOf environment request draft)).calculatedTotal = draft.totalAmount))
    have hmatch : ¬ TotalMismatch environment.lookups (contextOf environment request draft) := by
      rw [TotalMismatch, htotal]
      simp [contextOf]
    rw [← Int32.toInt_inj, validatePriceAccuracy_score, priceDeduction, if_neg hmatch,
      mispricedCount_eq_zero hbuild hprice, hitems]
    rfl

end Findings

/-- The floor at zero holds until the points lost wrap around. -/
theorem max_itemScore_eq_iff (count : ℕ) :
    max 0 (itemScore count) = max 0 (100 - 40 * (count : ℤ)) ↔
      count ≤ 2 ∨ (100 ≤ 40 * count % 2 ^ 32 ∧ 40 * count % 2 ^ 32 ≤ 2 ^ 31 + 100) := by
  have hfew : count ≤ 2 ↔ 40 * count < 100 := by omega
  have hlost : 100 - 40 * (count : ℤ) = 100 - ((40 * count : ℕ) : ℤ) := by push_cast; rfl
  rw [itemScore_eq_bmod, Int.bmod_def, hfew, hlost]
  generalize 40 * count = lost
  split_ifs
  · omega
  · omega

/-- The checks are exact as long as the score of the changed items does not
wrap around. -/
theorem detectsTampering_iff {crypto : Crypto} {environment : CreateOrderEnvironment}
    {request : CreateOrderRequest} {cartItems : List CartItem} {draft : Draft}
    (hsha256 : CollisionFree crypto.sha256)
    (hbuild : buildItems crypto environment.product cartItems = .ok draft)
    (hread : NamesWellFormed environment.product cartItems)
    (hcurrent : NamesWellFormed environment.lookups.integrity cartItems) :
    DetectsTampering crypto.sha256 environment cartItems
        (contextOf environment request draft) ↔
      (changedEntries environment cartItems).length ≤ 2 ∨
        (100 ≤ 40 * (changedEntries environment cartItems).length % 2 ^ 32 ∧
          40 * (changedEntries environment cartItems).length % 2 ^ 32 ≤ 2 ^ 31 + 100) := by
  have hscore : (validateProductIntegrity crypto.sha256 environment.lookups.integrity
      (contextOf environment request draft)).score.toInt =
        max 0 (itemScore (changedEntries environment cartItems).length) :=
    productScore_eq hbuild hsha256 hread hcurrent
  rw [← max_itemScore_eq_iff]
  constructor
  · intro hdetects
    rw [← hscore]
    exact hdetects.score
  · intro hexact
    constructor
    · exact issues_eq hbuild hsha256 hread hcurrent
    · rw [hscore, hexact]
    · intro hunchanged
      obtain ⟨hproduct, hprice⟩ :
          (validateProductIntegrity crypto.sha256 environment.lookups.integrity
            (contextOf environment request draft)).score = 100 ∧
          (validatePriceAccuracy environment.lookups.price
            (contextOf environment request draft)).score = 100 :=
        scores_unchanged hbuild hsha256 hread hcurrent hunchanged
      exact ⟨hproduct, hprice, calculatedTotal_eq hbuild fun entry hentry =>
        (hunchanged entry hentry).2⟩

/-! ## A cart of one laptop, and one too large -/

/-- A digest that is the message behind a zero. -/
def plainCrypto : Crypto := { plainConfiguration.crypto with sha256 message := 0 :: message }

theorem collisionFree_plainCrypto : CollisionFree plainCrypto.sha256 where
  injective := List.cons_injective
  digest_ne_nil := List.cons_ne_nil 0

/-- Every product was a laptop, and then the catalog went down. -/
def outageEnvironment : CreateOrderEnvironment :=
  { smoothEnvironment laptop with lookups := unreachableCatalog }

def numberedItems (count : ℕ) : List CartItem :=
  (List.range count).map fun number : ℕ => ⟨(number : ℤ), 1, (number : ℤ), 1⟩

theorem namesWellFormed_laptop (cartItems : List CartItem) :
    NamesWellFormed outageEnvironment.product cartItems := by
  intro entry _ name price hanswer
  have hname : some (js "Laptop") = some name := (CatalogAnswer.product.inj hanswer).1
  rw [← Option.some.inj hname]
  exact ⟨"Laptop".toList, rfl⟩

theorem namesWellFormed_failed (cartItems : List CartItem) :
    NamesWellFormed outageEnvironment.lookups.integrity cartItems :=
  fun _ _ _ _ hanswer => nomatch hanswer

theorem length_changedEntries_outage (count : ℕ) :
    (changedEntries outageEnvironment (numberedItems count)).length = count := by
  have hall : changedEntries outageEnvironment (numberedItems count) =
      (numberedItems count).zipIdx := by
    rw [changedEntries, List.filter_eq_self]
    intro entry _
    rfl
  rw [hall, List.length_zipIdx, numberedItems, List.length_map, List.length_range]

/-- One laptop, as it is built while the catalog is up. -/
def laptopDraft : Draft where
  totalAmount := (BigDecimal.zero).add ((⟨500, 0⟩ : BigDecimal).multiply (BigDecimal.ofInt 1))
  orderContextItems := [⟨0, some (js "Laptop"), some ⟨500, 0⟩, 1,
    some (calculateProductHash plainCrypto 0 (js "Laptop") ⟨500, 0⟩)⟩]
  jpaOrderItems := [⟨0, 0, 0, js "Laptop", 1, ⟨500, 0⟩⟩]

theorem detectsTampering_iff_laptop :
    DetectsTampering plainCrypto.sha256 outageEnvironment (numberedItems 1)
        (contextOf outageEnvironment (plainRequest (js "alice")) laptopDraft) ↔
      (changedEntries outageEnvironment (numberedItems 1)).length ≤ 2 ∨
        (100 ≤ 40 * (changedEntries outageEnvironment (numberedItems 1)).length % 2 ^ 32 ∧
          40 * (changedEntries outageEnvironment (numberedItems 1)).length % 2 ^ 32 ≤
            2 ^ 31 + 100) :=
  detectsTampering_iff collisionFree_plainCrypto rfl (namesWellFormed_laptop _)
    (namesWellFormed_failed _)

/-- The score of 53,687,094 changed items is above 2,000,000,000. -/
theorem not_detectsTampering_largeCart :
    ¬ ∀ (crypto : Crypto) (environment : CreateOrderEnvironment) (request : CreateOrderRequest)
        (cartItems : List CartItem) (draft : Draft), CollisionFree crypto.sha256 →
      buildItems crypto environment.product cartItems = .ok draft →
      NamesWellFormed environment.product cartItems →
      NamesWellFormed environment.lookups.integrity cartItems →
        DetectsTampering crypto.sha256 environment cartItems
          (contextOf environment request draft) := by
  intro hdetects
  obtain ⟨draft, hbuild⟩ : ∃ draft, buildItems plainCrypto outageEnvironment.product
      (numberedItems 53687094) = .ok draft :=
    buildItems_ok_iff.mpr fun _ _ => ⟨_, _, rfl⟩
  have hread := namesWellFormed_laptop (numberedItems 53687094)
  have hcurrent := namesWellFormed_failed (numberedItems 53687094)
  have hscore := (hdetects plainCrypto outageEnvironment (plainRequest (js "alice")) _ draft
    collisionFree_plainCrypto hbuild hread hcurrent).score
  rw [productScore_eq hbuild collisionFree_plainCrypto hread hcurrent,
    max_itemScore_eq_iff, length_changedEntries_outage] at hscore
  omega

end ShoppingWeb.OrderService
