import ShoppingWeb.Lib.Correspondence
import ShoppingWeb.Shared.RiskScore

/-!
# Prices in two representations

Two contexts and two catalogs that differ in the scales of their decimals
only.  The total is compared as a number, the price of an item by its
representation, so the verdicts agree exactly when the same number of prices
is written in another way than the catalog's.
-/

namespace ShoppingWeb.Shared

open ShoppingWeb.Utf16
open ShoppingWeb.Correspondence

/-- Decimals that denote one number, whatever their scales. -/
def SameNumber (left right : BigDecimal) : Prop := left.toRat = right.toRat

structure ItemsAlike (left right : TransactionContext.OrderItem) : Prop where
  productId_eq : left.productId = right.productId
  productName_eq : left.productName = right.productName
  price_same : Option.Rel SameNumber left.price right.price
  quantity_eq : left.quantity = right.quantity
  productHash_eq : left.productHash = right.productHash

/-- Contexts that differ in the representation of their decimals only. -/
structure ContextsAlike (left right : TransactionContext) : Prop where
  orderId_eq : left.orderId = right.orderId
  userId_eq : left.userId = right.userId
  sessionId_eq : left.sessionId = right.sessionId
  totalAmount_same : SameNumber left.totalAmount right.totalAmount
  currency_eq : left.currency = right.currency
  timestamp_eq : left.timestamp = right.timestamp
  deviceFingerprint_eq : left.deviceFingerprint = right.deviceFingerprint
  ipAddress_eq : left.ipAddress = right.ipAddress
  orderItems_alike : List.Forall₂ ItemsAlike left.orderItems right.orderItems
  shippingDetails_eq : left.shippingDetails = right.shippingDetails

inductive AnswersAlike : CatalogAnswer → CatalogAnswer → Prop
  | failed : AnswersAlike .failed .failed
  | nullBody : AnswersAlike .nullBody .nullBody
  | product {name : Option JString} {price other : Option BigDecimal}
      (hprice : Option.Rel SameNumber price other) :
      AnswersAlike (.product name price) (.product name other)

structure LookupsAlike (left right : CatalogLookups) : Prop where
  integrity : ∀ position, AnswersAlike (left.integrity position) (right.integrity position)
  price : ∀ position, AnswersAlike (left.price position) (right.price position)

namespace TransactionSecurityService

/-- The same score, risk level and flag. -/
def SameVerdict (left right : PriceValidationResult) : Prop :=
  left.score = right.score ∧ left.riskLevel = right.riskLevel ∧
    left.priceAccurate = right.priceAccurate

/-- The price is another number than the catalog's. -/
def isOtherNumber (answer : CatalogAnswer) (item : TransactionContext.OrderItem) : Bool :=
  item.price.map BigDecimal.toRat != some (getCurrentPrice answer).toRat

/-- The price is the catalog's, written with another scale. -/
def isRescaled (answer : CatalogAnswer) (item : TransactionContext.OrderItem) : Bool :=
  isMispriced answer item && !isOtherNumber answer item

def otherNumberCount (lookups : CatalogLookups) (context : TransactionContext) : ℕ :=
  context.orderItems.zipIdx.countP fun entry => isOtherNumber (lookups.price entry.2) entry.1

def rescaledCount (lookups : CatalogLookups) (context : TransactionContext) : ℕ :=
  context.orderItems.zipIdx.countP fun entry => isRescaled (lookups.price entry.2) entry.1

theorem isMispriced_of_isOtherNumber {answer : CatalogAnswer}
    {item : TransactionContext.OrderItem} (hother : isOtherNumber answer item = true) :
    isMispriced answer item = true := by
  simp only [isOtherNumber, isMispriced, bne_iff_ne] at hother ⊢
  intro hsame
  rw [hsame] at hother
  exact hother rfl

/-- A mispriced item has another price, or it has the price in another scale. -/
theorem mispricedCount_eq (lookups : CatalogLookups) (context : TransactionContext) :
    mispricedCount lookups context =
      rescaledCount lookups context + otherNumberCount lookups context := by
  rw [mispricedCount, List.countP_eq_countP_filter_add _ _ fun entry =>
    !isOtherNumber (lookups.price entry.2) entry.1, List.countP_filter, List.countP_filter]
  congr 1
  apply List.countP_congr
  intro entry _
  simp only [Bool.not_not, Bool.and_eq_true]
  constructor
  · intro hboth
    exact hboth.2
  · intro hother
    exact ⟨isMispriced_of_isOtherNumber hother, hother⟩

theorem itemScore_eq_iff (count other : ℕ) :
    itemScore count = itemScore other ↔ count ≡ other [MOD 2 ^ 29] := by
  have hlost : itemScore count = itemScore other ↔ 40 * count ≡ 40 * other [MOD 2 ^ 32] := by
    rw [itemScore_eq_bmod, itemScore_eq_bmod, Int.bmod_def, Int.bmod_def, Nat.ModEq]
    generalize 40 * count = lost
    generalize 40 * other = otherLost
    split_ifs
    all_goals omega
  rw [hlost]
  constructor
  · intro hmod
    exact hmod.cancel_left_div_gcd (by decide)
  · intro hmod
    exact (hmod.mul_left' 40).of_dvd (by decide)

theorem map_toRat_of_same {left right : Option BigDecimal}
    (hsame : Option.Rel SameNumber left right) :
    left.map BigDecimal.toRat = right.map BigDecimal.toRat := by
  cases hsame with
  | some hnumber => exact congrArg some hnumber
  | none => rfl

theorem toRat_getCurrentPrice_of_alike {left right : CatalogAnswer}
    (halike : AnswersAlike left right) :
    (getCurrentPrice left).toRat = (getCurrentPrice right).toRat := by
  cases halike with
  | failed => rfl
  | nullBody => rfl
  | product hprice =>
      cases hprice with
      | some hnumber => exact hnumber
      | none => rfl

section TwoRuns

variable {lookups other : CatalogLookups} {left right : TransactionContext}
  (hlookups : LookupsAlike lookups other) (hcontexts : ContextsAlike left right)
include hlookups hcontexts

/-- The items, and the prices looked up for them, are alike in pairs. -/
theorem entries_alike : List.Forall₂ (fun entry otherEntry : ItemEntry =>
    ItemsAlike entry.1 otherEntry.1 ∧
      AnswersAlike (lookups.price entry.2) (other.price otherEntry.2))
    left.orderItems.zipIdx right.orderItems.zipIdx := by
  apply (forall₂_zipIdx hcontexts.orderItems_alike 0).imp
  rintro entry otherEntry ⟨hitem, hposition⟩
  exact ⟨hitem, hposition ▸ hlookups.price entry.2⟩

theorem totalMismatch_iff_of_alike : TotalMismatch lookups left ↔ TotalMismatch other right := by
  have hitems : catalogTotal lookups left = catalogTotal other right := by
    apply congrArg List.sum
    apply map_eq_map_of_forall₂
    apply (entries_alike hlookups hcontexts).imp
    rintro entry otherEntry ⟨hitem, hanswer⟩
    rw [toRat_getCurrentPrice_of_alike hanswer, hitem.quantity_eq]
  have htotal : left.totalAmount.toRat = right.totalAmount.toRat := hcontexts.totalAmount_same
  rw [TotalMismatch, TotalMismatch, hitems, htotal]

theorem otherNumberCount_eq_of_alike :
    otherNumberCount lookups left = otherNumberCount other right := by
  apply countP_eq_countP_of_forall₂
  apply (entries_alike hlookups hcontexts).imp
  rintro entry otherEntry ⟨hitem, hanswer⟩
  rw [isOtherNumber, isOtherNumber, toRat_getCurrentPrice_of_alike hanswer,
    map_toRat_of_same hitem.price_same]

omit hlookups hcontexts in
theorem level_eq_iff (count otherCount : ℕ) :
    ((if count = 0 then RiskLevel.low else .high) = if otherCount = 0 then .low else .high) ↔
      (count = 0 ↔ otherCount = 0) := by
  split_ifs with hcount hother hother
  · simp [hcount, hother]
  · simp [hcount, hother]
  · simp [hcount, hother]
  · simp [hcount, hother]

/-- The verdicts agree when the total is off, or else when the same number of
prices (of those that a 32-bit score can tell apart) is written in another way
than the catalog's. -/
theorem sameVerdict_iff :
    SameVerdict (validatePriceAccuracy lookups.price left)
        (validatePriceAccuracy other.price right) ↔
      TotalMismatch lookups left ∨
        (rescaledCount lookups left ≡ rescaledCount other right [MOD 2 ^ 29] ∧
          (otherNumberCount lookups left = 0 →
            (rescaledCount lookups left = 0 ↔ rescaledCount other right = 0))) := by
  have hmismatch := totalMismatch_iff_of_alike hlookups hcontexts
  have hother := otherNumberCount_eq_of_alike hlookups hcontexts
  obtain ⟨hlevel, haccurate⟩ := validatePriceAccuracy_verdict lookups left
  obtain ⟨hlevel', haccurate'⟩ := validatePriceAccuracy_verdict other right
  have hscore : (validatePriceAccuracy lookups.price left).score =
      (validatePriceAccuracy other.price right).score ↔
        priceDeduction lookups left = priceDeduction other right := by
    rw [← Int32.toInt_inj, validatePriceAccuracy_score, validatePriceAccuracy_score]
    omega
  rw [SameVerdict, hscore, hlevel, hlevel', Bool.eq_iff_iff, haccurate, haccurate',
    priceDeduction, priceDeduction]
  by_cases htotal : TotalMismatch lookups left
  · have htotal' := hmismatch.mp htotal
    simp [htotal, htotal']
  · have htotal' := mt hmismatch.mpr htotal
    have hscores : 100 - itemScore (mispricedCount lookups left) =
        100 - itemScore (mispricedCount other right) ↔
          rescaledCount lookups left ≡ rescaledCount other right [MOD 2 ^ 29] := by
      rw [sub_right_inj, itemScore_eq_iff, mispricedCount_eq, mispricedCount_eq, hother]
      constructor
      · exact fun hsum => Nat.ModEq.add_right_cancel' _ hsum
      · exact fun hcount => hcount.add_right _
    simp only [htotal, htotal', if_false, false_or, not_false_eq_true, true_and, hscores,
      level_eq_iff, and_self]
    apply and_congr_right
    intro _
    rw [mispricedCount_eq, mispricedCount_eq, ← hother]
    omega

end TwoRuns

/-- One pen at 10. -/
def penContext : TransactionContext where
  orderId := none
  userId := some (js "alice")
  sessionId := some (js "session-1")
  totalAmount := ⟨10, 0⟩
  currency := some (js "VND")
  timestamp := 0
  deviceFingerprint := some (js "Mozilla/5.0")
  ipAddress := some (js "203.0.113.7")
  orderItems := [⟨1, some (js "Pen"), some ⟨10, 0⟩, 1, none⟩]
  shippingDetails := none

/-- The price is the JSON number 10 or 10.0: the `double` prints as it is written. -/
def penLookups (written : BigDecimal) : CatalogLookups :=
  ⟨fun _ => .ofJson id (some (js "Pen")) (some written),
    fun _ => .ofJson id (some (js "Pen")) (some written)⟩

theorem penLookups_alike : LookupsAlike (penLookups ⟨10, 0⟩) (penLookups ⟨100, 1⟩) := by
  have hsame : SameNumber ⟨10, 0⟩ ⟨100, 1⟩ := by norm_num [SameNumber, BigDecimal.toRat]
  constructor
  · exact fun _ => AnswersAlike.product (Option.Rel.some hsame)
  · exact fun _ => AnswersAlike.product (Option.Rel.some hsame)

theorem penContext_alike : ContextsAlike penContext penContext := by
  constructor
  case orderItems_alike =>
    exact List.Forall₂.cons ⟨rfl, rfl, Option.Rel.some rfl, rfl, rfl⟩ List.Forall₂.nil
  all_goals rfl

theorem sameVerdict_iff_pen :
    SameVerdict (validatePriceAccuracy (penLookups ⟨10, 0⟩).price penContext)
        (validatePriceAccuracy (penLookups ⟨100, 1⟩).price penContext) ↔
      TotalMismatch (penLookups ⟨10, 0⟩) penContext ∨
        (rescaledCount (penLookups ⟨10, 0⟩) penContext ≡
            rescaledCount (penLookups ⟨100, 1⟩) penContext [MOD 2 ^ 29] ∧
          (otherNumberCount (penLookups ⟨10, 0⟩) penContext = 0 →
            (rescaledCount (penLookups ⟨10, 0⟩) penContext = 0 ↔
              rescaledCount (penLookups ⟨100, 1⟩) penContext = 0))) :=
  sameVerdict_iff penLookups_alike penContext_alike

/-- The catalog's 10.0 is not the order's 10. -/
theorem not_sameVerdict_pen :
    ¬ ∀ (lookups other : CatalogLookups) (left right : TransactionContext),
      LookupsAlike lookups other → ContextsAlike left right →
        SameVerdict (validatePriceAccuracy lookups.price left)
          (validatePriceAccuracy other.price right) := by
  intro hverdicts
  have hsame := hverdicts _ _ _ _ penLookups_alike penContext_alike
  have hscore : (validatePriceAccuracy (penLookups ⟨10, 0⟩).price penContext).score ≠
      (validatePriceAccuracy (penLookups ⟨100, 1⟩).price penContext).score := by
    decide
  exact hscore hsame.1

end TransactionSecurityService

end ShoppingWeb.Shared
