import ShoppingWeb.Lib.Correspondence
import ShoppingWeb.Order.CreateOrderSpec
import ShoppingWeb.Order.EncryptedColumns

/-!
# Looking up shipping rows by phone

The phone column is encrypted with a random IV, so rows are found by a keyed
digest of the phone, the blind index.  Nothing makes the index unique: every
order of a user brings the same one.  A run is observed together with the
phones of the orders it placed.
-/

namespace ShoppingWeb.PhoneLookup

open ShoppingWeb.Utf16
open ShoppingWeb.Shared
open ShoppingWeb.CartService
open ShoppingWeb.PaymentSecurityGateway
open ShoppingWeb.OrderService
open Program

/-- The rows with the index. -/
def matching (shippingInfos : Table ShippingInfo) (phoneBlindIndex : JString) :
    List ShippingInfo :=
  shippingInfos.rows.filter fun info => info.phoneBlindIndex == phoneBlindIndex

/-- `ShippingInfoRepository.findByPhoneBlindIndex`.  The result is an
`Optional`, so several matching rows are an exception. -/
def findByPhoneBlindIndex (shippingInfos : Table ShippingInfo) (phoneBlindIndex : JString) :
    Except ServiceException (Option ShippingInfo) :=
  match matching shippingInfos phoneBlindIndex with
  | [] => .ok none
  | [info] => .ok (some info)
  | _ => .error libraryFailure

theorem findByPhoneBlindIndex_ok_iff {shippingInfos : Table ShippingInfo}
    {phoneBlindIndex : JString} {found : Option ShippingInfo} :
    findByPhoneBlindIndex shippingInfos phoneBlindIndex = .ok found ↔
      matching shippingInfos phoneBlindIndex = found.toList := by
  rw [findByPhoneBlindIndex]
  split
  · rename_i hnone
    cases found <;> simp [hnone]
  · rename_i info hone
    cases found <;> simp [hone]
  · rename_i hnotNone hnotOne
    cases found with
    | none => exact iff_of_false (by simp) hnotNone
    | some info => exact iff_of_false (by simp) (hnotOne info)

/-- The value of `calculateBlindIndex`. -/
def blindIndexOf (configuration : OrderConfiguration) (phone : JString) : JString :=
  Base64.encode (configuration.crypto.hmacSha256 (getBytes configuration.hmacSecret)
    (getBytes phone))

/-- The phone column of the row decrypts to the phone. -/
def DecryptsTo (configuration : OrderConfiguration)
    (aesGcmOpen : (key iv ciphertext : Bytes) → Option Bytes) (info : ShippingInfo)
    (phone : JString) : Prop :=
  convertToEntityAttribute aesGcmOpen configuration.encryptionKey (some info.encryptedPhone) =
    .ok (some phone)

/-- The lookup succeeds and returns exactly the rows that decrypt to the phone. -/
def FindsPhone (configuration : OrderConfiguration)
    (aesGcmOpen : (key iv ciphertext : Bytes) → Option Bytes) (shippingInfos : Table ShippingInfo)
    (phone : JString) : Prop :=
  ∃ found, findByPhoneBlindIndex shippingInfos (blindIndexOf configuration phone) = .ok found ∧
    ∀ info, found = some info ↔
      info ∈ shippingInfos.rows ∧ DecryptsTo configuration aesGcmOpen info phone

/-- A call of `createOrder`.  The converter draws IVs of 12 bytes. -/
structure OrderCall where
  environment : CreateOrderEnvironment
  request : CreateOrderRequest
  addressIv_length : environment.addressIv.length = 12
  phoneIv_length : environment.phoneIv.length = 12

/-- Between the calls anything may happen to the carts and the gateway. -/
inductive PlacementEvent where
  | createOrder (call : OrderCall)
  | elsewhere (gateway : GatewayState) (cartStore : CartStore)

/-- The state, and the phones of the calls that returned, in their order. -/
structure PlacementHistory where
  state : ShopState
  phones : List JString

namespace PlacementHistory

def initial : PlacementHistory := ⟨.empty, []⟩

/-- The phone of a call that returned. -/
def placedPhone (request : CreateOrderRequest) : Except ServiceException Order → Option JString
  | .ok _ => request.phone
  | .error _ => none

def step (configuration : OrderConfiguration) (history : PlacementHistory) :
    PlacementEvent → PlacementHistory
  | .createOrder call =>
      let answer := exec (createOrder configuration call.environment call.request) history.state
      { state := answer.2
        phones := history.phones ++ (placedPhone call.request answer.1).toList }
  | .elsewhere gateway cartStore =>
      { history with state := { history.state with gateway, cartStore } }

def run (configuration : OrderConfiguration) (events : List PlacementEvent) : PlacementHistory :=
  events.foldl (step configuration) initial

/-- How many orders were placed with the phone, as UTF-8 carries it. -/
def ordersWith (history : PlacementHistory) (phone : JString) : ℕ :=
  history.phones.countP fun other => getBytes other == getBytes phone

end PlacementHistory

section Rows

variable {configuration : OrderConfiguration}
  {aesGcmOpen : (key iv ciphertext : Bytes) → Option Bytes}

/-- The row of an order that was placed with the phone. -/
structure ShipsWith (configuration : OrderConfiguration)
    (aesGcmOpen : (key iv ciphertext : Bytes) → Option Bytes) (phone : JString)
    (info : ShippingInfo) : Prop where
  phoneBlindIndex_eq : info.phoneBlindIndex = blindIndexOf configuration phone
  decrypts : DecryptsTo configuration aesGcmOpen info (newString (getBytes phone))

theorem shipsWith_newShippingInfo
    (hopen : ∀ key iv plaintext,
      aesGcmOpen key iv (configuration.crypto.aesGcmSeal key iv plaintext) = some plaintext)
    {environment : CreateOrderEnvironment} (hiv : environment.phoneIv.length = 12)
    (id orderId : ℤ) (customerName address phone : JString) :
    ShipsWith configuration aesGcmOpen phone
      { newShippingInfo configuration environment orderId customerName address phone with id } where
  phoneBlindIndex_eq := rfl
  decrypts := convertToEntityAttribute_sealed hiv (hopen _ _ _)

/-- Phones and rows correspond. -/
def PhonesShipped (configuration : OrderConfiguration)
    (aesGcmOpen : (key iv ciphertext : Bytes) → Option Bytes) (history : PlacementHistory) :
    Prop :=
  List.Forall₂ (ShipsWith configuration aesGcmOpen) history.phones
    history.state.tables.shippingInfos.rows

theorem phonesShipped_step
    (hopen : ∀ key iv plaintext,
      aesGcmOpen key iv (configuration.crypto.aesGcmSeal key iv plaintext) = some plaintext)
    {history : PlacementHistory} (hshipped : PhonesShipped configuration aesGcmOpen history)
    (event : PlacementEvent) :
    PhonesShipped configuration aesGcmOpen (history.step configuration event) := by
  cases event with
  | elsewhere gateway cartStore => exact hshipped
  | createOrder call =>
      simp only [PhonesShipped, PlacementHistory.step]
      cases hexec : exec (createOrder configuration call.environment call.request)
          history.state with
      | mk outcome final =>
          cases outcome with
          | error exception =>
              have hrows : final.tables.shippingInfos.rows =
                  history.state.tables.shippingInfos.rows :=
                congrArg (fun contents => contents.2.2) (exec_createOrder_error hexec).1
              simp only [PlacementHistory.placedPhone, Option.toList_none, List.append_nil, hrows]
              exact hshipped
          | ok order =>
              obtain ⟨placement, ⟨-, -, hplace⟩, -, -, -, rfl⟩ := exec_createOrder_ok.mp hexec
              simp only [PlacementHistory.placedPhone, hplace.hasPhone, Option.toList_some]
              exact List.rel_append hshipped
                (.cons (shipsWith_newShippingInfo hopen call.phoneIv_length _ _ _ _ _) .nil)

theorem phonesShipped_run
    (hopen : ∀ key iv plaintext,
      aesGcmOpen key iv (configuration.crypto.aesGcmSeal key iv plaintext) = some plaintext)
    (events : List PlacementEvent) :
    PhonesShipped configuration aesGcmOpen (PlacementHistory.run configuration events) := by
  induction events using List.reverseRecOn with
  | nil => exact .nil
  | append_singleton events event ih =>
      rw [PlacementHistory.run, List.foldl_append]
      exact phonesShipped_step hopen ih event

end Rows

section Lookup

variable {configuration : OrderConfiguration}
  {aesGcmOpen : (key iv ciphertext : Bytes) → Option Bytes} {phone : JString}

theorem blindIndexOf_eq_iff
    (hhmac : Function.Injective
      (configuration.crypto.hmacSha256 (getBytes configuration.hmacSecret)))
    {left right : JString} :
    blindIndexOf configuration left = blindIndexOf configuration right ↔
      getBytes left = getBytes right := by
  constructor
  · intro hindex
    have hdecode := congrArg Base64.decode hindex
    rw [blindIndexOf, blindIndexOf, Base64.decode_encode, Base64.decode_encode] at hdecode
    exact hhmac (Option.some.inj hdecode)
  · intro hbytes
    rw [blindIndexOf, blindIndexOf, hbytes]

/-- What a row decrypts to is well formed. -/
theorem wellFormed_of_decryptsTo {other : JString} {info : ShippingInfo}
    (hships : ShipsWith configuration aesGcmOpen other info)
    (hdecrypts : DecryptsTo configuration aesGcmOpen info phone) :
    newString (getBytes other) = phone ∧ WellFormed phone := by
  have hsame := Option.some.inj (Except.ok.inj (hships.decrypts.symm.trans hdecrypts))
  exact ⟨hsame, hsame ▸ wellFormed_newString _⟩

/-- A well-formed phone has the index of the rows that decrypt to it. -/
theorem decryptsTo_iff
    (hhmac : Function.Injective
      (configuration.crypto.hmacSha256 (getBytes configuration.hmacSecret)))
    {other : JString} {info : ShippingInfo}
    (hships : ShipsWith configuration aesGcmOpen other info) (hphone : WellFormed phone) :
    DecryptsTo configuration aesGcmOpen info phone ↔
      info.phoneBlindIndex = blindIndexOf configuration phone := by
  rw [hships.phoneBlindIndex_eq, blindIndexOf_eq_iff hhmac]
  constructor
  · intro hdecrypts
    obtain ⟨rfl, -⟩ := wellFormed_of_decryptsTo hships hdecrypts
    exact (getBytes_newString_getBytes other).symm
  · intro hbytes
    have hdecrypts := hships.decrypts
    rwa [hbytes, newString_getBytes hphone] at hdecrypts

/-- As many rows match the index as orders were placed with the phone. -/
theorem length_matching
    (hhmac : Function.Injective
      (configuration.crypto.hmacSha256 (getBytes configuration.hmacSecret)))
    {history : PlacementHistory} (hshipped : PhonesShipped configuration aesGcmOpen history)
    (phone : JString) :
    (matching history.state.tables.shippingInfos (blindIndexOf configuration phone)).length =
      history.ordersWith phone := by
  rw [PlacementHistory.ordersWith, List.countP_eq_length_filter]
  refine (List.rel_filter ?_ hshipped).length_eq.symm
  intro other info hships
  simp only [beq_iff_eq]
  rw [hships.phoneBlindIndex_eq, blindIndexOf_eq_iff hhmac]

/-- The rows with the index are those that decrypt to the phone, unless the
phone is not well formed: nothing decrypts to such a phone. -/
theorem matching_correct_iff
    (hhmac : Function.Injective
      (configuration.crypto.hmacSha256 (getBytes configuration.hmacSecret)))
    {history : PlacementHistory} (hshipped : PhonesShipped configuration aesGcmOpen history)
    (phone : JString) :
    (∀ info, info ∈ matching history.state.tables.shippingInfos (blindIndexOf configuration phone) ↔
      info ∈ history.state.tables.shippingInfos.rows ∧
        DecryptsTo configuration aesGcmOpen info phone) ↔
      matching history.state.tables.shippingInfos (blindIndexOf configuration phone) = [] ∨
        WellFormed phone := by
  have hships : ∀ info ∈ history.state.tables.shippingInfos.rows,
      ∃ other ∈ history.phones, ShipsWith configuration aesGcmOpen other info :=
    fun _ hinfo => Correspondence.exists_counterpart hshipped hinfo
  have hwellFormed : ∀ info ∈ history.state.tables.shippingInfos.rows,
      DecryptsTo configuration aesGcmOpen info phone → WellFormed phone := by
    intro info hinfo hdecrypts
    obtain ⟨other, -, hother⟩ := hships info hinfo
    exact (wellFormed_of_decryptsTo hother hdecrypts).2
  have hcorrect : WellFormed phone → ∀ info,
      info ∈ matching history.state.tables.shippingInfos (blindIndexOf configuration phone) ↔
        info ∈ history.state.tables.shippingInfos.rows ∧
          DecryptsTo configuration aesGcmOpen info phone := by
    intro hphone info
    rw [matching, List.mem_filter, beq_iff_eq]
    apply and_congr_right
    intro hinfo
    obtain ⟨other, -, hother⟩ := hships info hinfo
    exact (decryptsTo_iff hhmac hother hphone).symm
  constructor
  · intro hsame
    by_contra hneither
    push Not at hneither
    obtain ⟨hsome, hmalformed⟩ := hneither
    obtain ⟨info, hinfo⟩ := List.exists_mem_of_ne_nil _ hsome
    obtain ⟨hrow, hdecrypts⟩ := (hsame info).mp hinfo
    exact hmalformed (hwellFormed info hrow hdecrypts)
  · rintro (hnone | hphone)
    · intro info
      rw [hnone]
      refine iff_of_false List.not_mem_nil ?_
      rintro ⟨hrow, hdecrypts⟩
      have hfound := (hcorrect (hwellFormed info hrow hdecrypts) info).mpr ⟨hrow, hdecrypts⟩
      rw [hnone] at hfound
      cases hfound
    · exact hcorrect hphone

/-- The lookup finds the right rows exactly when no order was placed with the
phone, or one and the phone is well formed. -/
theorem findsPhone_iff_ordersWith
    (hhmac : Function.Injective
      (configuration.crypto.hmacSha256 (getBytes configuration.hmacSecret)))
    {history : PlacementHistory} (hshipped : PhonesShipped configuration aesGcmOpen history)
    (phone : JString) :
    FindsPhone configuration aesGcmOpen history.state.tables.shippingInfos phone ↔
      history.ordersWith phone = 0 ∨ history.ordersWith phone = 1 ∧ WellFormed phone := by
  have hcorrect := matching_correct_iff hhmac hshipped phone
  rw [← length_matching hhmac hshipped phone]
  simp only [FindsPhone, findByPhoneBlindIndex_ok_iff]
  constructor
  · rintro ⟨found, hfound, hsame⟩
    rw [hfound] at hcorrect ⊢
    have hneither := hcorrect.mp fun info => by rw [Option.mem_toList, hsame]
    cases found with
    | none => exact Or.inl rfl
    | some info => exact Or.inr ⟨rfl, hneither.resolve_left (List.cons_ne_nil _ _)⟩
  · rintro (hnone | ⟨hone, hphone⟩)
    · have hnil := List.length_eq_zero_iff.mp hnone
      have hsame := hcorrect.mpr (Or.inl hnil)
      refine ⟨none, hnil, fun info => ?_⟩
      rw [← hsame, hnil]
      simp
    · obtain ⟨first, hfirst⟩ := List.length_eq_one_iff.mp hone
      have hsame := hcorrect.mpr (Or.inr hphone)
      refine ⟨some first, hfirst, fun info => ?_⟩
      rw [← hsame, hfirst, List.mem_singleton, Option.some.injEq, eq_comm]

end Lookup

/-- After every run, the lookup by the index of a phone finds the right rows
exactly when no order was placed with the phone, or one and the phone is well
formed. -/
theorem findsPhone_iff (configuration : OrderConfiguration)
    (aesGcmOpen : (key iv ciphertext : Bytes) → Option Bytes)
    (hopen : ∀ key iv plaintext,
      aesGcmOpen key iv (configuration.crypto.aesGcmSeal key iv plaintext) = some plaintext)
    (hhmac : Function.Injective
      (configuration.crypto.hmacSha256 (getBytes configuration.hmacSecret)))
    (events : List PlacementEvent) (phone : JString) :
    FindsPhone configuration aesGcmOpen
        (PlacementHistory.run configuration events).state.tables.shippingInfos phone ↔
      (PlacementHistory.run configuration events).ordersWith phone = 0 ∨
        (PlacementHistory.run configuration events).ordersWith phone = 1 ∧ WellFormed phone :=
  findsPhone_iff_ordersWith hhmac (phonesShipped_run hopen events) phone

/-- Stand-ins: the sealed text and the digest are the text itself. -/
def openConfiguration : OrderConfiguration where
  crypto := ⟨fun message => message, fun _ message => message, fun _ _ plaintext => plaintext⟩
  hmacSecret := js "secret"
  encryptionKey := js "0123456789abcdef0123456789abcdef"

/-- Alice puts a laptop into her cart and orders it. -/
def orderLaptop (trackingSuffix : JString) : List PlacementEvent :=
  [.elsewhere .empty (CartStore.empty.addItemToCart (js "alice") 1 1),
    .createOrder
      { environment := { smoothEnvironment laptop with trackingSuffix }
        request := plainRequest (js "alice")
        addressIv_length := rfl
        phoneIv_length := rfl }]

theorem findsPhone_iff_oneOrder :
    FindsPhone openConfiguration (fun _ _ ciphertext => some ciphertext)
        (PlacementHistory.run openConfiguration
          (orderLaptop (js "A"))).state.tables.shippingInfos (js "0900000000") ↔
      (PlacementHistory.run openConfiguration (orderLaptop (js "A"))).ordersWith
          (js "0900000000") = 0 ∨
        (PlacementHistory.run openConfiguration (orderLaptop (js "A"))).ordersWith
          (js "0900000000") = 1 ∧ WellFormed (js "0900000000") :=
  findsPhone_iff openConfiguration (fun _ _ ciphertext => some ciphertext) (fun _ _ _ => rfl)
    (fun _ _ heq => heq) (orderLaptop (js "A")) (js "0900000000")

/-- When she has ordered twice the lookup throws. -/
theorem not_findsPhone_twoOrders :
    ¬ ∀ (configuration : OrderConfiguration)
      (aesGcmOpen : (key iv ciphertext : Bytes) → Option Bytes),
      (∀ key iv plaintext,
        aesGcmOpen key iv (configuration.crypto.aesGcmSeal key iv plaintext) = some plaintext) →
      Function.Injective (configuration.crypto.hmacSha256 (getBytes configuration.hmacSecret)) →
      ∀ (events : List PlacementEvent) (phone : JString),
        FindsPhone configuration aesGcmOpen
          (PlacementHistory.run configuration events).state.tables.shippingInfos phone := by
  intro hfinds
  obtain ⟨found, hfound, -⟩ := hfinds openConfiguration (fun _ _ ciphertext => some ciphertext)
    (fun _ _ _ => rfl) (fun _ _ heq => heq) (orderLaptop (js "A") ++ orderLaptop (js "B"))
    (js "0900000000")
  have hmatching := congrArg List.length (findByPhoneBlindIndex_ok_iff.mp hfound)
  have htwo : (matching (PlacementHistory.run openConfiguration
      (orderLaptop (js "A") ++ orderLaptop (js "B"))).state.tables.shippingInfos
      (blindIndexOf openConfiguration (js "0900000000"))).length = 2 := by
    decide +kernel
  cases found with
  | none => exact absurd (htwo.symm.trans hmatching) (by decide)
  | some info => exact absurd (htwo.symm.trans hmatching) (by simp)

end ShoppingWeb.PhoneLookup
