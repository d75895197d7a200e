import ShoppingWeb.Lib.IdealAead
import ShoppingWeb.Order.Entities

/-!
# Encrypted columns

A stored text is the Base64 form of an IV of 12 bytes followed by the sealed
text.  With an ideal cipher the converter reads back what it wrote and refuses
every other text.
-/

namespace ShoppingWeb.OrderService

open ShoppingWeb.Utf16
open ShoppingWeb.Shared

section Framed

variable {aesGcmOpen : (key iv ciphertext : Bytes) → Option Bytes} {key : Bytes} {text : JString}

/-- The decryption of a text that holds an IV and a ciphertext. -/
def openFramed (aesGcmOpen : (key iv ciphertext : Bytes) → Option Bytes) (key : Bytes)
    (text : JString) : Option Bytes :=
  (Base64.decode text).bind fun ivAndCipherText =>
    if ivAndCipherText.length < 12 then none
    else aesGcmOpen key (ivAndCipherText.take 12) (ivAndCipherText.drop 12)

theorem openFramed_eq_some_iff {plaintext : Bytes} :
    openFramed aesGcmOpen key text = some plaintext ↔
      ∃ iv ciphertext : Bytes, iv.length = 12 ∧ Base64.decode text = some (iv ++ ciphertext) ∧
        aesGcmOpen key iv ciphertext = some plaintext := by
  rw [openFramed, Option.bind_eq_some_iff]
  constructor
  · rintro ⟨framed, hdecode, hopen⟩
    split_ifs at hopen with hshort
    refine ⟨framed.take 12, framed.drop 12, ?_, ?_, hopen⟩
    · rw [List.length_take]
      omega
    · rw [List.take_append_drop, hdecode]
  · rintro ⟨iv, ciphertext, hiv, hdecode, hopen⟩
    refine ⟨iv ++ ciphertext, hdecode, ?_⟩
    have hlong : ¬ (iv ++ ciphertext).length < 12 := by
      rw [List.length_append]
      omega
    rw [if_neg hlong, List.take_left' hiv, List.drop_left' hiv, hopen]

/-- A framed ciphertext is decrypted with its IV. -/
theorem openFramed_encode {iv : Bytes} (hiv : iv.length = 12) (ciphertext : Bytes) :
    openFramed aesGcmOpen key (Base64.encode (iv ++ ciphertext)) =
      aesGcmOpen key iv ciphertext := by
  have hlong : ¬ (iv ++ ciphertext).length < 12 := by
    rw [List.length_append]
    omega
  rw [openFramed, Base64.decode_encode, Option.bind_some, if_neg hlong, List.take_left' hiv,
    List.drop_left' hiv]

theorem convertToEntityAttribute_some (encryptionKey : JString) :
    convertToEntityAttribute aesGcmOpen encryptionKey (some text) =
      match openFramed aesGcmOpen (getBytes encryptionKey) text with
      | some plaintext => .ok (some (newString plaintext))
      | none => .error (.runtime (js "Failed to decrypt data (AES-GCM)")) := rfl

end Framed

/-- What the converter reads back of what it wrote. -/
theorem convertToEntityAttribute_sealed {crypto : Crypto}
    {aesGcmOpen : (key iv ciphertext : Bytes) → Option Bytes} {encryptionKey : JString}
    {iv : Bytes} (hiv : iv.length = 12) {text : JString}
    (hopen : aesGcmOpen (getBytes encryptionKey) iv
      (crypto.aesGcmSeal (getBytes encryptionKey) iv (getBytes text)) = some (getBytes text)) :
    convertToEntityAttribute aesGcmOpen encryptionKey
        (convertToDatabaseColumn crypto encryptionKey iv (some text)) =
      .ok (some (newString (getBytes text))) := by
  rw [convertToDatabaseColumn, Option.map_some, convertToEntityAttribute_some,
    openFramed_encode hiv, hopen]

/-- A sealed text determines its plaintext, and is longer by the tag. -/
structure LawfulSealing (aesGcmSeal : (key iv plaintext : Bytes) → Bytes) : Prop where
  injective : ∀ key iv, Function.Injective (aesGcmSeal key iv)
  length_eq : ∀ key iv plaintext, (aesGcmSeal key iv plaintext).length = plaintext.length + 16

/-- A text the converter has encrypted. -/
structure Conversion where
  encryptionKey : JString
  iv : Bytes
  attributeText : JString
  /-- Other keys are no AES keys, and the call throws. -/
  key_length : (getBytes encryptionKey).length ∈ [16, 24, 32]
  iv_length : iv.length = 12

namespace Conversion

def sealing (conversion : Conversion) : IdealAead.Sealing Bytes Bytes Bytes :=
  ⟨getBytes conversion.encryptionKey, conversion.iv, getBytes conversion.attributeText⟩

def column (crypto : Crypto) (conversion : Conversion) : Option JString :=
  convertToDatabaseColumn crypto conversion.encryptionKey conversion.iv
    (some conversion.attributeText)

end Conversion

/-- Decryption after some conversions. -/
def idealOpen (crypto : Crypto) (conversions : List Conversion) :
    (key iv ciphertext : Bytes) → Option Bytes :=
  IdealAead.openLogged crypto.aesGcmSeal (conversions.map Conversion.sealing)

/-- The converter has produced the bytes under the key. -/
def Produced (crypto : Crypto) (conversions : List Conversion) (encryptionKey : JString)
    (bytes : Bytes) : Prop :=
  ∃ conversion ∈ conversions, getBytes conversion.encryptionKey = getBytes encryptionKey ∧
    conversion.column crypto = some (Base64.encode bytes)

/-- The converter reads back what it wrote, keeps null, and throws on every
text that does not decode to bytes it has produced. -/
structure FaithfulColumn (crypto : Crypto) (conversions : List Conversion) : Prop where
  roundTrip : ∀ conversion ∈ conversions, WellFormed conversion.attributeText →
    convertToEntityAttribute (idealOpen crypto conversions) conversion.encryptionKey
      (conversion.column crypto) = .ok (some conversion.attributeText)
  null_column : ∀ encryptionKey iv, convertToDatabaseColumn crypto encryptionKey iv none = none
  null_attribute : ∀ encryptionKey,
    convertToEntityAttribute (idealOpen crypto conversions) encryptionKey none = .ok none
  refuses : ∀ encryptionKey dbData,
    (∀ bytes, Base64.decode dbData = some bytes →
      ¬ Produced crypto conversions encryptionKey bytes) →
    ∃ message, convertToEntityAttribute (idealOpen crypto conversions) encryptionKey
      (some dbData) = .error (.runtime message)
  refuses_short : ∀ encryptionKey dbData bytes, Base64.decode dbData = some bytes →
    bytes.length < 28 →
    ∃ message, convertToEntityAttribute (idealOpen crypto conversions) encryptionKey
      (some dbData) = .error (.runtime message)

variable {crypto : Crypto} {conversions : List Conversion} {encryptionKey : JString}

/-- Only produced bytes are decrypted. -/
theorem produced_of_openFramed {dbData : JString} {plaintext : Bytes}
    (hopen : openFramed (idealOpen crypto conversions) (getBytes encryptionKey) dbData =
      some plaintext) :
    ∃ bytes, Base64.decode dbData = some bytes ∧
      Produced crypto conversions encryptionKey bytes := by
  obtain ⟨iv, ciphertext, -, hdecode, hopened⟩ := openFramed_eq_some_iff.mp hopen
  obtain ⟨hmem, rfl⟩ := IdealAead.mem_of_openLogged hopened
  obtain ⟨conversion, hconversion, hsealing⟩ := List.mem_map.mp hmem
  simp only [Conversion.sealing, IdealAead.Sealing.mk.injEq] at hsealing
  obtain ⟨hkey, rfl, rfl⟩ := hsealing
  refine ⟨_, hdecode, conversion, hconversion, hkey, ?_⟩
  rw [Conversion.column, convertToDatabaseColumn, Option.map_some, hkey]

/-- A text that does not decode to produced bytes is refused. -/
theorem convertToEntityAttribute_refuses {dbData : JString}
    (hforeign : ∀ bytes, Base64.decode dbData = some bytes →
      ¬ Produced crypto conversions encryptionKey bytes) :
    ∃ message, convertToEntityAttribute (idealOpen crypto conversions) encryptionKey
      (some dbData) = .error (.runtime message) := by
  rw [convertToEntityAttribute_some]
  cases hopen : openFramed (idealOpen crypto conversions) (getBytes encryptionKey) dbData with
  | none => exact ⟨_, rfl⟩
  | some plaintext =>
      obtain ⟨bytes, hdecode, hproduced⟩ := produced_of_openFramed hopen
      exact absurd hproduced (hforeign bytes hdecode)

/-- Produced bytes hold an IV and a tag. -/
theorem length_produced (hseal : LawfulSealing crypto.aesGcmSeal) {bytes : Bytes}
    (hproduced : Produced crypto conversions encryptionKey bytes) : 28 ≤ bytes.length := by
  obtain ⟨conversion, -, -, hcolumn⟩ := hproduced
  have hencode := Option.some.inj hcolumn
  have hdecode := congrArg Base64.decode hencode
  rw [Base64.decode_encode, Base64.decode_encode] at hdecode
  obtain rfl := Option.some.inj hdecode
  rw [List.length_append, conversion.iv_length, hseal.length_eq]
  omega

/-- After any conversions the column is faithful. -/
theorem faithfulColumn (hseal : LawfulSealing crypto.aesGcmSeal)
    (conversions : List Conversion) : FaithfulColumn crypto conversions where
  roundTrip conversion hconversion hattribute := by
    have hopen : idealOpen crypto conversions (getBytes conversion.encryptionKey) conversion.iv
        (crypto.aesGcmSeal (getBytes conversion.encryptionKey) conversion.iv
          (getBytes conversion.attributeText)) = some (getBytes conversion.attributeText) :=
      (IdealAead.openLogged_eq_some_iff (hseal.injective _ _)).mpr
        ⟨List.mem_map_of_mem hconversion, rfl⟩
    rw [Conversion.column, convertToEntityAttribute_sealed conversion.iv_length hopen,
      newString_getBytes hattribute]
  null_column _ _ := rfl
  null_attribute _ := rfl
  refuses _ _ hforeign := convertToEntityAttribute_refuses hforeign
  refuses_short encryptionKey dbData bytes hdecode hshort := by
    apply convertToEntityAttribute_refuses
    intro other hother hproduced
    obtain rfl := Option.some.inj (hdecode.symm.trans hother)
    exact absurd (length_produced hseal hproduced) (Nat.not_le.mpr hshort)

/-- A stand-in whose tag is sixteen zeros. -/
def zeroTagCrypto : Crypto where
  sha256 message := message
  hmacSha256 key message := key ++ message
  aesGcmSeal _ _ plaintext := plaintext ++ List.replicate 16 0

theorem lawfulSealing_zeroTag : LawfulSealing zeroTagCrypto.aesGcmSeal where
  injective _ _ _ _ heq := List.append_cancel_right heq
  length_eq _ _ _ := by rw [zeroTagCrypto, List.length_append, List.length_replicate]

/-- The phone number of alice, encrypted with the configured default key. -/
def phoneConversion : Conversion where
  encryptionKey := js "0123456789abcdef0123456789abcdef"
  iv := List.replicate 12 7
  attributeText := js "0900000000"
  key_length := by decide
  iv_length := by decide

theorem faithfulColumn_phone : FaithfulColumn zeroTagCrypto [phoneConversion] :=
  faithfulColumn lawfulSealing_zeroTag [phoneConversion]

end ShoppingWeb.OrderService
