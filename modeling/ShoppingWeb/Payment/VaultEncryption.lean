import ShoppingWeb.Order.EncryptedColumns
import ShoppingWeb.Payment.PaymentService

/-!
# Vault and its local fallback

Encryption asks Vault and falls back to a local key; decryption looks at the
text and falls back too.  A local text is Base64 and holds no colon, so it is
never taken for one of Vault's, and Vault's do not decode locally.
-/

namespace ShoppingWeb.PaymentService

open ShoppingWeb.Utf16
open ShoppingWeb.Shared
open ShoppingWeb.OrderService

def decryptLocal (aesGcmOpen : (key iv ciphertext : Bytes) → Option Bytes) :
    Option JString → Except ServiceException JString
  | none => .error (.runtime (js "Local AES decryption failed"))
  | some cipherText =>
      match openFramed aesGcmOpen (getBytes localKey) cipherText with
      | some decrypted => .ok (newString decrypted)
      | none => .error (.runtime (js "Local AES decryption failed"))

/-- Vault's plaintext, when the text is one of its, there is a Vault and the
call does not fail. -/
def decryptWithVault (vault : Option (JString → Option JString)) :
    Option JString → Option JString
  | none => none
  | some cipherText =>
      if js "vault:" <+: cipherText then vault.bind fun decrypt => decrypt cipherText else none

def decryptData (aesGcmOpen : (key iv ciphertext : Bytes) → Option Bytes)
    (vault : Option (JString → Option JString)) (cipherText : Option JString) :
    Except ServiceException JString :=
  match decryptWithVault vault cipherText with
  | some plaintext => .ok plaintext
  | none => decryptLocal aesGcmOpen cipherText

/-- The transit engine under the key of the service.  Its ciphertexts are
marked, and decrypt to what was encrypted. -/
structure Transit where
  encrypt : JString → JString
  decrypt : JString → Option JString
  marked : ∀ plainText, js "vault:" <+: encrypt plainText
  decrypt_encrypt : ∀ plainText, WellFormed plainText →
    decrypt (encrypt plainText) = some plainText

/-- How a call finds the Vault template. -/
inductive VaultStatus where
  | absent
  | failing
  | working
  deriving DecidableEq, Repr

/-- What the service has of Vault for a call. -/
def VaultStatus.template (status : VaultStatus) (call : JString → Option JString) :
    Option (JString → Option JString) :=
  match status with
  | .absent => none
  | .failing => some fun _ => none
  | .working => some call

/-- The backend that encrypts at one status can decrypt at the other.  The local
one always can. -/
def BackendAvailable (atEncryption atDecryption : VaultStatus) : Prop :=
  atEncryption = .working → atDecryption = .working

instance (atEncryption atDecryption : VaultStatus) :
    Decidable (BackendAvailable atEncryption atDecryption) :=
  inferInstanceAs (Decidable (_ → _))

/-- Decryption gives the plaintext when its backend is available, and otherwise
throws. -/
structure NeverMixedUp (atEncryption atDecryption : VaultStatus) (plainText : JString)
    (result : Except ServiceException JString) : Prop where
  recovers : BackendAvailable atEncryption atDecryption → result = .ok plainText
  throws : ¬ BackendAvailable atEncryption atDecryption →
    ∃ message, result = .error (.runtime message)
  nothing_else : ∀ text, result = .ok text → text = plainText

theorem colon_not_mem_encode (bytes : Bytes) : (58 : CodeUnit) ∉ Base64.encode bytes :=
  Base64.not_mem_encode (by decide) (by decide) bytes

theorem colon_mem_of_marked {text : JString} (hmarked : js "vault:" <+: text) :
    (58 : CodeUnit) ∈ text :=
  hmarked.subset (by decide)

/-- A local text is not taken for one of Vault's. -/
theorem decryptData_encode (aesGcmOpen : (key iv ciphertext : Bytes) → Option Bytes)
    (vault : Option (JString → Option JString)) (bytes : Bytes) :
    decryptData aesGcmOpen vault (some (Base64.encode bytes)) =
      decryptLocal aesGcmOpen (some (Base64.encode bytes)) := by
  have hunmarked : ¬ js "vault:" <+: Base64.encode bytes :=
    fun hmarked => colon_not_mem_encode bytes (colon_mem_of_marked hmarked)
  rw [decryptData, decryptWithVault, if_neg hunmarked]

/-- The local key does not decrypt a text of Vault. -/
theorem decryptLocal_marked (aesGcmOpen : (key iv ciphertext : Bytes) → Option Bytes)
    {text : JString} (hmarked : js "vault:" <+: text) :
    decryptLocal aesGcmOpen (some text) =
      .error (.runtime (js "Local AES decryption failed")) := by
  have hdecode : Base64.decode text = none :=
    Base64.decode_eq_none_of_mem (colon_mem_of_marked hmarked) (by decide) (by decide)
  rw [decryptLocal, openFramed, hdecode]
  rfl

/-- A text of Vault is decrypted by Vault, or not at all. -/
theorem decryptData_marked (aesGcmOpen : (key iv ciphertext : Bytes) → Option Bytes)
    (transit : Transit) {plainText : JString} (hplainText : WellFormed plainText)
    (atDecryption : VaultStatus) :
    decryptData aesGcmOpen (atDecryption.template transit.decrypt)
        (some (transit.encrypt plainText)) =
      if atDecryption = .working then .ok plainText
      else .error (.runtime (js "Local AES decryption failed")) := by
  have hmarked := transit.marked plainText
  rw [decryptData, decryptWithVault, if_pos hmarked]
  cases atDecryption with
  | absent => exact decryptLocal_marked aesGcmOpen hmarked
  | failing => exact decryptLocal_marked aesGcmOpen hmarked
  | working =>
      rw [VaultStatus.template, Option.bind_some, transit.decrypt_encrypt _ hplainText]
      rfl

variable {crypto : Crypto} {aesGcmOpen : (key iv ciphertext : Bytes) → Option Bytes}

/-- What the local key has encrypted it decrypts. -/
theorem decryptLocal_encryptLocal {iv : Bytes} (hiv : iv.length = 12) {plainText : JString}
    (hplainText : WellFormed plainText)
    (hopen : aesGcmOpen (getBytes localKey) iv
      (crypto.aesGcmSeal (getBytes localKey) iv (getBytes plainText)) =
        some (getBytes plainText)) :
    decryptLocal aesGcmOpen (some (encryptLocal crypto iv plainText)) = .ok plainText := by
  simp only [decryptLocal, encryptLocal, openFramed_encode hiv, hopen,
    newString_getBytes hplainText]

/-- Vault encrypts when it works, and otherwise the local key does. -/
theorem encryptData_template (transit : Transit) (atEncryption : VaultStatus) (iv : Bytes)
    (plainText : JString) :
    encryptData crypto (atEncryption.template fun text => some (transit.encrypt text)) iv
        plainText =
      if atEncryption = .working then transit.encrypt plainText
      else encryptLocal crypto iv plainText := by
  cases atEncryption <;> rfl

theorem neverMixedUp_of_ok {atEncryption atDecryption : VaultStatus} {plainText : JString}
    (havailable : BackendAvailable atEncryption atDecryption) :
    NeverMixedUp atEncryption atDecryption plainText (.ok plainText) where
  recovers _ := rfl
  throws hunavailable := absurd havailable hunavailable
  nothing_else _ htext := (Except.ok.inj htext).symm

theorem neverMixedUp_of_error {atEncryption atDecryption : VaultStatus}
    {plainText message : JString}
    (hunavailable : ¬ BackendAvailable atEncryption atDecryption) :
    NeverMixedUp atEncryption atDecryption plainText (.error (.runtime message)) where
  recovers havailable := absurd havailable hunavailable
  throws _ := ⟨message, rfl⟩
  nothing_else _ htext := by cases htext

/-- However Vault is found at encryption and at decryption, a text is recovered
by the backend that encrypted it or by none. -/
theorem decryptData_encryptData (crypto : Crypto) (hseal : LawfulSealing crypto.aesGcmSeal)
    (transit : Transit) (log : List (IdealAead.Sealing Bytes Bytes Bytes)) (iv : Bytes)
    (hiv : iv.length = 12) (plainText : JString) (hplainText : WellFormed plainText)
    (atEncryption atDecryption : VaultStatus)
    (hlog : atEncryption ≠ .working → ⟨getBytes localKey, iv, getBytes plainText⟩ ∈ log) :
    NeverMixedUp atEncryption atDecryption plainText
      (decryptData (IdealAead.openLogged crypto.aesGcmSeal log)
        (atDecryption.template transit.decrypt)
        (some (encryptData crypto
          (atEncryption.template fun text => some (transit.encrypt text)) iv plainText))) := by
  rw [encryptData_template]
  split_ifs with hvault
  · rw [decryptData_marked _ transit hplainText]
    split_ifs with hworking
    · exact neverMixedUp_of_ok fun _ => hworking
    · exact neverMixedUp_of_error fun havailable => hworking (havailable hvault)
  · have hopen := (IdealAead.openLogged_eq_some_iff (hseal.injective _ _)).mpr
      ⟨hlog hvault, rfl⟩
    have hlocal := (decryptData_encode _ (atDecryption.template transit.decrypt) _).trans
      (decryptLocal_encryptLocal hiv hplainText hopen)
    rw [encryptLocal, hlocal]
    exact neverMixedUp_of_ok fun hworking => absurd hworking hvault

/-- A stand-in for the engine that only marks. -/
def markingTransit : Transit where
  encrypt plainText := js "vault:" ++ plainText
  decrypt cipherText := some (cipherText.drop 6)
  marked _ := List.prefix_append _ _
  decrypt_encrypt _ _ := rfl

/-- Vault is down when the text is encrypted and back when it is decrypted. -/
theorem decryptData_encryptData_recovered :
    NeverMixedUp .failing .working (js "amount: 500")
      (decryptData
        (IdealAead.openLogged zeroTagCrypto.aesGcmSeal
          [⟨getBytes localKey, List.replicate 12 7, getBytes (js "amount: 500")⟩])
        (VaultStatus.working.template markingTransit.decrypt)
        (some (encryptData zeroTagCrypto
          (VaultStatus.failing.template fun text => some (markingTransit.encrypt text))
          (List.replicate 12 7) (js "amount: 500")))) :=
  decryptData_encryptData zeroTagCrypto lawfulSealing_zeroTag markingTransit _ _ (by decide) _
    ⟨_, rfl⟩ .failing .working fun _ => List.mem_singleton.mpr rfl

end ShoppingWeb.PaymentService
