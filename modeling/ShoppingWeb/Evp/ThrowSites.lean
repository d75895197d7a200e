import ShoppingWeb.Evp.AesCApi
import ShoppingWeb.Evp.HashCApi
import ShoppingWeb.Lib.Thrown

/-!
# Where the tools throw

Inside the calls of the C interfaces three things fail: a call of OpenSSL, the
resolution of a name, and the check of an argument.  Each library throws at
known places with known texts.
-/

namespace ShoppingWeb.Evp

open ShoppingWeb.ByteText
open ShoppingWeb.CallerMemory
open ShoppingWeb.Shared
open ShoppingWeb.Program
open ShoppingWeb.Thrown

/-- What fails inside a call. -/
inductive Failure where
  | openSsl (context : ByteString) (stack : ErrorStack)
  | unknownName (name : ByteString)
  | rejected (message : ByteString)
  deriving DecidableEq, Repr

/-- The status for each of them. -/
def Failure.expected : Failure → Status
  | .openSsl _ _ => .openSsl
  | .unknownName _ => .unavailable
  | .rejected _ => .invalidArgument

/-- A library by the texts it throws with. -/
structure Library where
  markers : ErrorMarkers
  /-- What stands before a name that has no algorithm. -/
  unknownName : ByteString
  /-- The contexts of `check_1`. -/
  contexts : List ByteString
  /-- The texts of arguments that are rejected. -/
  Rejects : ByteString → Prop

namespace Library

variable (library : Library)

def exception : Failure → ToolException
  | .openSsl context stack => openSslErrorOf context stack
  | .unknownName name => .invalidArgument (library.unknownName ++ name)
  | .rejected message => .invalidArgument message

/-- The library can fail so. -/
def Fails : Failure → Prop
  | .openSsl context _ => context ∈ library.contexts
  | .unknownName _ => True
  | .rejected message => library.Rejects message

/-- The exception comes from a failure of the library. -/
def Explains (e : ToolException) : Prop :=
  ∃ failure, library.Fails failure ∧ library.exception failure = e

end Library

section Rules

variable {library : Library} {Value : Type}

theorem throws_check1 {context : ByteString} (hcontext : context ∈ library.contexts)
    (outcome : Except ErrorStack Value) : Throws library.Explains (check1 context outcome) := by
  cases outcome with
  | ok value => exact throws_ok value
  | error stack => exact throws_error ⟨.openSsl context stack, hcontext, rfl⟩

theorem throws_invalidArgument {message : ByteString} (hrejects : library.Rejects message) :
    Throws library.Explains (.error (.invalidArgument message) : Except ToolException Value) :=
  throws_error ⟨.rejected message, hrejects, rfl⟩

theorem throws_rejectWhen {message : ByteString} (hrejects : library.Rejects message)
    (condition : Prop) [Decidable condition] :
    Throws library.Explains (rejectWhen condition message) :=
  throws_ite (fun _ => throws_invalidArgument hrejects) fun _ => throws_ok _

theorem throws_checkedIntSize {label : ByteString}
    (hrejects : library.Rejects (label ++ ascii " is too large for one EVP call")) (size : ℕ) :
    Throws library.Explains (checkedIntSize size label) :=
  throws_ite (fun _ => throws_invalidArgument hrejects) fun _ => throws_ok _

theorem throws_requireString {name : ByteString}
    (hrejects : library.Rejects (name ++ ascii " is null or empty")) (s : Option CString) :
    Throws library.Explains (requireString s name) := by
  cases s with
  | none => exact throws_invalidArgument hrejects
  | some s => exact throws_ite (fun _ => throws_invalidArgument hrejects) fun _ => throws_ok _

theorem throws_makeBytes {name : ByteString}
    (hrejects : library.Rejects (name ++ ascii " pointer is null but length is non-zero"))
    (p : Buffer) : Throws library.Explains (makeBytes p name) :=
  throws_bind (throws_rejectWhen hrejects _) fun _ _ => throws_ok _

def hexRejections : List ByteString :=
  [ascii "Invalid character in hex string",
    ascii "Hex string must contain an even number of digits", ascii "Invalid hex digit"]

theorem throws_cleanHex (hrejects : ∀ message ∈ hexRejections, library.Rejects message)
    (hex : ByteString) : Throws library.Explains (cleanHex hex) := by
  have hscan : ∀ (c : UInt8) (clean : Except ToolException ByteString),
      Throws library.Explains clean → Throws library.Explains (scanHexCharacter c clean) := by
    intro c clean hclean
    unfold scanHexCharacter
    split
    · cases clean with
      | ok digits => exact throws_ok _
      | error e => exact throws_error (hclean e rfl)
    · exact throws_ite (fun _ => hclean)
        fun _ => throws_invalidArgument (hrejects _ (by simp [hexRejections]))
  induction hex using cleanHex.induct with
  | case1 => exact throws_ok _
  | case2 c => exact hscan c (.ok []) (throws_ok _)
  | case3 c next hex hmarker ih =>
      rw [cleanHex, if_pos hmarker]
      exact ih
  | case4 c next hex hmarker ih =>
      rw [cleanHex, if_neg hmarker]
      exact hscan c _ ih

theorem throws_pairHex (hrejects : ∀ message ∈ hexRejections, library.Rejects message) :
    ∀ clean : ByteString, Throws library.Explains (pairHex clean)
  | [] => throws_ok _
  | [_] => throws_ok _
  | high :: low :: clean => by
      unfold pairHex
      apply throws_bind (throws_rejectWhen (hrejects _ (by simp [hexRejections])) _)
      intro _ _
      apply throws_bind (throws_pairHex hrejects clean)
      intro _ _
      exact throws_ok _

theorem throws_hexToBytes (hrejects : ∀ message ∈ hexRejections, library.Rejects message)
    (hex : ByteString) : Throws library.Explains (hexToBytes hex) := by
  apply throws_bind (throws_cleanHex hrejects hex)
  intro clean _
  apply throws_bind (throws_rejectWhen (hrejects _ (by simp [hexRejections])) _)
  intro _ _
  exact throws_pairHex hrejects clean

end Rules

/-! ## The AES library -/

/-- The contexts with a marker of the library. -/
def aesMarkedContexts : List ByteString :=
  [ascii "EVP_CIPHER_CTX_new failed", ascii "EVP_EncryptUpdate failed",
    ascii "EVP_DecryptUpdate failed", ascii "EVP_CTRL_AEAD_SET_IVLEN failed",
    ascii "EVP_CTRL_AEAD_GET_TAG failed", ascii "EVP_CTRL_AEAD_SET_TAG failed",
    ascii "EVP_EncryptInit_ex cipher setup failed",
    ascii "EVP_EncryptInit_ex key/nonce setup failed", ascii "EVP_EncryptFinal_ex failed",
    ascii "EVP_DecryptInit_ex cipher setup failed",
    ascii "EVP_DecryptInit_ex key/nonce setup failed", ascii "EVP_EncryptInit_ex failed",
    ascii "EVP_DecryptInit_ex failed", ascii "EVP_CIPHER_CTX_set_padding failed",
    ascii "EVP_DecryptFinal_ex failed"]

/-- The contexts without one. -/
def aesUnmarkedContexts : List ByteString :=
  [ascii "EVP AAD update failed", ascii "OCB tag length setup failed",
    ascii "CCM EncryptInit cipher setup failed", ascii "CCM tag length setup failed",
    ascii "CCM EncryptInit key/nonce setup failed",
    ascii "CCM plaintext length announcement failed", ascii "CCM EncryptUpdate plaintext failed",
    ascii "CCM EncryptFinal failed", ascii "CCM DecryptInit cipher setup failed",
    ascii "CCM DecryptInit key/nonce setup failed",
    ascii "CCM ciphertext length announcement failed"]

/-- The texts of rejected arguments that depend on nothing. -/
def aesRejections : List ByteString :=
  hexRejections ++
    [ascii "Cipher name must start with AES, e.g. AES-128-CBC",
      ascii "Cipher name must include AES key size 128, 192, or 256",
      ascii "Cipher name must include a mode", ascii "EVP reported invalid key length",
      ascii "EVP reported invalid IV length",
      ascii "AES-CCM" ++ ascii " nonce/IV must not be empty",
      ascii "OCB nonce length must be at most 15 bytes",
      ascii "AEAD tag length must be 1..16 bytes", ccmTagRule,
      ascii "Use aead_encrypt for GCM/CCM/OCB", ascii "Use aead_decrypt for GCM/CCM/OCB",
      ascii "Use encrypt for non-AEAD modes", ascii "Use decrypt for non-AEAD modes"] ++
    [ascii "cipher_name", ascii "hex"].map (· ++ ascii " is null or empty") ++
    [ascii "key", ascii "iv", ascii "nonce", ascii "aad", ascii "plaintext", ascii "ciphertext",
      ascii "tag", ascii "input"].map (· ++ ascii " pointer is null but length is non-zero") ++
    [ascii "plaintext", ascii "ciphertext", ascii "AAD", ascii "nonce", ascii "tag",
      ascii "tag length", ascii "plaintext length", ascii "ciphertext length"].map
        (· ++ ascii " is too large for one EVP call")

def wrongKeyLength (expected got : ℤ) : ByteString :=
  ascii "Wrong key length. Expected " ++ decimal expected ++ ascii " byte(s), got " ++
    decimal got ++ ascii " byte(s)"

def wrongIvLength (canonical : ByteString) (expected got : ℤ) : ByteString :=
  canonical ++ ascii " expects IV length " ++ decimal expected ++ ascii " byte(s), got " ++
    decimal got

inductive AesRejects : ByteString → Prop
  | fixed {message : ByteString} : message ∈ aesRejections → AesRejects message
  | keyLength (expected got : ℤ) : AesRejects (wrongKeyLength expected got)
  | ivUnused (cipher : EvpCipher) :
      AesRejects (cipher.name ++ ascii " does not use a caller-provided IV in this lab API")
  | ivLength (cipher : EvpCipher) (expected got : ℤ) :
      AesRejects (wrongIvLength cipher.name expected got)
  | emptyNonce (cipher : EvpCipher) :
      AesRejects (cipher.name ++ ascii " nonce/IV must not be empty")

def aesLibrary : Library where
  markers := aesMarkers
  unknownName := ascii "Unsupported algorithm-specific AES EVP cipher: "
  contexts := aesMarkedContexts ++ aesUnmarkedContexts
  Rejects := AesRejects

theorem aesRejects_fixed {message : ByteString} (hmessage : message ∈ aesRejections) :
    aesLibrary.Rejects message :=
  AesRejects.fixed hmessage

theorem aes_marked {context : ByteString} (hcontext : context ∈ aesMarkedContexts) :
    context ∈ aesLibrary.contexts :=
  List.mem_append_left _ hcontext

section AesRules

variable {Value : Type} {message context : ByteString}

theorem throws_marked (hcontext : context ∈ aesMarkedContexts)
    (outcome : Except ErrorStack Value) : Throws aesLibrary.Explains (check1 context outcome) :=
  throws_check1 (aes_marked hcontext) outcome

theorem throws_unmarked (hcontext : context ∈ aesUnmarkedContexts)
    (outcome : Except ErrorStack Value) : Throws aesLibrary.Explains (check1 context outcome) :=
  throws_check1 (List.mem_append_right _ hcontext) outcome

theorem throws_reject (hmessage : message ∈ aesRejections) (condition : Prop)
    [Decidable condition] : Throws aesLibrary.Explains (rejectWhen condition message) :=
  throws_rejectWhen (aesRejects_fixed hmessage) condition

theorem throws_size {label : ByteString}
    (hmessage : label ++ ascii " is too large for one EVP call" ∈ aesRejections) (size : ℕ) :
    Throws aesLibrary.Explains (checkedIntSize size label) :=
  throws_checkedIntSize (aesRejects_fixed hmessage) size

end AesRules

section Aes

variable (evp : EvpCipherApi)

theorem throws_normalizeCipherName (name : ByteString) :
    Throws aesLibrary.Explains (normalizeCipherName name) := by
  apply throws_ite
  · intro _
    unfold normalizeKeySize
    split
    · exact throws_invalidArgument (aesRejects_fixed (by simp [aesRejections]))
    · refine throws_ite (fun _ => ?_) fun _ => throws_ok _
      exact throws_invalidArgument (aesRejects_fixed (by simp [aesRejections]))
  · intro _
    exact throws_invalidArgument (aesRejects_fixed (by simp [aesRejections]))

theorem throws_resolveCipher (name : ByteString) :
    Throws aesLibrary.Explains (resolveCipher name) := by
  refine throws_bind (throws_normalizeCipherName name) fun n _ => ?_
  split
  · exact throws_ok _
  · exact throws_error ⟨.unknownName name, trivial, rfl⟩

theorem throws_makeCtx : Throws aesLibrary.Explains (makeCtx evp) :=
  throws_marked (by simp [aesMarkedContexts]) _

theorem throws_requireKeyLen (cipher : EvpCipher) (key : Bytes) :
    Throws aesLibrary.Explains (requireKeyLen evp cipher key) := by
  refine throws_bind (throws_reject (by simp [aesRejections]) _) fun _ _ => ?_
  exact throws_rejectWhen (AesRejects.keyLength (evp.keyLength cipher) key.length) _

theorem throws_requireIvLen (cipher : EvpCipher) (iv : Bytes) :
    Throws aesLibrary.Explains (requireIvLen evp cipher iv cipher.name) :=
  throws_ite (fun _ => throws_rejectWhen (AesRejects.ivUnused cipher) _)
    fun _ => throws_rejectWhen (AesRejects.ivLength cipher (evp.ivLength cipher) iv.length) _

/-- The labels of payloads. -/
def payloadLabels : List ByteString := [ascii "plaintext", ascii "ciphertext"]

theorem updateContext_mem (encrypting : Bool) :
    ascii "EVP_" ++ updateName encrypting ++ ascii " failed" ∈ aesLibrary.contexts := by
  cases encrypting with
  | true =>
      have htext : ascii "EVP_" ++ updateName true ++ ascii " failed" =
          ascii "EVP_EncryptUpdate failed" := rfl
      exact aes_marked (by simp [htext, aesMarkedContexts])
  | false =>
      have htext : ascii "EVP_" ++ updateName false ++ ascii " failed" =
          ascii "EVP_DecryptUpdate failed" := rfl
      exact aes_marked (by simp [htext, aesMarkedContexts])

theorem throws_evpUpdate (input : Bytes) {label : ByteString} (hlabel : label ∈ payloadLabels)
    (encrypting : Bool) (ctx : evp.Ctx) :
    Throws aesLibrary.Explains (evpUpdate evp input label encrypting ctx) := by
  have hrejects : aesLibrary.Rejects (label ++ ascii " is too large for one EVP call") := by
    simp only [payloadLabels, List.mem_cons, List.not_mem_nil, or_false] at hlabel
    rcases hlabel with rfl | rfl
    · exact aesRejects_fixed (by simp [aesRejections])
    · exact aesRejects_fixed (by simp [aesRejections])
  refine throws_ite (fun _ => throws_ok _) fun _ => ?_
  refine throws_bind (throws_checkedIntSize hrejects _) fun _ _ => ?_
  exact throws_check1 (updateContext_mem encrypting) _

theorem throws_evpUpdateAad (aad : Bytes) (encrypting : Bool) (ctx : evp.Ctx) :
    Throws aesLibrary.Explains (evpUpdateAad evp aad encrypting ctx) := by
  refine throws_ite (fun _ => throws_ok _) fun _ => ?_
  refine throws_bind (throws_size (by simp [aesRejections]) _) fun _ _ => ?_
  exact throws_unmarked (by simp [aesUnmarkedContexts]) _

theorem throws_setAeadIvLen (nonce : Bytes) {canonical : ByteString}
    (hempty : AesRejects (canonical ++ ascii " nonce/IV must not be empty")) (ctx : evp.Ctx) :
    Throws aesLibrary.Explains (setAeadIvLen evp nonce canonical ctx) := by
  refine throws_bind (throws_rejectWhen hempty _) fun _ _ => ?_
  refine throws_bind (throws_reject (by simp [aesRejections]) _) fun _ _ => ?_
  refine throws_bind (throws_size (by simp [aesRejections]) _) fun _ _ => ?_
  exact throws_marked (by simp [aesMarkedContexts]) _

theorem throws_getAeadTag (tagLen : ℕ) (ctx : evp.Ctx) :
    Throws aesLibrary.Explains (getAeadTag evp tagLen ctx) := by
  refine throws_bind (throws_reject (by simp [aesRejections]) _) fun _ _ => ?_
  refine throws_bind (throws_size (by simp [aesRejections]) _) fun _ _ => ?_
  exact throws_marked (by simp [aesMarkedContexts]) _

theorem throws_setAeadTag (tag : Bytes) (ctx : evp.Ctx) :
    Throws aesLibrary.Explains (setAeadTag evp tag ctx) := by
  refine throws_bind (throws_reject (by simp [aesRejections]) _) fun _ _ => ?_
  refine throws_bind (throws_size (by simp [aesRejections]) _) fun _ _ => ?_
  exact throws_marked (by simp [aesMarkedContexts]) _

theorem throws_setTagLength (tagLen : ℕ) {context : ByteString}
    (hcontext : context ∈ aesUnmarkedContexts) (ctx : evp.Ctx) :
    Throws aesLibrary.Explains (setTagLength evp tagLen context ctx) := by
  refine throws_bind (throws_size (by simp [aesRejections]) _) fun _ _ => ?_
  exact throws_unmarked hcontext _

theorem throws_setOcbTagLength (condition : Prop) [Decidable condition] (tagLen : ℕ)
    (ctx : evp.Ctx) :
    Throws aesLibrary.Explains (setOcbTagLength evp condition tagLen ctx) :=
  throws_ite (fun _ => throws_setTagLength evp tagLen (by simp [aesUnmarkedContexts]) ctx)
    fun _ => throws_ok _

theorem throws_encryptGcmOcb (cipher : EvpCipher) (key nonce aad plaintext : Bytes) (tagLen : ℕ) :
    Throws aesLibrary.Explains
      (encryptGcmOcb evp cipher cipher.name key nonce aad plaintext tagLen) := by
  refine throws_bind (throws_reject (by simp [aesRejections]) _) fun _ _ => ?_
  refine throws_bind (throws_makeCtx evp) fun _ _ => ?_
  refine throws_bind (throws_marked (by simp [aesMarkedContexts]) _) fun _ _ => ?_
  refine throws_bind (throws_setOcbTagLength evp _ tagLen _) fun _ _ => ?_
  refine throws_bind (throws_setAeadIvLen evp nonce (.emptyNonce cipher) _) fun _ _ => ?_
  refine throws_bind (throws_marked (by simp [aesMarkedContexts]) _) fun _ _ => ?_
  refine throws_bind (throws_evpUpdateAad evp aad true _) fun _ _ => ?_
  refine throws_bind (throws_evpUpdate evp plaintext (by simp [payloadLabels]) true _) fun _ _ => ?_
  refine throws_bind (throws_marked (by simp [aesMarkedContexts]) _) fun _ _ => ?_
  refine throws_bind (throws_getAeadTag evp tagLen _) fun _ _ => ?_
  exact throws_ok _

theorem throws_decryptGcmOcb (cipher : EvpCipher) (key nonce aad ciphertext tag : Bytes) :
    Throws aesLibrary.Explains
      (decryptGcmOcb evp cipher cipher.name key nonce aad ciphertext tag) := by
  refine throws_bind (throws_makeCtx evp) fun _ _ => ?_
  refine throws_bind (throws_marked (by simp [aesMarkedContexts]) _) fun _ _ => ?_
  refine throws_bind (throws_setOcbTagLength evp _ tag.length _) fun _ _ => ?_
  refine throws_bind (throws_setAeadIvLen evp nonce (.emptyNonce cipher) _) fun _ _ => ?_
  refine throws_bind (throws_marked (by simp [aesMarkedContexts]) _) fun _ _ => ?_
  refine throws_bind (throws_evpUpdateAad evp aad false _) fun _ _ => ?_
  refine throws_bind (throws_evpUpdate evp ciphertext (by simp [payloadLabels]) false _)
    fun _ _ => ?_
  refine throws_bind (throws_setAeadTag evp tag _) fun _ _ => ?_
  exact throws_ok _

theorem ccm_emptyNonce : AesRejects (ascii "AES-CCM" ++ ascii " nonce/IV must not be empty") :=
  aesRejects_fixed (by simp [aesRejections])

theorem throws_encryptCcmPayload (plaintext : Bytes) (ctx : evp.Ctx) :
    Throws aesLibrary.Explains (encryptCcmPayload evp plaintext ctx) := by
  refine throws_ite (fun _ => throws_ok _) fun _ => ?_
  refine throws_bind (throws_size (by simp [aesRejections]) _) fun _ _ => ?_
  exact throws_unmarked (by simp [aesUnmarkedContexts]) _

theorem throws_encryptCcm (cipher : EvpCipher) (key nonce aad plaintext : Bytes) (tagLen : ℕ) :
    Throws aesLibrary.Explains (encryptCcm evp cipher key nonce aad plaintext tagLen) := by
  refine throws_bind (throws_reject (by simp [aesRejections]) _) fun _ _ => ?_
  refine throws_bind (throws_makeCtx evp) fun _ _ => ?_
  refine throws_bind (throws_unmarked (by simp [aesUnmarkedContexts]) _) fun _ _ => ?_
  refine throws_bind (throws_setAeadIvLen evp nonce ccm_emptyNonce _) fun _ _ => ?_
  refine throws_bind (throws_setTagLength evp tagLen (by simp [aesUnmarkedContexts]) _)
    fun _ _ => ?_
  refine throws_bind (throws_unmarked (by simp [aesUnmarkedContexts]) _) fun _ _ => ?_
  refine throws_bind (throws_size (by simp [aesRejections]) _) fun _ _ => ?_
  refine throws_bind (throws_unmarked (by simp [aesUnmarkedContexts]) _) fun _ _ => ?_
  refine throws_bind (throws_evpUpdateAad evp aad true _) fun _ _ => ?_
  refine throws_bind (throws_encryptCcmPayload evp plaintext _) fun _ _ => ?_
  refine throws_bind (throws_unmarked (by simp [aesUnmarkedContexts]) _) fun _ _ => ?_
  refine throws_bind (throws_getAeadTag evp tagLen _) fun _ _ => ?_
  exact throws_ok _

theorem throws_decryptCcmPayload (ciphertext : Bytes) (ctx : evp.Ctx) :
    Throws aesLibrary.Explains (decryptCcmPayload evp ciphertext ctx) := by
  refine throws_ite (fun _ => throws_ok _) fun _ => ?_
  refine throws_bind (throws_size (by simp [aesRejections]) _) fun _ _ => ?_
  split
  · exact throws_ok _
  · exact throws_ok _

theorem throws_decryptCcm (cipher : EvpCipher) (key nonce aad ciphertext tag : Bytes) :
    Throws aesLibrary.Explains (decryptCcm evp cipher key nonce aad ciphertext tag) := by
  refine throws_bind (throws_reject (by simp [aesRejections]) _) fun _ _ => ?_
  refine throws_bind (throws_makeCtx evp) fun _ _ => ?_
  refine throws_bind (throws_unmarked (by simp [aesUnmarkedContexts]) _) fun _ _ => ?_
  refine throws_bind (throws_setAeadIvLen evp nonce ccm_emptyNonce _) fun _ _ => ?_
  refine throws_bind (throws_setAeadTag evp tag _) fun _ _ => ?_
  refine throws_bind (throws_unmarked (by simp [aesUnmarkedContexts]) _) fun _ _ => ?_
  refine throws_bind (throws_size (by simp [aesRejections]) _) fun _ _ => ?_
  refine throws_bind (throws_unmarked (by simp [aesUnmarkedContexts]) _) fun _ _ => ?_
  refine throws_bind (throws_evpUpdateAad evp aad false _) fun _ _ => ?_
  exact throws_decryptCcmPayload evp ciphertext _

theorem throws_encrypt (cipherName key iv plaintext : Bytes) (padding : Bool) :
    Throws aesLibrary.Explains (encrypt evp cipherName key iv plaintext padding) := by
  refine throws_bind (throws_normalizeCipherName cipherName) fun canonical hname => ?_
  refine throws_bind (throws_reject (by simp [aesRejections]) _) fun _ _ => ?_
  refine throws_bind (throws_resolveCipher canonical) fun cipher hcipher => ?_
  obtain rfl : cipher.name = canonical := name_of_resolveCipher hname hcipher
  refine throws_bind (throws_requireKeyLen evp cipher key) fun _ _ => ?_
  refine throws_bind (throws_requireIvLen evp cipher iv) fun _ _ => ?_
  refine throws_bind (throws_makeCtx evp) fun _ _ => ?_
  refine throws_bind (throws_marked (by simp [aesMarkedContexts]) _) fun _ _ => ?_
  refine throws_bind (throws_marked (by simp [aesMarkedContexts]) _) fun _ _ => ?_
  refine throws_bind (throws_evpUpdate evp plaintext (by simp [payloadLabels]) true _) fun _ _ => ?_
  refine throws_bind (throws_marked (by simp [aesMarkedContexts]) _) fun _ _ => ?_
  exact throws_ok _

theorem throws_decrypt (cipherName key iv ciphertext : Bytes) (padding : Bool) :
    Throws aesLibrary.Explains (decrypt evp cipherName key iv ciphertext padding) := by
  refine throws_bind (throws_normalizeCipherName cipherName) fun canonical hname => ?_
  refine throws_bind (throws_reject (by simp [aesRejections]) _) fun _ _ => ?_
  refine throws_bind (throws_resolveCipher canonical) fun cipher hcipher => ?_
  obtain rfl : cipher.name = canonical := name_of_resolveCipher hname hcipher
  refine throws_bind (throws_requireKeyLen evp cipher key) fun _ _ => ?_
  refine throws_bind (throws_requireIvLen evp cipher iv) fun _ _ => ?_
  refine throws_bind (throws_makeCtx evp) fun _ _ => ?_
  refine throws_bind (throws_marked (by simp [aesMarkedContexts]) _) fun _ _ => ?_
  refine throws_bind (throws_marked (by simp [aesMarkedContexts]) _) fun _ _ => ?_
  refine throws_bind (throws_evpUpdate evp ciphertext (by simp [payloadLabels]) false _)
    fun _ _ => ?_
  refine throws_bind (throws_marked (by simp [aesMarkedContexts]) _) fun _ _ => ?_
  exact throws_ok _

theorem throws_aeadEncrypt (cipherName key nonce aad plaintext : Bytes) (tagLen : ℕ) :
    Throws aesLibrary.Explains (aeadEncrypt evp cipherName key nonce aad plaintext tagLen) := by
  refine throws_bind (throws_normalizeCipherName cipherName) fun canonical hname => ?_
  refine throws_bind (throws_reject (by simp [aesRejections]) _) fun _ _ => ?_
  refine throws_bind (throws_resolveCipher canonical) fun cipher hcipher => ?_
  obtain rfl : cipher.name = canonical := name_of_resolveCipher hname hcipher
  refine throws_bind (throws_requireKeyLen evp cipher key) fun _ _ => ?_
  exact throws_ite (fun _ => throws_encryptCcm evp cipher key nonce aad plaintext tagLen)
    fun _ => throws_encryptGcmOcb evp cipher key nonce aad plaintext tagLen

theorem throws_aeadDecrypt (cipherName key nonce aad ciphertext tag : Bytes) :
    Throws aesLibrary.Explains (aeadDecrypt evp cipherName key nonce aad ciphertext tag) := by
  refine throws_bind (throws_normalizeCipherName cipherName) fun canonical hname => ?_
  refine throws_bind (throws_reject (by simp [aesRejections]) _) fun _ _ => ?_
  refine throws_bind (throws_resolveCipher canonical) fun cipher hcipher => ?_
  obtain rfl : cipher.name = canonical := name_of_resolveCipher hname hcipher
  refine throws_bind (throws_requireKeyLen evp cipher key) fun _ _ => ?_
  exact throws_ite (fun _ => throws_decryptCcm evp cipher key nonce aad ciphertext tag)
    fun _ => throws_decryptGcmOcb evp cipher key nonce aad ciphertext tag

theorem throws_expectedKeyLength (cipherName : ByteString) :
    Throws aesLibrary.Explains (expectedKeyLength evp cipherName) := by
  refine throws_bind (throws_resolveCipher cipherName) fun _ _ => ?_
  refine throws_bind (throws_reject (by simp [aesRejections]) _) fun _ _ => ?_
  exact throws_ok _

theorem throws_expectedIvLength (cipherName : ByteString) :
    Throws aesLibrary.Explains (expectedIvLength evp cipherName) := by
  refine throws_bind (throws_resolveCipher cipherName) fun _ _ => ?_
  refine throws_bind (throws_reject (by simp [aesRejections]) _) fun _ _ => ?_
  exact throws_ok _

theorem throws_blockSize (cipherName : ByteString) :
    Throws aesLibrary.Explains (blockSize evp cipherName) :=
  throws_bind (throws_resolveCipher cipherName) fun _ _ => throws_ok _

end Aes

/-! ## The hash library -/

def hashContexts : List ByteString :=
  [ascii "EVP_MD_CTX_new failed", ascii "EVP_DigestInit_ex failed",
    ascii "EVP_DigestUpdate failed", ascii "EVP_DigestFinal_ex failed",
    ascii "EVP_DigestFinalXOF failed", ascii "EVP_MD_CTX_copy_ex failed"]

/-- The texts of rejected arguments with a marker of OpenSSL. -/
def hashMarkedRejections : List ByteString :=
  [ascii "Digest context is null", ascii "Digest update data is null but length is non-zero",
    ascii "EVP_MD_get_size returned invalid digest size"]

def hashRejections : List ByteString :=
  hexRejections ++
    [ascii "Use final_xof() for SHAKE/XOF digests",
      ascii "final_xof() is only valid for SHAKE/XOF digests",
      ascii "XOF output length must be non-zero",
      ascii "xof_output_len must be zero for non-XOF digests"] ++
    [ascii "algorithm_name", ascii "hex"].map (· ++ ascii " is null or empty") ++
    [ascii "input"].map (· ++ ascii " pointer is null but length is non-zero")

def hashLibrary : Library where
  markers := hashMarkers
  unknownName := ascii "Unsupported algorithm-specific EVP digest: "
  contexts := hashContexts
  Rejects message := message ∈ hashMarkedRejections ++ hashRejections

section Hash

variable {evp : EvpDigestApi}

theorem hash_rejects {message : ByteString} (hmessage : message ∈ hashRejections) :
    hashLibrary.Rejects message :=
  List.mem_append_right _ hmessage

theorem hash_rejects_marked {message : ByteString} (hmessage : message ∈ hashMarkedRejections) :
    hashLibrary.Rejects message :=
  List.mem_append_left _ hmessage

theorem throws_resolveDigest (algorithmName : ByteString) :
    Throws hashLibrary.Explains (resolveDigest algorithmName) := by
  unfold resolveDigest
  split
  · exact throws_ok _
  · exact throws_error ⟨.unknownName algorithmName, trivial, rfl⟩

theorem throws_makeRawCtx : Throws hashLibrary.Explains (makeRawCtx evp) :=
  throws_check1 (by simp [hashLibrary, hashContexts]) _

theorem throws_newContext (algorithmName : ByteString) :
    Throws hashLibrary.Explains (newContext evp algorithmName) := by
  refine throws_bind (throws_resolveDigest algorithmName) fun _ _ => ?_
  refine throws_bind throws_makeRawCtx fun _ _ => ?_
  refine throws_bind (throws_check1 (by simp [hashLibrary, hashContexts]) _) fun _ _ => ?_
  exact throws_ok _

theorem throws_update (data : Buffer) (context : DirectDigestContext evp) :
    Throws hashLibrary.Explains (context.update data).1 := by
  unfold DirectDigestContext.update
  split
  · exact throws_invalidArgument (hash_rejects_marked (by simp [hashMarkedRejections]))
  · split
    · exact throws_ok _
    · exact throws_check1 (by simp [hashLibrary, hashContexts]) _

theorem throws_final (context : DirectDigestContext evp) :
    Throws hashLibrary.Explains context.final.1 := by
  unfold DirectDigestContext.final
  split
  · exact throws_invalidArgument (hash_rejects (by simp [hashRejections]))
  · split
    · exact throws_invalidArgument (hash_rejects_marked (by simp [hashMarkedRejections]))
    · exact throws_check1 (by simp [hashLibrary, hashContexts]) _

theorem throws_finalXof (outputLen : ℕ) (context : DirectDigestContext evp) :
    Throws hashLibrary.Explains (context.finalXof outputLen).1 := by
  unfold DirectDigestContext.finalXof
  split
  · exact throws_invalidArgument (hash_rejects (by simp [hashRejections]))
  · split
    · exact throws_invalidArgument (hash_rejects (by simp [hashRejections]))
    · exact throws_check1 (by simp [hashLibrary, hashContexts]) _

theorem throws_clone (context : DirectDigestContext evp) :
    Throws hashLibrary.Explains context.clone := by
  refine throws_bind throws_makeRawCtx fun _ _ => ?_
  refine throws_bind (throws_check1 (by simp [hashLibrary, hashContexts]) _) fun _ _ => ?_
  exact throws_ok _

theorem throws_digestInfo (algorithmName : ByteString) :
    Throws hashLibrary.Explains (digestInfo evp algorithmName) :=
  throws_bind (throws_resolveDigest algorithmName) fun _ _ => throws_ok _

theorem throws_digest (algorithmName : ByteString) (input : Bytes) (xofOutputLen : ℕ) :
    Throws hashLibrary.Explains (digest evp algorithmName input xofOutputLen) := by
  refine throws_bind (throws_newContext algorithmName) fun context _ => ?_
  refine throws_bind (throws_update (Buffer.ofBytes input) context) fun _ _ => ?_
  unfold finalise
  split
  · exact throws_finalXof xofOutputLen _
  · refine throws_bind (throws_rejectWhen (hash_rejects (by simp [hashRejections])) _)
      fun _ _ => ?_
    exact throws_final _

end Hash

end ShoppingWeb.Evp
