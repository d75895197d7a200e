import ShoppingWeb.Evp.CipherNames

/-!
# The AES tool

`EVPAESDirectTool` over the calls it makes to EVP.  A call returns the context
it leaves, or fails and leaves its errors in the queue; no function goes on
using a context after a failed call.  Output vectors are grown as EVP fills
them, so their sizes are those of what was written.
-/

namespace ShoppingWeb.Evp

open ShoppingWeb.ByteText
open ShoppingWeb.Shared

/-- The EVP functions that the tool calls.  A Boolean argument `encrypting`
stands for the Encrypt or the Decrypt function of a pair. -/
structure EvpCipherApi where
  Ctx : Type
  keyLength : EvpCipher → ℤ
  ivLength : EvpCipher → ℤ
  blockSize : EvpCipher → ℤ
  new : Except ErrorStack Ctx
  /-- `EVP_EncryptInit_ex` and `EVP_DecryptInit_ex`, with null pointers as `none`. -/
  init (encrypting : Bool) (cipher : Option EvpCipher) (key iv : Option Bytes) :
    Ctx → Except ErrorStack Ctx
  setPadding (padding : Bool) : Ctx → Except ErrorStack Ctx
  /-- `EVP_CTRL_AEAD_SET_IVLEN` -/
  setIvLength (length : ℕ) : Ctx → Except ErrorStack Ctx
  /-- `EVP_CTRL_AEAD_SET_TAG` with a length, and a tag or a null pointer. -/
  setTag (length : ℕ) (tag : Option Bytes) : Ctx → Except ErrorStack Ctx
  /-- `EVP_CTRL_AEAD_GET_TAG` -/
  getTag (length : ℕ) : Ctx → Except ErrorStack Bytes
  /-- An update without an output. -/
  updateAad (encrypting : Bool) (aad : Bytes) : Ctx → Except ErrorStack Ctx
  /-- An update without output and input. -/
  announceLength (encrypting : Bool) (length : ℕ) : Ctx → Except ErrorStack Ctx
  update (encrypting : Bool) (input : Bytes) : Ctx → Except ErrorStack (Bytes × Ctx)
  final (encrypting : Bool) : Ctx → Except ErrorStack (Bytes × Ctx)

structure AeadEncryptResult where
  ciphertext : Bytes
  tag : Bytes
  deriving DecidableEq, Repr

structure AeadDecryptResult where
  plaintext : Bytes
  tagValid : Bool
  deriving DecidableEq, Repr

section Tool

variable (evp : EvpCipherApi)

def makeCtx : Except ToolException evp.Ctx :=
  check1 (ascii "EVP_CIPHER_CTX_new failed") evp.new

/-- A number as `std::ostream` writes it. -/
def decimal (value : ℤ) : ByteString := ascii (toString value)

def requireKeyLen (cipher : EvpCipher) (key : Bytes) : Except ToolException Unit := do
  let expected := evp.keyLength cipher
  rejectWhen (expected ≤ 0) (ascii "EVP reported invalid key length")
  rejectWhen ((key.length : ℤ) ≠ expected)
    (ascii "Wrong key length. Expected " ++ decimal expected ++ ascii " byte(s), got " ++
      decimal key.length ++ ascii " byte(s)")

def requireIvLen (cipher : EvpCipher) (iv : Bytes) (canonical : ByteString) :
    Except ToolException Unit :=
  if isEcb canonical || isWrap canonical then
    rejectWhen (iv ≠ [])
      (canonical ++ ascii " does not use a caller-provided IV in this lab API")
  else
    let expected := evp.ivLength cipher
    rejectWhen (0 < expected ∧ (iv.length : ℤ) ≠ expected)
      (canonical ++ ascii " expects IV length " ++ decimal expected ++ ascii " byte(s), got " ++
        decimal iv.length)

def updateName (encrypting : Bool) : ByteString :=
  if encrypting then ascii "EncryptUpdate" else ascii "DecryptUpdate"

/-- What EVP writes; an empty input is not passed on. -/
def evpUpdate (input : Bytes) (label : ByteString) (encrypting : Bool) (ctx : evp.Ctx) :
    Except ToolException (Bytes × evp.Ctx) :=
  if input.isEmpty then .ok ([], ctx)
  else do
    let _ ← checkedIntSize input.length label
    check1 (ascii "EVP_" ++ updateName encrypting ++ ascii " failed")
      (evp.update encrypting input ctx)

def evpUpdateAad (aad : Bytes) (encrypting : Bool) (ctx : evp.Ctx) :
    Except ToolException evp.Ctx :=
  if aad.isEmpty then .ok ctx
  else do
    let _ ← checkedIntSize aad.length (ascii "AAD")
    check1 (ascii "EVP AAD update failed") (evp.updateAad encrypting aad ctx)

def setAeadIvLen (nonce : Bytes) (canonical : ByteString) (ctx : evp.Ctx) :
    Except ToolException evp.Ctx := do
  rejectWhen (nonce = []) (canonical ++ ascii " nonce/IV must not be empty")
  rejectWhen (isOcb canonical ∧ 15 < nonce.length)
    (ascii "OCB nonce length must be at most 15 bytes")
  let length ← checkedIntSize nonce.length (ascii "nonce")
  check1 (ascii "EVP_CTRL_AEAD_SET_IVLEN failed") (evp.setIvLength length ctx)

def getAeadTag (tagLen : ℕ) (ctx : evp.Ctx) : Except ToolException Bytes := do
  rejectWhen (tagLen = 0 ∨ 16 < tagLen) (ascii "AEAD tag length must be 1..16 bytes")
  let length ← checkedIntSize tagLen (ascii "tag")
  check1 (ascii "EVP_CTRL_AEAD_GET_TAG failed") (evp.getTag length ctx)

def setAeadTag (tag : Bytes) (ctx : evp.Ctx) : Except ToolException evp.Ctx := do
  rejectWhen (tag.length = 0 ∨ 16 < tag.length) (ascii "AEAD tag length must be 1..16 bytes")
  let length ← checkedIntSize tag.length (ascii "tag")
  check1 (ascii "EVP_CTRL_AEAD_SET_TAG failed") (evp.setTag length (some tag) ctx)

/-- Set the tag length without a tag. -/
def setTagLength (tagLen : ℕ) (context : ByteString) (ctx : evp.Ctx) :
    Except ToolException evp.Ctx := do
  let length ← checkedIntSize tagLen (ascii "tag length")
  check1 context (evp.setTag length none ctx)

/-- The tag length setup of OCB, under the condition of the function. -/
def setOcbTagLength (condition : Prop) [Decidable condition] (tagLen : ℕ) (ctx : evp.Ctx) :
    Except ToolException evp.Ctx :=
  if condition then setTagLength evp tagLen (ascii "OCB tag length setup failed") ctx
  else .ok ctx

def encryptGcmOcb (cipher : EvpCipher) (canonical : ByteString) (key nonce aad plaintext : Bytes)
    (tagLen : ℕ) : Except ToolException AeadEncryptResult := do
  rejectWhen (tagLen = 0 ∨ 16 < tagLen) (ascii "AEAD tag length must be 1..16 bytes")
  let ctx ← makeCtx evp
  let ctx ← check1 (ascii "EVP_EncryptInit_ex cipher setup failed")
    (evp.init true (some cipher) none none ctx)
  let ctx ← setOcbTagLength evp (isOcb canonical) tagLen ctx
  let ctx ← setAeadIvLen evp nonce canonical ctx
  let ctx ← check1 (ascii "EVP_EncryptInit_ex key/nonce setup failed")
    (evp.init true none (some key) (some nonce) ctx)
  let ctx ← evpUpdateAad evp aad true ctx
  let written ← evpUpdate evp plaintext (ascii "plaintext") true ctx
  let final ← check1 (ascii "EVP_EncryptFinal_ex failed") (evp.final true written.2)
  let tag ← getAeadTag evp tagLen final.2
  .ok ⟨written.1 ++ final.1, tag⟩

/-- A failing `EVP_DecryptFinal_ex` is a wrong tag. -/
def finishDecryption (written : Bytes) (ctx : evp.Ctx) : AeadDecryptResult :=
  match evp.final false ctx with
  | .error _ => ⟨[], false⟩
  | .ok final => ⟨written ++ final.1, true⟩

def decryptGcmOcb (cipher : EvpCipher) (canonical : ByteString)
    (key nonce aad ciphertext tag : Bytes) : Except ToolException AeadDecryptResult := do
  let ctx ← makeCtx evp
  let ctx ← check1 (ascii "EVP_DecryptInit_ex cipher setup failed")
    (evp.init false (some cipher) none none ctx)
  let ctx ← setOcbTagLength evp (isOcb canonical ∧ tag.length ≠ 16) tag.length ctx
  let ctx ← setAeadIvLen evp nonce canonical ctx
  let ctx ← check1 (ascii "EVP_DecryptInit_ex key/nonce setup failed")
    (evp.init false none (some key) (some nonce) ctx)
  let ctx ← evpUpdateAad evp aad false ctx
  let written ← evpUpdate evp ciphertext (ascii "ciphertext") false ctx
  let ctx ← setAeadTag evp tag written.2
  .ok (finishDecryption evp written.1 ctx)

def ccmTagRule : ByteString :=
  ascii "CCM tag length must be 4, 6, 8, 10, 12, 14, or 16 bytes"

def encryptCcmPayload (plaintext : Bytes) (ctx : evp.Ctx) :
    Except ToolException (Bytes × evp.Ctx) :=
  if plaintext.isEmpty then .ok ([], ctx)
  else do
    let _ ← checkedIntSize plaintext.length (ascii "plaintext")
    check1 (ascii "CCM EncryptUpdate plaintext failed") (evp.update true plaintext ctx)

def encryptCcm (cipher : EvpCipher) (key nonce aad plaintext : Bytes) (tagLen : ℕ) :
    Except ToolException AeadEncryptResult := do
  rejectWhen (tagLen < 4 ∨ 16 < tagLen ∨ tagLen % 2 ≠ 0) ccmTagRule
  let ctx ← makeCtx evp
  let ctx ← check1 (ascii "CCM EncryptInit cipher setup failed")
    (evp.init true (some cipher) none none ctx)
  let ctx ← setAeadIvLen evp nonce (ascii "AES-CCM") ctx
  let ctx ← setTagLength evp tagLen (ascii "CCM tag length setup failed") ctx
  let ctx ← check1 (ascii "CCM EncryptInit key/nonce setup failed")
    (evp.init true none (some key) (some nonce) ctx)
  let length ← checkedIntSize plaintext.length (ascii "plaintext length")
  let ctx ← check1 (ascii "CCM plaintext length announcement failed")
    (evp.announceLength true length ctx)
  let ctx ← evpUpdateAad evp aad true ctx
  let written ← encryptCcmPayload evp plaintext ctx
  let final ← check1 (ascii "CCM EncryptFinal failed") (evp.final true written.2)
  let tag ← getAeadTag evp tagLen final.2
  .ok ⟨written.1, tag⟩

/-- A failing `EVP_DecryptUpdate` is a wrong tag; an empty ciphertext is not
passed on. -/
def decryptCcmPayload (ciphertext : Bytes) (ctx : evp.Ctx) :
    Except ToolException AeadDecryptResult :=
  if ciphertext.isEmpty then .ok ⟨[], true⟩
  else do
    let _ ← checkedIntSize ciphertext.length (ascii "ciphertext")
    match evp.update false ciphertext ctx with
    | .error _ => .ok ⟨[], false⟩
    | .ok written => .ok ⟨written.1, true⟩

def decryptCcm (cipher : EvpCipher) (key nonce aad ciphertext tag : Bytes) :
    Except ToolException AeadDecryptResult := do
  rejectWhen (tag.length < 4 ∨ 16 < tag.length ∨ tag.length % 2 ≠ 0) ccmTagRule
  let ctx ← makeCtx evp
  let ctx ← check1 (ascii "CCM DecryptInit cipher setup failed")
    (evp.init false (some cipher) none none ctx)
  let ctx ← setAeadIvLen evp nonce (ascii "AES-CCM") ctx
  let ctx ← setAeadTag evp tag ctx
  let ctx ← check1 (ascii "CCM DecryptInit key/nonce setup failed")
    (evp.init false none (some key) (some nonce) ctx)
  let length ← checkedIntSize ciphertext.length (ascii "ciphertext length")
  let ctx ← check1 (ascii "CCM ciphertext length announcement failed")
    (evp.announceLength false length ctx)
  let ctx ← evpUpdateAad evp aad false ctx
  decryptCcmPayload evp ciphertext ctx

def expectedKeyLength (cipherName : ByteString) : Except ToolException ℕ := do
  let cipher ← resolveCipher cipherName
  rejectWhen (evp.keyLength cipher ≤ 0) (ascii "EVP reported invalid key length")
  .ok (evp.keyLength cipher).toNat

def expectedIvLength (cipherName : ByteString) : Except ToolException ℕ := do
  let cipher ← resolveCipher cipherName
  rejectWhen (evp.ivLength cipher < 0) (ascii "EVP reported invalid IV length")
  .ok (evp.ivLength cipher).toNat

def blockSize (cipherName : ByteString) : Except ToolException ℤ := do
  let cipher ← resolveCipher cipherName
  .ok (evp.blockSize cipher)

def encrypt (cipherName key iv plaintext : Bytes) (padding : Bool) :
    Except ToolException Bytes := do
  let canonical ← normalizeCipherName cipherName
  rejectWhen (isAead canonical) (ascii "Use aead_encrypt for GCM/CCM/OCB")
  let cipher ← resolveCipher canonical
  requireKeyLen evp cipher key
  requireIvLen evp cipher iv canonical
  let ctx ← makeCtx evp
  let ctx ← check1 (ascii "EVP_EncryptInit_ex failed")
    (evp.init true (some cipher) (some key) (if iv.isEmpty then none else some iv) ctx)
  let ctx ← check1 (ascii "EVP_CIPHER_CTX_set_padding failed") (evp.setPadding padding ctx)
  let written ← evpUpdate evp plaintext (ascii "plaintext") true ctx
  let final ← check1 (ascii "EVP_EncryptFinal_ex failed") (evp.final true written.2)
  .ok (written.1 ++ final.1)

def decrypt (cipherName key iv ciphertext : Bytes) (padding : Bool) :
    Except ToolException Bytes := do
  let canonical ← normalizeCipherName cipherName
  rejectWhen (isAead canonical) (ascii "Use aead_decrypt for GCM/CCM/OCB")
  let cipher ← resolveCipher canonical
  requireKeyLen evp cipher key
  requireIvLen evp cipher iv canonical
  let ctx ← makeCtx evp
  let ctx ← check1 (ascii "EVP_DecryptInit_ex failed")
    (evp.init false (some cipher) (some key) (if iv.isEmpty then none else some iv) ctx)
  let ctx ← check1 (ascii "EVP_CIPHER_CTX_set_padding failed") (evp.setPadding padding ctx)
  let written ← evpUpdate evp ciphertext (ascii "ciphertext") false ctx
  let final ← check1 (ascii "EVP_DecryptFinal_ex failed") (evp.final false written.2)
  .ok (written.1 ++ final.1)

def aeadEncrypt (cipherName key nonce aad plaintext : Bytes) (tagLen : ℕ) :
    Except ToolException AeadEncryptResult := do
  let canonical ← normalizeCipherName cipherName
  rejectWhen (!isAead canonical) (ascii "Use encrypt for non-AEAD modes")
  let cipher ← resolveCipher canonical
  requireKeyLen evp cipher key
  if isCcm canonical then encryptCcm evp cipher key nonce aad plaintext tagLen
  else encryptGcmOcb evp cipher canonical key nonce aad plaintext tagLen

def aeadDecrypt (cipherName key nonce aad ciphertext tag : Bytes) :
    Except ToolException AeadDecryptResult := do
  let canonical ← normalizeCipherName cipherName
  rejectWhen (!isAead canonical) (ascii "Use decrypt for non-AEAD modes")
  let cipher ← resolveCipher canonical
  requireKeyLen evp cipher key
  if isCcm canonical then decryptCcm evp cipher key nonce aad ciphertext tag
  else decryptGcmOcb evp cipher canonical key nonce aad ciphertext tag

end Tool

def cipherAvailable (cipherName : ByteString) : Bool :=
  match resolveCipher cipherName with
  | .ok _ => true
  | .error _ => false

end ShoppingWeb.Evp
