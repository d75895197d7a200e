import ShoppingWeb.Evp.AesDirectTool
import ShoppingWeb.Evp.CApi

/-!
# The C interface of the AES tool

Every call reads its arguments, runs a function of the tool, and then writes to
the caller.
-/

namespace ShoppingWeb.Evp

open ShoppingWeb.ByteText
open ShoppingWeb.CallerMemory
open ShoppingWeb.Shared

variable (evp : EvpCipherApi)

def cipherAvailableOperation (cipherName : Option CString) : Except ToolException Bool := do
  let cipherName ← requireString cipherName (ascii "cipher_name")
  .ok (cipherAvailable cipherName)

def evpaesdirectCipherAvailable (cipherName : Option CString) : Reply (Option Bool) :=
  answerQuery aesMarkers (cipherAvailableOperation cipherName)

/-- A query about the cipher of a name. -/
def cipherQueryOperation {Value : Type} (query : ByteString → Except ToolException Value)
    (cipherName : Option CString) : Except ToolException Value := do
  let cipherName ← requireString cipherName (ascii "cipher_name")
  query cipherName

def evpaesdirectCipherExpectedKeyLen (cipherName : Option CString) (keyLenOut : Option ℕ) :
    Reply (Option ℕ) :=
  storeQuery aesMarkers (ascii "key_len_out")
    (cipherQueryOperation (expectedKeyLength evp) cipherName) keyLenOut

def evpaesdirectCipherExpectedIvLen (cipherName : Option CString) (ivLenOut : Option ℕ) :
    Reply (Option ℕ) :=
  storeQuery aesMarkers (ascii "iv_len_out")
    (cipherQueryOperation (expectedIvLength evp) cipherName) ivLenOut

def evpaesdirectCipherBlockSize (cipherName : Option CString) (blockSizeOut : Option ℤ) :
    Reply (Option ℤ) :=
  storeQuery aesMarkers (ascii "block_size_out")
    (cipherQueryOperation (blockSize evp) cipherName) blockSizeOut

def encryptOperation (cipherName : Option CString) (key iv plaintext : Buffer) (padding : ℤ) :
    Except ToolException Bytes := do
  let cipherName ← requireString cipherName (ascii "cipher_name")
  let key ← makeBytes key (ascii "key")
  let iv ← makeBytes iv (ascii "iv")
  let plaintext ← makeBytes plaintext (ascii "plaintext")
  encrypt evp cipherName key iv plaintext (padding != 0)

def evpaesdirectEncrypt (cipherName : Option CString) (key iv plaintext : Buffer) (padding : ℤ)
    (ciphertext : Output) : Reply Output :=
  fillBytes aesMarkers (encryptOperation evp cipherName key iv plaintext padding)
    (ascii "ciphertext") ciphertext

def decryptOperation (cipherName : Option CString) (key iv ciphertext : Buffer) (padding : ℤ) :
    Except ToolException Bytes := do
  let cipherName ← requireString cipherName (ascii "cipher_name")
  let key ← makeBytes key (ascii "key")
  let iv ← makeBytes iv (ascii "iv")
  let ciphertext ← makeBytes ciphertext (ascii "ciphertext")
  decrypt evp cipherName key iv ciphertext (padding != 0)

def evpaesdirectDecrypt (cipherName : Option CString) (key iv ciphertext : Buffer) (padding : ℤ)
    (plaintext : Output) : Reply Output :=
  fillBytes aesMarkers (decryptOperation evp cipherName key iv ciphertext padding)
    (ascii "plaintext") plaintext

def aeadEncryptOperation (cipherName : Option CString) (key nonce aad plaintext : Buffer)
    (tagLen : ℕ) : Except ToolException AeadEncryptResult := do
  let cipherName ← requireString cipherName (ascii "cipher_name")
  let key ← makeBytes key (ascii "key")
  let nonce ← makeBytes nonce (ascii "nonce")
  let aad ← makeBytes aad (ascii "aad")
  let plaintext ← makeBytes plaintext (ascii "plaintext")
  aeadEncrypt evp cipherName key nonce aad plaintext tagLen

/-- `!result.empty() && (!dst || dst_capacity < result.size())` -/
def tooSmall (result : Bytes) (output : Output) : Bool :=
  !result.isEmpty && !output.buffer.accepts result.length

/-- `if (!result.empty()) memcpy(..)` -/
def copyUnlessEmpty (result : Bytes) (output : Output) : Output :=
  if result.isEmpty then output else output.fill result

/-- Both buffers are looked at before one of them is written. -/
def copyAeadResult (result : AeadEncryptResult) (ciphertext tag : Output) :
    Reply (Output × Output) :=
  let ciphertext := ciphertext.report result.ciphertext.length
  let tag := tag.report result.tag.length
  if tooSmall result.ciphertext ciphertext || tooSmall result.tag tag then
    setErrorReturn .bufferTooSmall (ascii "ciphertext or tag buffer is too small")
      (ciphertext, tag)
  else
    succeed (copyUnlessEmpty result.ciphertext ciphertext, copyUnlessEmpty result.tag tag)

def evpaesdirectAeadEncrypt (cipherName : Option CString) (key nonce aad plaintext : Buffer)
    (tagLen : ℕ) (ciphertext tag : Output) : Reply (Output × Output) :=
  match aeadEncryptOperation evp cipherName key nonce aad plaintext tagLen with
  | .ok result => copyAeadResult result ciphertext tag
  | .error e => failed aesMarkers e (ciphertext, tag)

def aeadDecryptOperation (cipherName : Option CString) (key nonce aad ciphertext tag : Buffer) :
    Except ToolException AeadDecryptResult := do
  let cipherName ← requireString cipherName (ascii "cipher_name")
  let key ← makeBytes key (ascii "key")
  let nonce ← makeBytes nonce (ascii "nonce")
  let aad ← makeBytes aad (ascii "aad")
  let ciphertext ← makeBytes ciphertext (ascii "ciphertext")
  let tag ← makeBytes tag (ascii "tag")
  aeadDecrypt evp cipherName key nonce aad ciphertext tag

/-- A plaintext without a valid tag has the length 0. -/
def copyVerifiedPlaintext (result : AeadDecryptResult) (plaintext : Output) : Reply Output :=
  if result.tagValid then copyBytesToOutput result.plaintext plaintext (ascii "plaintext")
  else setErrorReturn .authFailed (ascii "AEAD authentication failed") (plaintext.report 0)

def evpaesdirectAeadDecrypt (cipherName : Option CString)
    (key nonce aad ciphertext tag : Buffer) (plaintext : Output) : Reply Output :=
  fillOutput aesMarkers (aeadDecryptOperation evp cipherName key nonce aad ciphertext tag)
    copyVerifiedPlaintext plaintext

def evpaesdirectHexToBytes (hex : Option CString) (output : Output) : Reply Output :=
  fillBytes aesMarkers (hexToBytesOperation hex) (ascii "hex output") output

def evpaesdirectBytesToHex (input : Buffer) (outputHex : Output) : Reply Output :=
  fillString aesMarkers (bytesToHexOperation input) (ascii "hex output") outputHex

end ShoppingWeb.Evp
