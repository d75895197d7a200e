import ShoppingWeb.Evp.AesCApi
import ShoppingWeb.Evp.DllWrapper

/-!
# The GUI of the AES tool

`EVPAESDirectDLL` calls the library, and the main window reads its fields, calls
the class and writes its fields.  A run is a list of what the user does; the
slot `_update_fields` runs whenever the operation or the cipher changes.
-/

namespace ShoppingWeb.Evp.AesGui

open ShoppingWeb.ByteText
open ShoppingWeb.CallerMemory
open ShoppingWeb.Evp.Gui
open ShoppingWeb.Program
open ShoppingWeb.Shared
open ShoppingWeb.Utf16

/-- `pattern in text` -/
def occurs (pattern : String) (text : List Char) : Bool := decide (pattern.toList <:+: text)

def lower (cipherName : String) : List Char := cipherName.toList.map Char.toLower

def isAeadName (cipherName : String) : Bool :=
  let c := lower cipherName
  occurs "-gcm" c || occurs "-ccm" c || occurs "-ocb" c

def isIvlessClassical (cipherName : String) : Bool :=
  let c := lower cipherName
  occurs "-ecb" c || occurs "-wrap" c

def classicalUsesIv (cipherName : String) : Bool :=
  !isAeadName cipherName && !isIvlessClassical cipherName

def defaultPaddingForCipher (cipherName : String) : Bool :=
  let c := lower cipherName
  occurs "-ecb" c || occurs "-cbc" c

/-- `EVPAESDirectStatus` -/
def aesCode : Status → ℤ
  | .ok => 0
  | .invalidArgument => -1
  | .bufferTooSmall => -2
  | .authFailed => -3
  | .unavailable => -4
  | .openSsl => -5
  | .exception => -100

def aesDll : Binding where
  title := "EVPAESDirect"
  markers := aesMarkers
  code := aesCode

def authenticationFailed : Raised := "AEAD authentication failed: tag/AAD/nonce/ciphertext mismatch"

namespace EVPAESDirectDLL

variable (evp : EvpCipherApi)

def cipherAvailable (cipherName : String) : Except Raised Bool := do
  let reply := evpaesdirectCipherAvailable (some (asCString cipherName))
  match reply.outputs with
  | some answer => .ok answer
  | none =>
      aesDll.check reply [.ok]
      .ok false

def expectedKeyLen (cipherName : String) : Except Raised ℕ := do
  let reply := evpaesdirectCipherExpectedKeyLen evp (some (asCString cipherName)) (some 0)
  aesDll.check reply [.ok]
  .ok (reply.outputs.getD 0)

def expectedIvLen (cipherName : String) : Except Raised ℕ := do
  let reply := evpaesdirectCipherExpectedIvLen evp (some (asCString cipherName)) (some 0)
  aesDll.check reply [.ok]
  .ok (reply.outputs.getD 0)

def encrypt (cipherName : String) (key iv plaintext : Bytes) (padding : Bool) :
    Except Raised Bytes :=
  sizedCall (fun reply => aesDll.check reply)
    (evpaesdirectEncrypt evp (some (asCString cipherName)) (asU8 key) (asU8 iv) (asU8 plaintext)
      (if padding then 1 else 0))

def decrypt (cipherName : String) (key iv ciphertext : Bytes) (padding : Bool) :
    Except Raised Bytes :=
  sizedCall (fun reply => aesDll.check reply)
    (evpaesdirectDecrypt evp (some (asCString cipherName)) (asU8 key) (asU8 iv) (asU8 ciphertext)
      (if padding then 1 else 0))

/-- Both buffers are allocated, and both may be `None`. -/
def aeadEncrypt (cipherName : String) (key nonce aad plaintext : Bytes) (tagLen : ℕ) :
    Except Raised (Bytes × Bytes) := do
  let call := evpaesdirectAeadEncrypt evp (some (asCString cipherName)) (asU8 key) (asU8 nonce)
    (asU8 aad) (asU8 plaintext) tagLen
  let probed := call (Output.probe 0) (Output.probe 0)
  aesDll.check probed [.ok, .bufferTooSmall]
  let ctLen := lengthValue probed.outputs.1
  let tagOutLen := lengthValue probed.outputs.2
  let filled := call ⟨allocate ctLen, some ctLen⟩ ⟨allocate tagOutLen, some tagOutLen⟩
  aesDll.check filled [.ok]
  .ok (received filled.outputs.1, received filled.outputs.2)

/-- A wrong tag has its own text. -/
def checkVerified (reply : Reply Output) (allowed : List Status) : Except Raised Unit :=
  if reply.status = .authFailed then .error authenticationFailed else aesDll.check reply allowed

def aeadDecrypt (cipherName : String) (key nonce aad ciphertext tag : Bytes) :
    Except Raised Bytes :=
  sizedCall checkVerified
    (evpaesdirectAeadDecrypt evp (some (asCString cipherName)) (asU8 key) (asU8 nonce) (asU8 aad)
      (asU8 ciphertext) (asU8 tag))

end EVPAESDirectDLL

inductive Operation where
  | encrypt
  | decrypt
  deriving DecidableEq, Repr

inductive PaddingChoice where
  | auto
  | padding
  | nopad
  deriving DecidableEq, Repr

inductive AadType where
  | hex
  | text
  deriving DecidableEq, Repr

inductive InputType where
  | text
  | hex
  | file
  deriving DecidableEq, Repr

inductive OutputType where
  | hex
  | text
  | file
  deriving DecidableEq, Repr

/-- `CLASSICAL_MODES` -/
def classicalModes : List String :=
  ["aes-128-ecb", "aes-192-ecb", "aes-256-ecb", "aes-128-cbc", "aes-192-cbc", "aes-256-cbc",
    "aes-128-ctr", "aes-192-ctr", "aes-256-ctr", "aes-128-ofb", "aes-192-ofb", "aes-256-ofb",
    "aes-128-cfb", "aes-192-cfb", "aes-256-cfb", "aes-128-cfb8", "aes-192-cfb8", "aes-256-cfb8",
    "aes-128-cfb1", "aes-192-cfb1", "aes-256-cfb1", "aes-128-wrap", "aes-192-wrap", "aes-256-wrap",
    "aes-128-wrap-pad", "aes-192-wrap-pad", "aes-256-wrap-pad", "aes-128-xts", "aes-256-xts"]

/-- `AEAD_MODES` -/
def aeadModes : List String :=
  ["aes-128-gcm", "aes-192-gcm", "aes-256-gcm", "aes-128-ccm", "aes-192-ccm", "aes-256-ccm",
    "aes-128-ocb", "aes-192-ocb", "aes-256-ocb"]

/-- An item of the combo box. -/
structure CipherItem where
  name : String
  listed : (classicalModes ++ aeadModes).contains name = true
  deriving DecidableEq

/-- The range of the spin box. -/
structure TagLength where
  value : ℕ
  inRange : 1 ≤ value ∧ value ≤ 16
  deriving DecidableEq

/-- The fields that `_update_fields` switches on and off. -/
structure Enabled where
  nonceHex : Bool
  aadType : Bool
  aad : Bool
  tagLen : Bool
  tagHex : Bool
  ivHex : Bool
  padding : Bool
  deriving DecidableEq, Repr

structure Window where
  operation : Operation
  cipher : CipherItem
  padding : PaddingChoice
  keyHex : String
  ivHex : String
  nonceHex : String
  tagLen : TagLength
  aadType : AadType
  aad : String
  tagHex : String
  inputType : InputType
  inputFile : String
  inputData : String
  outputType : OutputType
  outputFile : String
  outputData : String
  enabled : Enabled
  deriving DecidableEq

def updateFields (window : Window) : Window :=
  let cipher := window.cipher.name
  let aead := isAeadName cipher
  { window with
    enabled :=
      { nonceHex := aead
        aadType := aead
        aad := aead
        tagLen := aead && window.operation = .encrypt
        tagHex := aead
        ivHex := classicalUsesIv cipher
        padding := !aead }
    padding :=
      if aead then .nopad
      else if !defaultPaddingForCipher cipher then .nopad
      else .auto }

/-- The window as `__init__` leaves it. -/
def initialWindow : Window :=
  updateFields
    { operation := .encrypt
      cipher := ⟨"aes-128-ecb", by decide⟩
      padding := .auto
      keyHex := ""
      ivHex := ""
      nonceHex := ""
      tagLen := ⟨16, by decide⟩
      aadType := .hex
      aad := ""
      tagHex := ""
      inputType := .text
      inputFile := ""
      inputData := ""
      outputType := .hex
      outputFile := ""
      outputData := ""
      enabled := ⟨true, true, true, true, true, true, true⟩ }

/-! ## Files -/

/-- The files by their paths. -/
abbrev Files := String → Option Bytes

/-- The texts of the `OSError`s, and which of the paths can be written. -/
structure Os where
  unreadable : String → Raised
  unwritable : String → Option Raised

def Os.read (os : Os) (files : Files) (path : String) : Except Raised Bytes :=
  match files path with
  | some data => .ok data
  | none => .error (os.unreadable path)

def Os.write (os : Os) (files : Files) (path : String) (data : Bytes) : Except Raised Files :=
  match os.unwritable path with
  | none => .ok (Function.update files path (some data))
  | some message => .error message

def stripPath (path : String) : String := String.ofList (strip path.toList)

/-- `bytes.hex` -/
def hexPy (data : Bytes) : String :=
  String.ofList (data.flatMap fun byte =>
    [Nat.digitChar (byte.toNat / 16), Nat.digitChar (byte.toNat % 16)])

def utf8Py (text : String) : Bytes := utf8Encode text.toList

section Execution

variable (evp : EvpCipherApi) (os : Os)

def readInputBytes (files : Files) (window : Window) : Except Raised Bytes :=
  match window.inputType with
  | .file =>
      let path := stripPath window.inputFile
      if path = "" then .error "Input file path is empty" else os.read files path
  | .hex => hexToBytesPy window.inputData "input hex"
  | .text => .ok (utf8Py window.inputData)

def readAadBytes (window : Window) : Except Raised Bytes :=
  if !isAeadName window.cipher.name then .ok []
  else
    match window.aadType with
    | .hex => hexToBytesPy window.aad "AAD hex"
    | .text => .ok (utf8Py window.aad)

def writeOutputBytes (files : Files) (window : Window) (data : Bytes) :
    Except Raised (Files × Window) :=
  match window.outputType with
  | .file => do
      let path := stripPath window.outputFile
      if path = "" then .error "Output file path is empty"
      else do
        let files ← os.write files path data
        .ok (files, { window with
          outputData := "Wrote " ++ toString data.length ++ " byte(s) to:\n" ++ path })
  | .text => .ok (files, { window with outputData := bytesToTextLossy data })
  | .hex => .ok (files, { window with outputData := hexPy data })

def selectedPaddingBool (window : Window) : Bool :=
  match window.padding with
  | .padding => true
  | .nopad => false
  | .auto => defaultPaddingForCipher window.cipher.name

def executeAead (files : Files) (window : Window) (key data : Bytes) :
    Except Raised (Files × Window) := do
  let cipher := window.cipher.name
  let nonce ← hexToBytesPy window.nonceHex "nonce hex"
  let aad ← readAadBytes window
  match window.operation with
  | .encrypt =>
      let result ← EVPAESDirectDLL.aeadEncrypt evp cipher key nonce aad data window.tagLen.value
      let written ← writeOutputBytes os files window result.1
      .ok (written.1, { written.2 with tagHex := hexPy result.2 })
  | .decrypt =>
      let tag ← hexToBytesPy window.tagHex "tag hex"
      let plaintext ← EVPAESDirectDLL.aeadDecrypt evp cipher key nonce aad data tag
      writeOutputBytes os files window plaintext

def executeClassical (files : Files) (window : Window) (key data : Bytes) :
    Except Raised (Files × Window) := do
  let cipher := window.cipher.name
  let iv ← if classicalUsesIv cipher then hexToBytesPy window.ivHex "IV/tweak hex" else .ok []
  let padding := selectedPaddingBool window
  let out ←
    match window.operation with
    | .encrypt => EVPAESDirectDLL.encrypt evp cipher key iv data padding
    | .decrypt => EVPAESDirectDLL.decrypt evp cipher key iv data padding
  writeOutputBytes os files window out

/-- `_execute`, up to what the error box shows. -/
def execute (files : Files) (window : Window) : Except Raised (Files × Window) := do
  let key ← hexToBytesPy window.keyHex "key hex"
  let data ← readInputBytes os files window
  if isAeadName window.cipher.name then executeAead evp os files window key data
  else executeClassical evp os files window key data

/-- `_generate_random_key` with what `os.urandom` returns for the key and for the IV. -/
def generateRandomKey (randomKey randomIv : (count : ℕ) → {bytes : Bytes // bytes.length = count})
    (window : Window) : Except Raised Window := do
  let cipher := window.cipher.name
  let keyLen ← EVPAESDirectDLL.expectedKeyLen evp cipher
  let ivLen ← EVPAESDirectDLL.expectedIvLen evp cipher
  let window := { window with keyHex := hexPy (randomKey keyLen).val }
  if 0 < ivLen then
    if isAeadName cipher then .ok { window with nonceHex := hexPy (randomIv ivLen).val }
    else .ok { window with ivHex := hexPy (randomIv ivLen).val }
  else .ok window

end Execution

/-- A new text in the combo box calls the slot. -/
def chooseOperation (operation : Operation) (window : Window) : Window :=
  if operation = window.operation then window else updateFields { window with operation }

def chooseCipher (cipher : CipherItem) (window : Window) : Window :=
  if cipher = window.cipher then window else updateFields { window with cipher }

def loadGcmVector (window : Window) : Window :=
  let window := chooseCipher ⟨"aes-128-gcm", by decide⟩ (chooseOperation .encrypt window)
  updateFields
    { window with
      keyHex := "00000000000000000000000000000000"
      nonceHex := "000000000000000000000000"
      aadType := .hex
      aad := ""
      inputType := .hex
      inputData := "00000000000000000000000000000000"
      outputType := .hex
      tagLen := ⟨16, by decide⟩
      tagHex := ""
      outputData := "" }

inductive Action where
  | operation (choice : Operation)
  | cipher (choice : CipherItem)
  | padding (choice : PaddingChoice)
  | keyHex (text : String)
  | ivHex (text : String)
  | nonceHex (text : String)
  | tagLen (length : TagLength)
  | aadType (choice : AadType)
  | aad (text : String)
  | tagHex (text : String)
  | inputType (choice : InputType)
  | inputFile (path : String)
  | inputData (text : String)
  | outputType (choice : OutputType)
  | outputFile (path : String)
  | outputData (text : String)
  | clearOutput
  | loadGcmVector
  | generateRandomKey (randomKey randomIv : (count : ℕ) → {bytes : Bytes // bytes.length = count})
  | execute

/-- The files and the window. -/
abbrev Desktop := Files × Window

/-- An edit of a field that may be switched off. -/
def Desktop.edit (desktop : Desktop) (enabled : Bool) (edited : Window) : Desktop :=
  if enabled then (desktop.1, edited) else desktop

/-- What the user does; an error box changes nothing. -/
def step (evp : EvpCipherApi) (os : Os) (desktop : Desktop) : Action → Desktop
  | .operation choice => (desktop.1, chooseOperation choice desktop.2)
  | .cipher choice => (desktop.1, chooseCipher choice desktop.2)
  | .padding choice =>
      Desktop.edit desktop desktop.2.enabled.padding { desktop.2 with padding := choice }
  | .keyHex keyHex => (desktop.1, { desktop.2 with keyHex })
  | .ivHex ivHex => Desktop.edit desktop desktop.2.enabled.ivHex { desktop.2 with ivHex }
  | .nonceHex nonceHex =>
      Desktop.edit desktop desktop.2.enabled.nonceHex { desktop.2 with nonceHex }
  | .tagLen tagLen => Desktop.edit desktop desktop.2.enabled.tagLen { desktop.2 with tagLen }
  | .aadType aadType => Desktop.edit desktop desktop.2.enabled.aadType { desktop.2 with aadType }
  | .aad aad => Desktop.edit desktop desktop.2.enabled.aad { desktop.2 with aad }
  | .tagHex tagHex => Desktop.edit desktop desktop.2.enabled.tagHex { desktop.2 with tagHex }
  | .inputType inputType => (desktop.1, { desktop.2 with inputType })
  | .inputFile inputFile => (desktop.1, { desktop.2 with inputFile })
  | .inputData inputData => (desktop.1, { desktop.2 with inputData })
  | .outputType outputType => (desktop.1, { desktop.2 with outputType })
  | .outputFile outputFile => (desktop.1, { desktop.2 with outputFile })
  | .outputData outputData => (desktop.1, { desktop.2 with outputData })
  | .clearOutput => (desktop.1, { desktop.2 with outputData := "" })
  | .loadGcmVector => (desktop.1, loadGcmVector desktop.2)
  | .generateRandomKey randomKey randomIv =>
      match generateRandomKey evp randomKey randomIv desktop.2 with
      | .ok window => (desktop.1, window)
      | .error _ => desktop
  | .execute =>
      match execute evp os desktop.1 desktop.2 with
      | .ok after => after
      | .error _ => desktop

def run (evp : EvpCipherApi) (os : Os) (desktop : Desktop) (actions : List Action) : Desktop :=
  actions.foldl (step evp os) desktop

end ShoppingWeb.Evp.AesGui
