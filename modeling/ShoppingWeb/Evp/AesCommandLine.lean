import ShoppingWeb.Evp.AesDirectTool
import ShoppingWeb.Evp.HexCodec

/-!
# The AES command line

`main` after its arguments are read.  It chooses between the two families of
calls, asks for an IV and picks the default padding by looking for words in the
name as it was typed; the tool decides on the canonical name.
-/

namespace ShoppingWeb.Evp

open ShoppingWeb.ByteText
open ShoppingWeb.Shared
open ShoppingWeb.Program

structure CLIOptions where
  help : Bool
  list : Bool
  available : Bool
  encrypt : Bool
  decrypt : Bool
  cipher : ByteString
  keyHex : ByteString
  ivHex : ByteString
  nonceHex : ByteString
  aadHex : ByteString
  aadText : ByteString
  tagLen : ℕ
  tagHex : ByteString
  tagInFile : ByteString
  tagOutFile : ByteString
  inputFile : ByteString
  outputFile : ByteString
  hexInput : ByteString
  textInput : ByteString
  emptyInput : Bool
  outHex : Bool
  padding : Bool
  paddingSet : Bool
  deriving DecidableEq

/-- What `main` catches. -/
inductive CliException where
  | tool (exception : ToolException)
  | runtimeError (message : ByteString)
  deriving DecidableEq, Repr

/-- The outcomes of `read_file` and `write_file` on every path. -/
structure FileSystem where
  read : ByteString → Except ByteString Bytes
  write : ByteString → Bytes → Except ByteString Unit

inductive Emission where
  | file (path : ByteString) (data : Bytes)
  | line (text : ByteString)
  deriving DecidableEq, Repr

/-- What a run that ends without an error has answered; the answer about a
cipher's availability is printed behind the name that was asked for. -/
inductive Answer where
  | usage
  | ciphers
  | availability (available : Bool)
  | written (emissions : List Emission)
  deriving DecidableEq, Repr

def toLower (c : UInt8) : UInt8 := if isUpper c then c + 0x20 else c

def lowerCopy (s : ByteString) : ByteString := s.map toLower

def isAeadName (cipher : ByteString) : Bool :=
  let c := lowerCopy cipher
  contains c (ascii "gcm") || contains c (ascii "ccm") || contains c (ascii "ocb")

def modeUsesIvClassical (cipher : ByteString) : Bool :=
  let c := lowerCopy cipher
  if contains c (ascii "ecb") then false
  else if contains c (ascii "wrap") then false
  else !isAeadName c

def defaultPaddingForCipher (cipher : ByteString) : Bool :=
  let c := lowerCopy cipher
  contains c (ascii "ecb") || contains c (ascii "cbc")

def liftTool {Value : Type} : Except ToolException Value → Except CliException Value :=
  Except.mapError .tool

def invalidArgument {Value : Type} (message : ByteString) : Except CliException Value :=
  .error (.tool (.invalidArgument message))

def readFile (files : FileSystem) (path : ByteString) : Except CliException Bytes :=
  (files.read path).mapError .runtimeError

def writeFile (files : FileSystem) (path : ByteString) (data : Bytes) :
    Except CliException (List Emission) :=
  ((files.write path data).mapError .runtimeError).map fun _ => [.file path data]

def readInput (files : FileSystem) (opt : CLIOptions) : Except CliException Bytes :=
  let count := [!opt.inputFile.isEmpty, !opt.hexInput.isEmpty, !opt.textInput.isEmpty,
    opt.emptyInput].count true
  if count ≠ 1 then
    invalidArgument (ascii ("Choose exactly one input source: " ++
      "--in, --hex-input, --text, or --empty-input"))
  else if !opt.inputFile.isEmpty then readFile files opt.inputFile
  else if !opt.hexInput.isEmpty then liftTool (hexToBytes opt.hexInput)
  else if !opt.textInput.isEmpty then .ok opt.textInput
  else .ok []

def writeOutput (files : FileSystem) (opt : CLIOptions) (data : Bytes) :
    Except CliException (List Emission) := do
  let file ← if !opt.outputFile.isEmpty then writeFile files opt.outputFile data else .ok []
  .ok (file ++
    if opt.outHex || opt.outputFile.isEmpty then [.line (bytesToHex data true)] else [])

def readAad (opt : CLIOptions) : Except CliException Bytes :=
  if !opt.aadHex.isEmpty && !opt.aadText.isEmpty then
    invalidArgument (ascii "Use only one AAD source")
  else if !opt.aadHex.isEmpty then liftTool (hexToBytes opt.aadHex)
  else if !opt.aadText.isEmpty then .ok opt.aadText
  else .ok []

def readTag (files : FileSystem) (opt : CLIOptions) : Except CliException Bytes :=
  let hasHex := !opt.tagHex.isEmpty
  let hasFile := !opt.tagInFile.isEmpty
  if hasHex = hasFile then
    invalidArgument
      (ascii "AEAD decryption requires exactly one tag source: --tag or --tag-in")
  else if hasHex then liftTool (hexToBytes opt.tagHex)
  else readFile files opt.tagInFile

section Main

variable (evp : EvpCipherApi) (files : FileSystem) (opt : CLIOptions)

def mainAead (key input : Bytes) : Except CliException (List Emission) := do
  let nonce ← liftTool (hexToBytes opt.nonceHex)
  let aad ← readAad opt
  if opt.encrypt then
    let enc ← liftTool (aeadEncrypt evp opt.cipher key nonce aad input opt.tagLen)
    let output ← writeOutput files opt enc.ciphertext
    let tag ←
      if !opt.tagOutFile.isEmpty then writeFile files opt.tagOutFile enc.tag
      else .ok [.line (ascii "tag: " ++ bytesToHex enc.tag true)]
    .ok (output ++ tag)
  else
    let tag ← readTag files opt
    let dec ← liftTool (aeadDecrypt evp opt.cipher key nonce aad input tag)
    if !dec.tagValid then .error (.runtimeError (ascii "AEAD authentication failed"))
    else writeOutput files opt dec.plaintext

def mainClassical (key input : Bytes) : Except CliException (List Emission) := do
  let iv ←
    if modeUsesIvClassical opt.cipher then
      if opt.ivHex.isEmpty then invalidArgument (ascii "This mode requires --iv")
      else liftTool (hexToBytes opt.ivHex)
    else .ok []
  let padding := if opt.paddingSet then opt.padding else defaultPaddingForCipher opt.cipher
  let out ← liftTool
    (if opt.encrypt then encrypt evp opt.cipher key iv input padding
    else decrypt evp opt.cipher key iv input padding)
  writeOutput files opt out

def mainOperation (key input : Bytes) : Except CliException (List Emission) :=
  if isAeadName opt.cipher then mainAead evp files opt key input
  else mainClassical evp files opt key input

def main : Except CliException Answer :=
  if opt.help then .ok .usage
  else if opt.list then .ok .ciphers
  else if opt.cipher.isEmpty then invalidArgument (ascii "Missing --cipher")
  else if opt.available then .ok (.availability (cipherAvailable opt.cipher))
  else if opt.encrypt = opt.decrypt then
    invalidArgument (ascii "Choose exactly one operation: enc or dec")
  else if opt.keyHex.isEmpty then invalidArgument (ascii "Missing --key")
  else do
    let key ← liftTool (hexToBytes opt.keyHex)
    let input ← readInput files opt
    let emissions ← mainOperation evp files opt key input
    .ok (.written emissions)

end Main

end ShoppingWeb.Evp
