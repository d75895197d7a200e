import ShoppingWeb.Evp.HexCodec
import ShoppingWeb.Lib.CallerMemory

/-!
# The C interface of the tools

What the two C interfaces share: how they read the caller's pointers, how they
copy a result into the caller's memory, and which status they make of an
exception.
-/

namespace ShoppingWeb.Evp

open ShoppingWeb.ByteText
open ShoppingWeb.CallerMemory
open ShoppingWeb.Shared

/-- `EVPAESDirectStatus`; all but `authFailed` are in `EVPHashDirectStatus` too. -/
inductive Status where
  | ok
  | invalidArgument
  | bufferTooSmall
  | authFailed
  | unavailable
  | openSsl
  | exception
  deriving DecidableEq, Repr

/-- What a call returns, the text of `last_error` after it, and what it leaves
behind the caller's pointers. -/
structure Reply (Outputs : Type) where
  status : Status
  lastError : ByteString
  outputs : Outputs

def requireString (s : Option CString) (name : ByteString) : Except ToolException ByteString :=
  match s with
  | none => .error (.invalidArgument (name ++ ascii " is null or empty"))
  | some s =>
      if s.bytes.isEmpty then .error (.invalidArgument (name ++ ascii " is null or empty"))
      else .ok s.bytes

def ptrInvalidWhenLenNonzero (p : Buffer) : Bool := p.memory.isNone && p.size != 0

def makeBytes (p : Buffer) (name : ByteString) : Except ToolException Bytes := do
  rejectWhen (ptrInvalidWhenLenNonzero p)
    (name ++ ascii " pointer is null but length is non-zero")
  .ok p.contents

/-- What both `hex_to_bytes` calls do before they write. -/
def hexToBytesOperation (hex : Option CString) : Except ToolException Bytes := do
  let hex ← requireString hex (ascii "hex")
  hexToBytes hex

/-- What both `bytes_to_hex` calls do before they write. -/
def bytesToHexOperation (input : Buffer) : Except ToolException ByteString := do
  let input ← makeBytes input (ascii "input")
  .ok (bytesToHex input true)

/-- The texts that `map_exception` of a library looks for. -/
structure ErrorMarkers where
  unavailable : List ByteString
  openSsl : List ByteString

def aesMarkers : ErrorMarkers where
  unavailable := [ascii "Unsupported", ascii "unsupported", ascii "not supported",
    ascii "unavailable"]
  openSsl := [ascii "OpenSSL", ascii "EVP_", ascii "CTRL"]

def hashMarkers : ErrorMarkers where
  unavailable := [ascii "Unsupported", ascii "unsupported", ascii "unavailable"]
  openSsl := [ascii "OpenSSL", ascii "EVP_", ascii "Digest"]

/-- `what()` -/
def ToolException.message : ToolException → ByteString
  | .invalidArgument message => message
  | .openSslError message => message

/-- The text is searched before the type is looked at. -/
def mapException (markers : ErrorMarkers) (e : ToolException) : Status :=
  if markers.unavailable.any (contains e.message) then .unavailable
  else if markers.openSsl.any (contains e.message) then .openSsl
  else
    match e with
    | .invalidArgument _ => .invalidArgument
    | .openSslError _ => .exception

/-- The statuses that an exception can get. -/
def Status.thrown : Status → Bool
  | .invalidArgument | .unavailable | .openSsl | .exception => true
  | .ok | .bufferTooSmall | .authFailed => false

theorem thrown_mapException (markers : ErrorMarkers) (e : ToolException) :
    (mapException markers e).thrown = true := by
  unfold mapException
  split_ifs
  · rfl
  · rfl
  · cases e with
    | invalidArgument message => rfl
    | openSslError message => rfl

theorem mapException_ne {markers : ErrorMarkers} {e : ToolException} {status : Status}
    (hstatus : status.thrown = false) : mapException markers e ≠ status := by
  rintro rfl
  exact Bool.noConfusion ((thrown_mapException markers e).symm.trans hstatus)

section Outputs

variable {Outputs : Type}

def succeed (outputs : Outputs) : Reply Outputs := ⟨.ok, [], outputs⟩

def setErrorReturn (code : Status) (message : ByteString) (outputs : Outputs) : Reply Outputs :=
  ⟨code, message, outputs⟩

/-- The `catch` of every call. -/
def failed (markers : ErrorMarkers) (e : ToolException) (outputs : Outputs) : Reply Outputs :=
  setErrorReturn (mapException markers e) e.message outputs

end Outputs

/-- A query whose answer is the value that the call returns. -/
def answerQuery (markers : ErrorMarkers) (operation : Except ToolException Bool) :
    Reply (Option Bool) :=
  match operation with
  | .ok answer => succeed (some answer)
  | .error e => failed markers e none

/-- A query with a place for its answer, which may be missing. -/
def storeQuery {Value : Type} (markers : ErrorMarkers) (outName : ByteString)
    (operation : Except ToolException Value) : Option Value → Reply (Option Value)
  | none => setErrorReturn .invalidArgument (outName ++ ascii " is null") none
  | some old =>
      match operation with
      | .ok value => succeed (some value)
      | .error e => failed markers e (some old)

/-- `!dst || dst_capacity < required`, and otherwise the copy. -/
def copyToOutput (required : Bytes) (output : Output) (outputName : ByteString) : Reply Output :=
  if output.buffer.accepts required.length then succeed (output.fill required)
  else setErrorReturn .bufferTooSmall (outputName ++ ascii " buffer is too small") output

def copyBytesToOutput (src : Bytes) (output : Output) (outputName : ByteString) : Reply Output :=
  if src.isEmpty then succeed (output.report src.length)
  else copyToOutput src (output.report src.length) outputName

/-- A string is copied with its terminator, and reported without. -/
def copyStringToOutput (src : ByteString) (output : Output) (outputName : ByteString) :
    Reply Output :=
  copyToOutput (src ++ [0]) (output.report src.length) outputName

/-- A call with a result and one place for it. -/
def fillOutput {Result : Type} (markers : ErrorMarkers) (operation : Except ToolException Result)
    (copy : Result → Output → Reply Output) (output : Output) : Reply Output :=
  match operation with
  | .ok result => copy result output
  | .error e => failed markers e output

def fillBytes (markers : ErrorMarkers) (operation : Except ToolException Bytes)
    (outputName : ByteString) (output : Output) : Reply Output :=
  fillOutput markers operation (fun src output => copyBytesToOutput src output outputName) output

def fillString (markers : ErrorMarkers) (operation : Except ToolException ByteString)
    (outputName : ByteString) (output : Output) : Reply Output :=
  fillOutput markers operation (fun src output => copyStringToOutput src output outputName) output

end ShoppingWeb.Evp
