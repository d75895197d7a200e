import ShoppingWeb.Evp.CApi
import ShoppingWeb.Evp.HashDirectTool

/-!
# The C interface of the hash tool

The stateless calls, and the calls on a context behind a handle.  A call on a
handle returns what is behind it afterwards.
-/

namespace ShoppingWeb.Evp

open ShoppingWeb.ByteText
open ShoppingWeb.CallerMemory
open ShoppingWeb.Shared

variable {evp : EvpDigestApi}

def digestAvailableOperation (algorithmName : Option CString) : Except ToolException Bool := do
  let algorithmName ← requireString algorithmName (ascii "algorithm_name")
  .ok (digestAvailable algorithmName)

def evphashdirectDigestAvailable (algorithmName : Option CString) : Reply (Option Bool) :=
  answerQuery hashMarkers (digestAvailableOperation algorithmName)

/-- The three places of `digest_info`, each of which may be missing. -/
structure DigestInfoOut where
  outputSize : Option ℤ
  blockSize : Option ℤ
  isXof : Option ℤ
  deriving DecidableEq, Repr

def DigestInfoOut.store (out : DigestInfoOut) (info : DigestInfo) : DigestInfoOut where
  outputSize := out.outputSize.map fun _ => info.outputSize
  blockSize := out.blockSize.map fun _ => info.blockSize
  isXof := out.isXof.map fun _ => if info.isXof then 1 else 0

def digestInfoOperation (evp : EvpDigestApi) (algorithmName : Option CString) :
    Except ToolException DigestInfo := do
  let algorithmName ← requireString algorithmName (ascii "algorithm_name")
  digestInfo evp algorithmName

def evphashdirectDigestInfo (evp : EvpDigestApi) (algorithmName : Option CString)
    (out : DigestInfoOut) : Reply DigestInfoOut :=
  match digestInfoOperation evp algorithmName with
  | .ok info => succeed (out.store info)
  | .error e => failed hashMarkers e out

def digestOperation (evp : EvpDigestApi) (algorithmName : Option CString) (input : Buffer)
    (xofOutputLen : ℕ) : Except ToolException Bytes := do
  let algorithmName ← requireString algorithmName (ascii "algorithm_name")
  let input ← makeBytes input (ascii "input")
  digest evp algorithmName input xofOutputLen

def evphashdirectDigest (evp : EvpDigestApi) (algorithmName : Option CString) (input : Buffer)
    (xofOutputLen : ℕ) (output : Output) : Reply Output :=
  fillBytes hashMarkers (digestOperation evp algorithmName input xofOutputLen)
    (ascii "digest output") output

def evphashdirectHexToBytes (hex : Option CString) (output : Output) : Reply Output :=
  fillBytes hashMarkers (hexToBytesOperation hex) (ascii "hex output") output

def evphashdirectBytesToHex (input : Buffer) (outputHex : Output) : Reply Output :=
  fillString hashMarkers (bytesToHexOperation input) (ascii "hex output") outputHex

/-- An `EVPHASHDIRECT_CTX*`; one that is not null has a context. -/
abbrev Handle (evp : EvpDigestApi) := Option (DirectDigestContext evp)

def nullContext : ToolException := .invalidArgument (ascii "Digest context is null")

/-- A call that stores a new handle; the place for it may be missing. -/
def storeHandle (outName : ByteString) (made : Except ToolException (DirectDigestContext evp)) :
    Option (Handle evp) → Reply (Option (Handle evp))
  | none => setErrorReturn .invalidArgument (outName ++ ascii " is null") none
  | some _ =>
      match made with
      | .ok context => succeed (some (some context))
      | .error e => failed hashMarkers e (some none)

def evphashdirectCtxNew (algorithmName : Option CString) (ctxOut : Option (Handle evp)) :
    Reply (Option (Handle evp)) :=
  storeHandle (ascii "ctx_out")
    (do
      let algorithmName ← requireString algorithmName (ascii "algorithm_name")
      newContext evp algorithmName)
    ctxOut

def evphashdirectCtxCopy (src : Handle evp) (dstOut : Option (Handle evp)) :
    Reply (Option (Handle evp)) :=
  storeHandle (ascii "dst_out")
    (match src with
    | none => .error nullContext
    | some context => context.clone)
    dstOut

/-- A method of the context behind a handle. -/
def runMethod {Value : Type} (method : Method evp Value) :
    Handle evp → Except ToolException Value × Handle evp
  | none => (.error nullContext, none)
  | some context =>
      let after := method context
      (after.1, some after.2)

def evphashdirectCtxUpdate (ctx : Handle evp) (input : Buffer) : Reply (Handle evp) :=
  let after := runMethod (DirectDigestContext.update input) ctx
  match after.1 with
  | .ok _ => succeed after.2
  | .error e => failed hashMarkers e after.2

/-- What a finalisation leaves: the reply to the caller and the context. -/
def finaliseInto (method : Method evp Bytes) (outputName : ByteString) (ctx : Handle evp)
    (output : Output) : Reply Output × Handle evp :=
  let after := runMethod method ctx
  (fillBytes hashMarkers after.1 outputName output, after.2)

def evphashdirectCtxFinal (ctx : Handle evp) (output : Output) : Reply Output × Handle evp :=
  finaliseInto DirectDigestContext.final (ascii "digest output") ctx output

def evphashdirectCtxFinalXof (ctx : Handle evp) (xofOutputLen : ℕ) (output : Output) :
    Reply Output × Handle evp :=
  finaliseInto (DirectDigestContext.finalXof xofOutputLen) (ascii "XOF output") ctx output

end ShoppingWeb.Evp
