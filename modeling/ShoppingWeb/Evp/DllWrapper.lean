import ShoppingWeb.Evp.HexParsers
import ShoppingWeb.Evp.TwoPassSizing

/-!
# The wrappers of the GUIs

Each GUI reaches its library through a class that asks for the length of a
result, allocates a buffer of that length and calls again.  A status that is not
allowed is raised as an exception with the library's last error.  What the class
returns is what the tool returns.
-/

namespace ShoppingWeb.Evp.Gui

open ShoppingWeb.ByteText
open ShoppingWeb.CallerMemory
open ShoppingWeb.Program
open ShoppingWeb.Shared
open ShoppingWeb.Utf16

/-- An exception, as `str` shows it. -/
abbrev Raised := String

/-- `encode("utf-8")` behind a `c_char_p`, which ends at the first zero. -/
def asCString (s : String) : CString where
  bytes := (utf8Encode s.toList).takeWhile fun byte => byte != 0
  unterminated := by
    intro hzero
    simpa using List.mem_takeWhile_imp hzero

/-- `as_u8_array` and `as_u8_ptr` with the length beside them. -/
def asU8 (data : Bytes) : Buffer := if data.isEmpty then Buffer.null 0 else Buffer.ofBytes data

/-- `(ctypes.c_uint8 * length)()`, or `None` for no bytes. -/
def allocate (length : ℕ) : Buffer :=
  if length = 0 then Buffer.null 0 else Buffer.ofBytes (List.replicate length 0)

/-- `decode("utf-8", errors="replace")` -/
def bytesToTextLossy (data : Bytes) : String := String.ofList (utf8Decode data)

@[simp]
theorem contents_asU8 (data : Bytes) : (asU8 data).contents = data := by
  cases data with
  | nil => rfl
  | cons byte data => simp [asU8, Buffer.contents, Buffer.ofBytes]

/-- The library takes what the wrapper passes for the bytes that it was given. -/
@[simp]
theorem makeBytes_asU8 (data : Bytes) (name : ByteString) :
    makeBytes (asU8 data) name = .ok data := by
  have hvalid : ptrInvalidWhenLenNonzero (asU8 data) = false := by
    cases data with
    | nil => rfl
    | cons byte data => rfl
  rw [makeBytes, hvalid, contents_asU8]
  rfl

theorem requireString_some {s : CString} (hs : s.bytes ≠ []) (name : ByteString) :
    requireString (some s) name = .ok s.bytes := by
  simp [requireString, hs]

theorem hasLength_allocate (length : ℕ) : (allocate length).HasLength length := by
  by_cases hzero : length = 0
  · subst hzero
    exact ⟨rfl, fun hpos => absurd rfl hpos, fun bytes hbytes => nomatch hbytes⟩
  · have hlength := Buffer.hasLength_ofBytes (List.replicate length 0)
    rw [List.length_replicate] at hlength
    rwa [allocate, if_neg hzero]

/-- A library as its wrapper knows it: the name in its messages and the numbers
of its statuses. -/
structure Binding where
  title : String
  markers : ErrorMarkers
  code : Status → ℤ

namespace Binding

variable (dll : Binding) {Outputs : Type}

/-- The text that `_check` raises, with `last_error` read up to a zero. -/
def raised (status : Status) (lastError : ByteString) : Raised :=
  let msg := bytesToTextLossy (lastError.takeWhile fun byte => byte != 0)
  if msg = "" then dll.title ++ " error status " ++ toString (dll.code status) else msg

/-- `_check` -/
def check (reply : Reply Outputs) (allowed : List Status) : Except Raised Unit :=
  if allowed.contains reply.status then .ok ()
  else .error (dll.raised reply.status reply.lastError)

/-- What becomes of an exception of the tool. -/
def raisedFrom (e : ToolException) : Raised := dll.raised (mapException dll.markers e) e.message

end Binding

/-- A test of the status of a reply, with the statuses that pass. -/
abbrev Judge (Outputs : Type) := Reply Outputs → List Status → Except Raised Unit

/-- `out_len.value` after a call. -/
def lengthValue (output : Output) : ℕ := output.length.getD 0

/-- `bytes(out_buf[: out_len.value])` -/
def received (output : Output) : Bytes := output.buffer.contents.take (lengthValue output)

/-- One call for the length and one for the bytes. -/
def sizedCall (judge : Judge Output) (call : Output → Reply Output) : Except Raised Bytes := do
  let probed := call (Output.probe 0)
  judge probed [.ok, .bufferTooSmall]
  let outLen := lengthValue probed.outputs
  if outLen = 0 then .ok []
  else do
    let filled := call ⟨allocate outLen, some outLen⟩
    judge filled [.ok]
    .ok (received filled.outputs)

/-- A judge that lets no failure pass. -/
structure Judge.Strict {Outputs : Type} (judge : Judge Outputs) : Prop where
  passes_ok : ∀ reply allowed, allowed.contains .ok = true → reply.status = .ok →
    judge reply allowed = .ok ()
  passes_probe : ∀ reply, reply.status = .bufferTooSmall →
    judge reply [.ok, .bufferTooSmall] = .ok ()

theorem Binding.strict_check (dll : Binding) {Outputs : Type} :
    Judge.Strict (fun reply : Reply Outputs => dll.check reply) where
  passes_ok reply allowed hallowed hstatus := by
    rw [check, hstatus, if_pos hallowed]
  passes_probe reply hstatus := by
    rw [check, hstatus]
    rfl

section Judged

variable {judge : Judge Output} {call : Output → Reply Output}

/-- A result reaches the caller. -/
theorem sizedCall_copy (hjudge : judge.Strict) (src : Bytes) (outputName : ByteString) :
    sizedCall judge (fun output => copyBytesToOutput src output outputName) = .ok src := by
  have hprobed : lengthValue (copyBytesToOutput src (Output.probe 0) outputName).outputs =
      src.length := by
    rw [lengthValue, copyBytesToOutput_length]
    rfl
  by_cases hempty : src = []
  · subst hempty
    have hpass := hjudge.passes_ok (copyBytesToOutput [] (Output.probe 0) outputName)
      [.ok, .bufferTooSmall] rfl rfl
    simp only [sizedCall, hpass, hprobed, List.length_nil, if_true]
    rfl
  · have hfull : src.isEmpty = false := by simpa using hempty
    have hshort : (copyBytesToOutput src (Output.probe 0) outputName).status =
        .bufferTooSmall := by
      rw [copyBytesToOutput, hfull]
      rfl
    have hsome : src.length ≠ 0 := by simpa using hempty
    obtain ⟨hok, hcontents⟩ := @copyBytesToOutput_delivers src
      ⟨allocate src.length, some src.length⟩ outputName (hasLength_allocate src.length)
    have hlength := copyBytesToOutput_length src
      (Output.mk (allocate src.length) (some src.length)) outputName
    have hreceived : received (copyBytesToOutput src
        (Output.mk (allocate src.length) (some src.length)) outputName).outputs = src := by
      rw [received, hcontents, lengthValue, hlength]
      exact List.take_length
    simp only [sizedCall, hjudge.passes_probe _ hshort, hprobed, hsome, if_false,
      hjudge.passes_ok _ [.ok] rfl hok, hreceived]
    rfl

/-- A reply that the judge refuses is raised. -/
theorem sizedCall_refused {e : Raised}
    (hrefused : judge (call (Output.probe 0)) [.ok, .bufferTooSmall] = .error e) :
    sizedCall judge call = .error e := by
  simp only [sizedCall, hrefused]
  rfl

end Judged

/-- A failure is never allowed. -/
theorem Binding.check_failed (dll : Binding) {Outputs : Type} (e : ToolException)
    (outputs : Outputs) {allowed : List Status}
    (hallowed : ∀ status ∈ allowed, status.thrown = false) :
    dll.check (failed dll.markers e outputs) allowed = .error (dll.raisedFrom e) := by
  apply if_neg
  rw [List.contains_iff_mem]
  intro hmem
  exact Bool.noConfusion ((thrown_mapException dll.markers e).symm.trans (hallowed _ hmem))

theorem thrown_allowed : ∀ status ∈ [Status.ok, .bufferTooSmall], status.thrown = false := by
  decide

/-- Through the wrapper, an operation with one result is what it is in the tool. -/
theorem sizedCall_fillBytes (dll : Binding) (operation : Except ToolException Bytes)
    (outputName : ByteString) :
    sizedCall (fun reply => dll.check reply) (fillBytes dll.markers operation outputName) =
      operation.mapError dll.raisedFrom := by
  cases operation with
  | ok src => exact sizedCall_copy dll.strict_check src outputName
  | error e => exact sizedCall_refused (dll.check_failed e _ thrown_allowed)

end ShoppingWeb.Evp.Gui
