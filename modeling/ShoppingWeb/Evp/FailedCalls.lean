import ShoppingWeb.Evp.TwoPassSizing

/-!
# Failed calls

A call that does not return `ok` has written to no buffer of the caller.  Where
a tag is not valid, the length reported is 0 as well.
-/

namespace ShoppingWeb.Evp

open ShoppingWeb.ByteText
open ShoppingWeb.CallerMemory
open ShoppingWeb.Shared

/-- The buffer of the caller is as it was, unless the call is fine. -/
def KeepsBuffer (reply : Reply Output) (output : Output) : Prop :=
  reply.status ≠ .ok → reply.outputs.buffer = output.buffer

/-- The same for a call with two buffers: one that is too small saves both. -/
def KeepsBuffers (reply : Reply (Output × Output)) (first second : Output) : Prop :=
  reply.status ≠ .ok →
    reply.outputs.1.buffer = first.buffer ∧ reply.outputs.2.buffer = second.buffer

theorem keepsBuffer_copyToOutput (required : Bytes) (output : Output)
    (outputName : ByteString) :
    KeepsBuffer (copyToOutput required output outputName) output := by
  intro hfailed
  unfold copyToOutput at hfailed ⊢
  split
  · rename_i haccepts
    rw [if_pos haccepts] at hfailed
    exact absurd rfl hfailed
  · rfl

theorem keepsBuffer_copyBytesToOutput (src : Bytes) (output : Output)
    (outputName : ByteString) :
    KeepsBuffer (copyBytesToOutput src output outputName) output := by
  unfold copyBytesToOutput
  split
  · intro _
    rfl
  · exact keepsBuffer_copyToOutput src (output.report src.length) outputName

theorem keepsBuffer_copyStringToOutput (src : ByteString) (output : Output)
    (outputName : ByteString) :
    KeepsBuffer (copyStringToOutput src output outputName) output :=
  keepsBuffer_copyToOutput (src ++ [0]) (output.report src.length) outputName

/-- Both buffers are looked at before the first byte is written. -/
theorem keepsBuffers_copyAeadResult (result : AeadEncryptResult) (ciphertext tag : Output) :
    KeepsBuffers (copyAeadResult result ciphertext tag) ciphertext tag := by
  intro hfailed
  simp only [copyAeadResult] at hfailed ⊢
  split
  · exact ⟨rfl, rfl⟩
  · rename_i hfits
    rw [if_neg hfits] at hfailed
    exact absurd rfl hfailed

theorem keepsBuffer_copyVerifiedPlaintext (result : AeadDecryptResult) (plaintext : Output) :
    KeepsBuffer (copyVerifiedPlaintext result plaintext) plaintext := by
  unfold copyVerifiedPlaintext
  split
  · exact keepsBuffer_copyBytesToOutput _ _ _
  · intro _
    rfl

/-- An exception is caught before anything is copied. -/
theorem keepsBuffer_fillOutput {Result : Type} {markers : ErrorMarkers}
    (operation : Except ToolException Result) {copy : Result → Output → Reply Output}
    (output : Output) (hcopy : ∀ result, KeepsBuffer (copy result output) output) :
    KeepsBuffer (fillOutput markers operation copy output) output := by
  cases operation with
  | ok result => exact hcopy result
  | error e =>
      intro _
      rfl

theorem keepsBuffer_fillBytes (markers : ErrorMarkers) (operation : Except ToolException Bytes)
    (outputName : ByteString) (output : Output) :
    KeepsBuffer (fillBytes markers operation outputName output) output := by
  apply keepsBuffer_fillOutput
  intro src
  exact keepsBuffer_copyBytesToOutput src output outputName

theorem keepsBuffer_fillString (markers : ErrorMarkers)
    (operation : Except ToolException ByteString) (outputName : ByteString) (output : Output) :
    KeepsBuffer (fillString markers operation outputName output) output := by
  apply keepsBuffer_fillOutput
  intro src
  exact keepsBuffer_copyStringToOutput src output outputName

theorem keepsBuffer_finalisation {evp : EvpDigestApi} (finalisation : Finalisation)
    (ctx : Handle evp) (output : Output) :
    KeepsBuffer (finalisation.run ctx output).1 output := by
  rw [Finalisation.run_eq]
  exact keepsBuffer_fillBytes hashMarkers _ _ output

theorem keepsBuffers_aeadEncrypt (aes : EvpCipherApi) (cipherName : Option CString)
    (key nonce aad plaintext : Buffer) (tagLen : ℕ) (ciphertext tag : Output) :
    KeepsBuffers
      (evpaesdirectAeadEncrypt aes cipherName key nonce aad plaintext tagLen ciphertext tag)
      ciphertext tag := by
  unfold evpaesdirectAeadEncrypt
  split
  · exact keepsBuffers_copyAeadResult _ _ _
  · intro _
    exact ⟨rfl, rfl⟩

/-- What the caller of `aead_decrypt` is told of a tag that is not valid. -/
structure ReportsForgery (operation : Except ToolException AeadDecryptResult)
    (reply : Reply Output) (plaintext : Output) : Prop where
  auth_failed : ∀ unverified, operation = .ok ⟨unverified, false⟩ → reply.status = .authFailed
  length_zero : reply.status = .authFailed →
    reply.outputs.length = plaintext.length.map fun _ => 0

theorem copyBytesToOutput_ne_authFailed (src : Bytes) (output : Output)
    (outputName : ByteString) :
    (copyBytesToOutput src output outputName).status ≠ .authFailed := by
  unfold copyBytesToOutput copyToOutput
  split_ifs
  · exact Status.noConfusion
  · exact Status.noConfusion
  · exact Status.noConfusion

theorem reportsForgery_aeadDecrypt (operation : Except ToolException AeadDecryptResult)
    (plaintext : Output) :
    ReportsForgery operation (fillOutput aesMarkers operation copyVerifiedPlaintext plaintext)
      plaintext where
  auth_failed := by
    intro unverified hoperation
    rw [hoperation]
    rfl
  length_zero := by
    intro hstatus
    cases operation with
    | error e => exact absurd hstatus (mapException_ne rfl)
    | ok result =>
        simp only [fillOutput, copyVerifiedPlaintext] at hstatus ⊢
        split
        · rename_i hvalid
          rw [if_pos hvalid] at hstatus
          exact absurd hstatus (copyBytesToOutput_ne_authFailed _ _ _)
        · rfl

namespace StatelessCall

/-- Whatever the caller passes and EVP answers, a failure is no output. -/
def LeaksNothing (aes : EvpCipherApi) (hash : EvpDigestApi) : StatelessCall → Prop
  | .aesEncrypt cipherName key iv plaintext padding =>
      ∀ ciphertext, KeepsBuffer
        (evpaesdirectEncrypt aes cipherName key iv plaintext padding ciphertext) ciphertext
  | .aesDecrypt cipherName key iv ciphertext padding =>
      ∀ plaintext, KeepsBuffer
        (evpaesdirectDecrypt aes cipherName key iv ciphertext padding plaintext) plaintext
  | .aesAeadEncrypt cipherName key nonce aad plaintext tagLen =>
      ∀ ciphertext tag, KeepsBuffers
        (evpaesdirectAeadEncrypt aes cipherName key nonce aad plaintext tagLen ciphertext tag)
        ciphertext tag
  | .aesAeadDecrypt cipherName key nonce aad ciphertext tag =>
      ∀ plaintext,
        KeepsBuffer (evpaesdirectAeadDecrypt aes cipherName key nonce aad ciphertext tag plaintext)
          plaintext ∧
        ReportsForgery (aeadDecryptOperation aes cipherName key nonce aad ciphertext tag)
          (evpaesdirectAeadDecrypt aes cipherName key nonce aad ciphertext tag plaintext) plaintext
  | .aesHexToBytes hex => ∀ output, KeepsBuffer (evpaesdirectHexToBytes hex output) output
  | .aesBytesToHex input =>
      ∀ outputHex, KeepsBuffer (evpaesdirectBytesToHex input outputHex) outputHex
  | .hashDigest algorithmName input xofOutputLen =>
      ∀ output,
        KeepsBuffer (evphashdirectDigest hash algorithmName input xofOutputLen output) output
  | .hashHexToBytes hex => ∀ output, KeepsBuffer (evphashdirectHexToBytes hex output) output
  | .hashBytesToHex input =>
      ∀ outputHex, KeepsBuffer (evphashdirectBytesToHex input outputHex) outputHex

theorem leaksNothing (aes : EvpCipherApi) (hash : EvpDigestApi) (call : StatelessCall) :
    call.LeaksNothing aes hash := by
  cases call with
  | aesEncrypt cipherName key iv plaintext padding =>
      intro ciphertext
      exact keepsBuffer_fillBytes aesMarkers _ _ ciphertext
  | aesDecrypt cipherName key iv ciphertext padding =>
      intro plaintext
      exact keepsBuffer_fillBytes aesMarkers _ _ plaintext
  | aesAeadEncrypt cipherName key nonce aad plaintext tagLen =>
      intro ciphertext tag
      exact keepsBuffers_aeadEncrypt aes cipherName key nonce aad plaintext tagLen ciphertext tag
  | aesAeadDecrypt cipherName key nonce aad ciphertext tag =>
      intro plaintext
      constructor
      · apply keepsBuffer_fillOutput
        intro result
        exact keepsBuffer_copyVerifiedPlaintext result plaintext
      · exact reportsForgery_aeadDecrypt _ plaintext
  | aesHexToBytes hex =>
      intro output
      exact keepsBuffer_fillBytes aesMarkers _ _ output
  | aesBytesToHex input =>
      intro outputHex
      exact keepsBuffer_fillString aesMarkers _ _ outputHex
  | hashDigest algorithmName input xofOutputLen =>
      intro output
      exact keepsBuffer_fillBytes hashMarkers _ _ output
  | hashHexToBytes hex =>
      intro output
      exact keepsBuffer_fillBytes hashMarkers _ _ output
  | hashBytesToHex input =>
      intro outputHex
      exact keepsBuffer_fillString hashMarkers _ _ outputHex

end StatelessCall

/-- No call that fails changes a byte of a buffer of the caller. -/
theorem failed_call_leaks_nothing (aes : EvpCipherApi) (hash : EvpDigestApi) :
    (∀ call : StatelessCall, call.LeaksNothing aes hash) ∧
      ∀ (finalisation : Finalisation) (ctx : Handle hash) (output : Output),
        KeepsBuffer (finalisation.run ctx output).1 output := by
  constructor
  · intro call
    exact call.leaksNothing aes hash
  · intro finalisation ctx output
    exact keepsBuffer_finalisation finalisation ctx output

end ShoppingWeb.Evp
