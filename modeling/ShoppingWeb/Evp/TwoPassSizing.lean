import ShoppingWeb.Evp.AeadRoundTrip
import ShoppingWeb.Evp.AesCApi
import ShoppingWeb.Evp.FinalRetry

/-!
# Two passes

A caller asks for the length first, with a null pointer, and calls again with a
buffer of that length.  The second call delivers the result, except where the
length reported leaves out the terminator that the capacity has to cover.
-/

namespace ShoppingWeb.Evp

open ShoppingWeb.ByteText
open ShoppingWeb.CallerMemory
open ShoppingWeb.Shared
open ShoppingWeb.Program

/-- After a call that asks for the length, a call with a buffer of that length
delivers the result. -/
def TwoPass (call : Output → Reply Output) (result : Bytes) : Prop :=
  ∀ old, ∃ length, (call (Output.probe old)).outputs.length = some length ∧
    ∀ output : Output, output.buffer.HasLength length →
      (call output).status = .ok ∧ (call output).outputs.buffer.contents = result

/-- The protocol of a call with two results. -/
def TwoPassPair (call : Output → Output → Reply (Output × Output)) (result extra : Bytes) : Prop :=
  ∀ old oldExtra, ∃ length extraLength,
    (call (Output.probe old) (Output.probe oldExtra)).outputs.1.length = some length ∧
    (call (Output.probe old) (Output.probe oldExtra)).outputs.2.length = some extraLength ∧
    ∀ output extraOutput : Output, output.buffer.HasLength length →
      extraOutput.buffer.HasLength extraLength →
        (call output extraOutput).status = .ok ∧
        (call output extraOutput).outputs.1.buffer.contents = result ∧
        (call output extraOutput).outputs.2.buffer.contents = extra

/-- The calls that fill buffers of the caller and keep no state, with their
other arguments. -/
inductive StatelessCall where
  | aesEncrypt (cipherName : Option CString) (key iv plaintext : Buffer) (padding : ℤ)
  | aesDecrypt (cipherName : Option CString) (key iv ciphertext : Buffer) (padding : ℤ)
  | aesAeadEncrypt (cipherName : Option CString) (key nonce aad plaintext : Buffer) (tagLen : ℕ)
  | aesAeadDecrypt (cipherName : Option CString) (key nonce aad ciphertext tag : Buffer)
  | aesHexToBytes (hex : Option CString)
  | aesBytesToHex (input : Buffer)
  | hashDigest (algorithmName : Option CString) (input : Buffer) (xofOutputLen : ℕ)
  | hashHexToBytes (hex : Option CString)
  | hashBytesToHex (input : Buffer)

namespace StatelessCall

/-- Where the operation under a call has a result, two passes deliver it. -/
def TwoPassWorks (aes : EvpCipherApi) (hash : EvpDigestApi) : StatelessCall → Prop
  | .aesEncrypt cipherName key iv plaintext padding =>
      ∀ result, encryptOperation aes cipherName key iv plaintext padding = .ok result →
        TwoPass (evpaesdirectEncrypt aes cipherName key iv plaintext padding) result
  | .aesDecrypt cipherName key iv ciphertext padding =>
      ∀ result, decryptOperation aes cipherName key iv ciphertext padding = .ok result →
        TwoPass (evpaesdirectDecrypt aes cipherName key iv ciphertext padding) result
  | .aesAeadEncrypt cipherName key nonce aad plaintext tagLen =>
      ∀ result, aeadEncryptOperation aes cipherName key nonce aad plaintext tagLen = .ok result →
        TwoPassPair (evpaesdirectAeadEncrypt aes cipherName key nonce aad plaintext tagLen)
          result.ciphertext result.tag
  | .aesAeadDecrypt cipherName key nonce aad ciphertext tag =>
      ∀ plaintext,
        aeadDecryptOperation aes cipherName key nonce aad ciphertext tag = .ok ⟨plaintext, true⟩ →
          TwoPass (evpaesdirectAeadDecrypt aes cipherName key nonce aad ciphertext tag) plaintext
  | .aesHexToBytes hex =>
      ∀ result, hexToBytesOperation hex = .ok result → TwoPass (evpaesdirectHexToBytes hex) result
  | .aesBytesToHex input =>
      ∀ result, bytesToHexOperation input = .ok result →
        TwoPass (evpaesdirectBytesToHex input) result
  | .hashDigest algorithmName input xofOutputLen =>
      ∀ result, digestOperation hash algorithmName input xofOutputLen = .ok result →
        TwoPass (evphashdirectDigest hash algorithmName input xofOutputLen) result
  | .hashHexToBytes hex =>
      ∀ result, hexToBytesOperation hex = .ok result → TwoPass (evphashdirectHexToBytes hex) result
  | .hashBytesToHex input =>
      ∀ result, bytesToHexOperation input = .ok result →
        TwoPass (evphashdirectBytesToHex input) result

/-- The call renders an input as hex, and the input is there. -/
def RendersHex : StatelessCall → Prop
  | .aesBytesToHex input => ptrInvalidWhenLenNonzero input = false
  | .hashBytesToHex input => ptrInvalidWhenLenNonzero input = false
  | _ => False

end StatelessCall

theorem copyToOutput_length (required : Bytes) (output : Output) (outputName : ByteString) :
    (copyToOutput required output outputName).outputs.length = output.length := by
  unfold copyToOutput
  split
  · rfl
  · rfl

theorem copyBytesToOutput_length (src : Bytes) (output : Output) (outputName : ByteString) :
    (copyBytesToOutput src output outputName).outputs.length =
      output.length.map fun _ => src.length := by
  unfold copyBytesToOutput
  split
  · rfl
  · exact copyToOutput_length _ _ _

/-- A buffer of the length of the bytes gets them; none are needed for none. -/
theorem copyBytesToOutput_delivers {src : Bytes} {output : Output} {outputName : ByteString}
    (hlength : output.buffer.HasLength src.length) :
    (copyBytesToOutput src output outputName).status = .ok ∧
      (copyBytesToOutput src output outputName).outputs.buffer.contents = src := by
  by_cases hempty : src = []
  · subst hempty
    exact ⟨rfl, hlength.contents_eq_nil⟩
  · have hfull : src.isEmpty = false := by simpa using hempty
    have haccepts : (output.report src.length).buffer.accepts src.length = true :=
      (hlength.accepts_iff (by simpa using hempty)).mpr le_rfl
    simp only [copyBytesToOutput, hfull, Bool.false_eq_true, if_false, copyToOutput, haccepts,
      if_true]
    exact ⟨rfl, hlength.contents_write hempty⟩

theorem twoPass_copyBytesToOutput (src : Bytes) (outputName : ByteString) :
    TwoPass (fun output => copyBytesToOutput src output outputName) src := by
  intro old
  exact ⟨src.length, copyBytesToOutput_length _ _ _, fun _ => copyBytesToOutput_delivers⟩

theorem twoPass_fillBytes {markers : ErrorMarkers} {operation : Except ToolException Bytes}
    {outputName : ByteString} {src : Bytes} (hsrc : operation = .ok src) :
    TwoPass (fillBytes markers operation outputName) src := by
  subst hsrc
  exact twoPass_copyBytesToOutput src outputName

theorem tooSmall_eq_false {result : Bytes} {output : Output}
    (hlength : output.buffer.HasLength result.length) : tooSmall result output = false := by
  by_cases hempty : result = []
  · simp [tooSmall, hempty]
  · have haccepts : output.buffer.accepts result.length = true :=
      (hlength.accepts_iff (by simpa using hempty)).mpr le_rfl
    simp [tooSmall, haccepts]

theorem contents_copyUnlessEmpty {result : Bytes} {output : Output}
    (hlength : output.buffer.HasLength result.length) :
    (copyUnlessEmpty result output).buffer.contents = result := by
  by_cases hempty : result = []
  · subst hempty
    exact hlength.contents_eq_nil
  · have hfull : result.isEmpty = false := by simpa using hempty
    simp only [copyUnlessEmpty, hfull, Bool.false_eq_true, if_false]
    exact hlength.contents_write hempty

theorem copyUnlessEmpty_length (result : Bytes) (output : Output) :
    (copyUnlessEmpty result output).length = output.length := by
  unfold copyUnlessEmpty
  split
  · rfl
  · rfl

/-- The lengths are reported whether the buffers are large enough or not. -/
theorem copyAeadResult_length (result : AeadEncryptResult) (ciphertext tag : Output) :
    (copyAeadResult result ciphertext tag).outputs.1.length =
        ciphertext.length.map (fun _ => result.ciphertext.length) ∧
      (copyAeadResult result ciphertext tag).outputs.2.length =
        tag.length.map fun _ => result.tag.length := by
  simp only [copyAeadResult]
  split
  · exact ⟨rfl, rfl⟩
  · exact ⟨copyUnlessEmpty_length _ _, copyUnlessEmpty_length _ _⟩

theorem twoPassPair_copyAeadResult (result : AeadEncryptResult) :
    TwoPassPair (copyAeadResult result) result.ciphertext result.tag := by
  intro old oldExtra
  obtain ⟨hlength, hextraLength⟩ :=
    copyAeadResult_length result (Output.probe old) (Output.probe oldExtra)
  refine ⟨result.ciphertext.length, result.tag.length, hlength, hextraLength, ?_⟩
  intro output extraOutput hsized hextraSized
  have hfits : tooSmall result.ciphertext (output.report result.ciphertext.length) = false :=
    tooSmall_eq_false hsized
  have hextraFits : tooSmall result.tag (extraOutput.report result.tag.length) = false :=
    tooSmall_eq_false hextraSized
  simp only [copyAeadResult, hfits, hextraFits, Bool.or_self, Bool.false_eq_true, if_false]
  exact ⟨rfl, contents_copyUnlessEmpty hsized, contents_copyUnlessEmpty hextraSized⟩

/-- A buffer of the length reported has no room for the terminator. -/
theorem not_twoPass_fillString {markers : ErrorMarkers}
    {operation : Except ToolException ByteString} {outputName : ByteString} {src : ByteString}
    (hsrc : operation = .ok src) : ¬ TwoPass (fillString markers operation outputName) src := by
  subst hsrc
  intro htwoPass
  obtain ⟨length, hreported, hsecond⟩ := htwoPass 0
  have hlength : length = src.length := by
    have hcopied : (fillString markers (.ok src) outputName (Output.probe 0)).outputs.length =
        some src.length := copyToOutput_length _ _ _
    exact Option.some.inj (hreported.symm.trans hcopied)
  subst hlength
  obtain ⟨hok, -⟩ := hsecond ⟨Buffer.ofBytes src, none⟩ (Buffer.hasLength_ofBytes src)
  have hrefused : (Buffer.ofBytes src).accepts (src ++ [0]).length = false := by
    simp [Buffer.accepts, Buffer.ofBytes]
  have hshort : (fillString markers (.ok src) outputName ⟨Buffer.ofBytes src, none⟩).status =
      .bufferTooSmall := by
    simp only [fillString, fillOutput, copyStringToOutput, copyToOutput, Output.report, hrefused,
      Bool.false_eq_true, if_false]
    rfl
  exact Status.noConfusion (hshort.symm.trans hok)

theorem bytesToHexOperation_ok {input : Buffer} :
    (∃ text, bytesToHexOperation input = .ok text) ↔ ptrInvalidWhenLenNonzero input = false := by
  constructor
  · rintro ⟨text, htext⟩
    simp only [bytesToHexOperation, makeBytes, except_bind_ok, rejectWhen_eq_ok] at htext
    obtain ⟨_, ⟨_, hvalid, -⟩, -⟩ := htext
    simpa using hvalid
  · intro hvalid
    refine ⟨bytesToHex input.contents true, ?_⟩
    simp only [bytesToHexOperation, makeBytes, except_bind_ok, rejectWhen_eq_ok, hvalid]
    exact ⟨input.contents, ⟨⟨⟩, by simp, rfl⟩, rfl⟩

/-- Rendering as hex works in two passes only where there is nothing to render. -/
theorem twoPass_fillString_iff {markers : ErrorMarkers} {input : Buffer}
    {outputName : ByteString} :
    (∀ result, bytesToHexOperation input = .ok result →
      TwoPass (fillString markers (bytesToHexOperation input) outputName) result) ↔
      ¬ ptrInvalidWhenLenNonzero input = false := by
  rw [← bytesToHexOperation_ok]
  constructor
  · rintro htwoPass ⟨text, htext⟩
    exact not_twoPass_fillString htext (htwoPass text htext)
  · intro hnone result hresult
    exact absurd ⟨result, hresult⟩ hnone

namespace StatelessCall

variable {aes : EvpCipherApi} {hash : EvpDigestApi}

/-- Two passes work for every call but one that renders hex. -/
theorem twoPassWorks_iff (call : StatelessCall) :
    TwoPassWorks aes hash call ↔ ¬ call.RendersHex := by
  cases call with
  | aesEncrypt cipherName key iv plaintext padding =>
      exact iff_of_true (fun _ => twoPass_fillBytes) id
  | aesDecrypt cipherName key iv ciphertext padding =>
      exact iff_of_true (fun _ => twoPass_fillBytes) id
  | aesAeadEncrypt cipherName key nonce aad plaintext tagLen =>
      apply iff_of_true _ id
      intro result hresult
      have hcall : evpaesdirectAeadEncrypt aes cipherName key nonce aad plaintext tagLen =
          copyAeadResult result := by
        funext ciphertext tag
        simp [evpaesdirectAeadEncrypt, hresult]
      rw [hcall]
      exact twoPassPair_copyAeadResult result
  | aesAeadDecrypt cipherName key nonce aad ciphertext tag =>
      apply iff_of_true _ id
      intro plaintext hresult
      have hcall : evpaesdirectAeadDecrypt aes cipherName key nonce aad ciphertext tag =
          fun output => copyBytesToOutput plaintext output (ascii "plaintext") := by
        funext output
        simp [evpaesdirectAeadDecrypt, fillOutput, hresult, copyVerifiedPlaintext]
      rw [hcall]
      exact twoPass_copyBytesToOutput plaintext (ascii "plaintext")
  | aesHexToBytes hex => exact iff_of_true (fun _ => twoPass_fillBytes) id
  | aesBytesToHex input => exact twoPass_fillString_iff
  | hashDigest algorithmName input xofOutputLen =>
      exact iff_of_true (fun _ => twoPass_fillBytes) id
  | hashHexToBytes hex => exact iff_of_true (fun _ => twoPass_fillBytes) id
  | hashBytesToHex input => exact twoPass_fillString_iff

/-- The text `ab` of one byte needs three bytes, and two are reported. -/
theorem twoPassWorks_oneByte :
    ¬ ∀ (aes : EvpCipherApi) (hash : EvpDigestApi) (call : StatelessCall),
      TwoPassWorks aes hash call := by
  intro hworks
  have htext : bytesToHexOperation (Buffer.ofBytes [0xAB]) = .ok (ascii "ab") := by
    decide
  obtain ⟨length, hreported, hsecond⟩ := hworks demoScheme.evp abcScheme.evp
    (.aesBytesToHex (Buffer.ofBytes [0xAB])) (ascii "ab") htext 0
  have hlength : some 2 = some length := hreported
  obtain rfl := Option.some.inj hlength
  obtain ⟨hok, -⟩ := hsecond ⟨Buffer.ofBytes [0, 0], some 2⟩ (Buffer.hasLength_ofBytes _)
  exact absurd hok (by decide)

end StatelessCall

end ShoppingWeb.Evp
