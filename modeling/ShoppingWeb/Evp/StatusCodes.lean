import ShoppingWeb.Evp.DigestMachine
import ShoppingWeb.Evp.ThrowSites

/-!
# Status codes

`map_exception` searches the text of an exception before it looks at the type.
So a status names the failure only when the text of the failure has the right
words: the error stack of OpenSSL, which is part of the text, none of the words
for an unavailable algorithm, and a rejected argument no word of OpenSSL.
-/

namespace ShoppingWeb.Evp

open ShoppingWeb.ByteText
open ShoppingWeb.CallerMemory
open ShoppingWeb.Shared
open ShoppingWeb.Thrown

namespace ErrorMarkers

variable (markers : ErrorMarkers)

def words : List ByteString := markers.unavailable ++ markers.openSsl

/-- A text without any word that `map_exception` looks for. -/
def Silent (text : ByteString) : Prop :=
  ∀ word ∈ markers.words, contains text word = false

instance (text : ByteString) : Decidable (markers.Silent text) :=
  inferInstanceAs (Decidable (∀ word ∈ markers.words, contains text word = false))

/-- The words are not empty, have no colon and start with no blank. -/
def WellFormed : Prop :=
  ∀ word ∈ markers.words, word ≠ [] ∧ (0x3A : UInt8) ∉ word ∧ word.head? ≠ some 0x20

end ErrorMarkers

section Words

variable {markers : ErrorMarkers} {message context word : ByteString} {stack : ErrorStack}

theorem wellFormed_aesMarkers : aesMarkers.WellFormed := by
  unfold ErrorMarkers.WellFormed
  decide

theorem wellFormed_hashMarkers : hashMarkers.WellFormed := by
  unfold ErrorMarkers.WellFormed
  decide

/-- The separator between context and stack adds no word. -/
theorem contains_openSslErrorOf (hmarkers : markers.WellFormed) (hword : word ∈ markers.words) :
    contains (openSslErrorOf context stack).message word = true ↔
      contains context word = true ∨ contains stack word = true := by
  obtain ⟨hne, hcolon, hblank⟩ := hmarkers word hword
  simp only [openSslErrorOf, ToolException.message, contains_eq_true]
  cases stack with
  | nil => simp [hne]
  | cons c stack =>
      have hmessage : context ++ ascii ": " ++ c :: stack =
          context ++ (0x3A : UInt8) :: ((0x20 : UInt8) :: c :: stack) := by
        rw [List.append_assoc]
        rfl
      rw [if_neg (by simp), hmessage, infix_append_cons hcolon, infix_cons_of_head hblank]

theorem mapException_openSslError :
    mapException markers (.openSslError message) = .openSsl ↔
      (∀ word ∈ markers.unavailable, contains message word = false) ∧
      ∃ word ∈ markers.openSsl, contains message word = true := by
  have hunavailable : (∀ word ∈ markers.unavailable, contains message word = false) ↔
      ¬ markers.unavailable.any (contains message) = true := by
    rw [List.any_eq_true]
    constructor
    · rintro hnone ⟨word, hword, hcontains⟩
      exact Bool.noConfusion ((hnone word hword).symm.trans hcontains)
    · intro hnone word hword
      exact Bool.eq_false_iff.mpr fun hcontains => hnone ⟨word, hword, hcontains⟩
  rw [hunavailable, ← List.any_eq_true]
  change (if markers.unavailable.any (contains message) then Status.unavailable
    else if markers.openSsl.any (contains message) then .openSsl else .exception) = .openSsl ↔ _
  by_cases hfound : markers.unavailable.any (contains message) = true
  · rw [if_pos hfound]
    exact iff_of_false Status.noConfusion fun h => h.1 hfound
  rw [if_neg hfound]
  by_cases hmarked : markers.openSsl.any (contains message) = true
  · rw [if_pos hmarked]
    exact iff_of_true rfl ⟨hfound, hmarked⟩
  · rw [if_neg hmarked]
    exact iff_of_false Status.noConfusion fun h => hmarked h.2

theorem mapException_openSslErrorOf (hmarkers : markers.WellFormed) :
    mapException markers (openSslErrorOf context stack) = .openSsl ↔
      (∀ word ∈ markers.unavailable,
        contains context word = false ∧ contains stack word = false) ∧
      ∃ word ∈ markers.openSsl, contains context word = true ∨ contains stack word = true := by
  have hwords : ∀ word ∈ markers.words,
      (contains (openSslErrorOf context stack).message word = false ↔
        contains context word = false ∧ contains stack word = false) := by
    intro word hword
    simp only [← Bool.not_eq_true, contains_openSslErrorOf hmarkers hword, not_or]
  refine mapException_openSslError.trans (and_congr ?_ ?_)
  · exact forall₂_congr fun word hword => hwords word (List.mem_append_left _ hword)
  · exact exists_congr fun word => and_congr_right fun hword =>
      contains_openSslErrorOf hmarkers (List.mem_append_right _ hword)

theorem mapException_silent (hsilent : markers.Silent message) :
    mapException markers (.invalidArgument message) = .invalidArgument := by
  have hunavailable : markers.unavailable.any (contains message) = false := by
    rw [List.any_eq_false]
    intro word hword
    simp [hsilent word (List.mem_append_left _ hword)]
  have hopenSsl : markers.openSsl.any (contains message) = false := by
    rw [List.any_eq_false]
    intro word hword
    simp [hsilent word (List.mem_append_right _ hword)]
  unfold mapException
  simp [ToolException.message, hunavailable, hopenSsl]

theorem mapException_unavailable {e : ToolException} (hword : word ∈ markers.unavailable)
    (hmessage : contains e.message word = true) : mapException markers e = .unavailable := by
  unfold mapException
  rw [if_pos (List.any_eq_true.mpr ⟨word, hword, hmessage⟩)]

theorem mapException_unknownName {library : Library} (hword : word ∈ library.markers.unavailable)
    (hstart : word <+: library.unknownName) (name : ByteString) :
    mapException library.markers (library.exception (.unknownName name)) = .unavailable := by
  apply mapException_unavailable hword
  rw [Library.exception, ToolException.message, contains_eq_true]
  exact (hstart.trans (List.prefix_append _ name)).isInfix

end Words

section AesTexts

/-- What is said behind the name of a cipher. -/
def cipherRemarks : List ByteString :=
  [ascii " does not use a caller-provided IV in this lab API",
    ascii " nonce/IV must not be empty"]

/-- The fixed texts, searched for every word. -/
theorem aes_texts :
    (∀ context ∈ aesMarkedContexts,
      (∀ word ∈ aesMarkers.unavailable, contains context word = false) ∧
        ∃ word ∈ aesMarkers.openSsl, contains context word = true) ∧
      (∀ context ∈ aesUnmarkedContexts, aesMarkers.Silent context) ∧
      (∀ message ∈ aesRejections, aesMarkers.Silent message) ∧
      ∀ remark ∈ cipherRemarks,
        aesMarkers.Silent remark ∧ ((ascii "UL_").all fun c => c ∉ remark) = true := by
  -- The kernel is slow on literals, but not on lists of characters.
  unfold aesMarkedContexts aesUnmarkedContexts aesRejections hexRejections ccmTagRule
    cipherRemarks ErrorMarkers.Silent ErrorMarkers.words aesMarkers
  repeat rw [ascii_ofList]
  decide +kernel

theorem aes_context_silent {context : ByteString} (hcontext : context ∈ aesUnmarkedContexts) :
    aesMarkers.Silent context :=
  aes_texts.2.1 context hcontext

/-- Every word has one of these characters. -/
def rareCharacters : ByteString := ascii "uUL_"

theorem aes_silent_of_rare {text : ByteString} (htext : ∀ c ∈ rareCharacters, c ∉ text) :
    aesMarkers.Silent text := by
  have hrare : ∀ word ∈ aesMarkers.words, rareCharacters.any word.contains = true := by
    decide
  intro word hword
  obtain ⟨c, hc, hcword⟩ := List.any_eq_true.mp (hrare word hword)
  rw [List.contains_iff_mem] at hcword
  exact contains_eq_false_of_not_mem hcword (htext c hc)

theorem le_nine_of_mem_decimal {value : ℤ} {c : UInt8} (hc : c ∈ decimal value) : c ≤ 0x39 := by
  have hdigits : ∀ (n : ℕ) (unit : Char), unit ∈ Nat.toDigits 10 n → unit.toNat ≤ 0x39 := by
    intro n unit hunit
    have hdigit := Nat.isDigit_of_mem_toDigits (by decide) (by decide) hunit
    simp only [Char.isDigit, Bool.and_eq_true, decide_eq_true_eq] at hdigit
    exact hdigit.2
  obtain ⟨unit, hunit, rfl⟩ := List.mem_map.mp hc
  have hle : unit.toNat ≤ 0x39 := by
    cases value with
    | ofNat n =>
        have htext : (toString (Int.ofNat n)).toList = Nat.toDigits 10 n := by
          change (Nat.repr n).toList = _
          simp [Nat.repr]
        exact hdigits n unit (htext ▸ hunit)
    | negSucc n =>
        have htext : (toString (Int.negSucc n)).toList = '-' :: Nat.toDigits 10 (n + 1) := by
          change ("-" ++ Nat.repr (n + 1)).toList = _
          simp [Nat.repr]
        rw [htext] at hunit
        rcases List.mem_cons.mp hunit with rfl | hunit
        · decide
        · exact hdigits (n + 1) unit hunit
  rw [UInt8.le_iff_toNat_le, UInt8.toNat_ofNat']
  exact (Nat.mod_le _ _).trans hle

theorem rare_not_mem_decimal (value : ℤ) : ∀ c ∈ rareCharacters, c ∉ decimal value := by
  have hrare : ∀ c ∈ rareCharacters, ¬ c ≤ 0x39 := forall_mem_of_all (by decide)
  intro c hc hdecimal
  exact hrare c hc (le_nine_of_mem_decimal hdecimal)

/-- The characters of canonical names. -/
def nameCharacters : ByteString := ascii "-0123456789ABCDEFGMOPRSTWX"

theorem mem_nameCharacters {cipher : EvpCipher} {c : UInt8} (hc : c ∈ cipher.name) :
    c ∈ nameCharacters := by
  have hfixed : ∀ c ∈ ascii "AES-" ++ ascii "-", c ∈ nameCharacters :=
    forall_mem_of_all (by decide)
  have hbits : ∀ keySize : AesKeySize, ∀ c ∈ keySize.name, c ∈ nameCharacters := by
    intro keySize
    cases keySize <;> exact forall_mem_of_all (by decide)
  have hmode : ∀ mode : AesMode, ∀ c ∈ mode.name, c ∈ nameCharacters := by
    intro mode
    cases mode <;> exact forall_mem_of_all (by decide)
  simp only [EvpCipher.name, canonicalName, List.mem_append] at hc
  rcases hc with ((hc | hc) | hc) | hc
  · exact hfixed c (List.mem_append_left _ hc)
  · exact hbits _ c hc
  · exact hfixed c (List.mem_append_right _ hc)
  · exact hmode _ c hc

theorem rare_not_mem_name (cipher : EvpCipher) : ∀ c ∈ rareCharacters, c ∉ cipher.name := by
  have hrare : ∀ c ∈ rareCharacters, c ∉ nameCharacters := forall_mem_of_all (by decide)
  intro c hc hname
  exact hrare c hc (mem_nameCharacters hname)

/-- A word is of lower case, which a name is not, or has a character that is rare in
upper case too. -/
theorem aes_silent_name_append (cipher : EvpCipher) {rest : ByteString}
    (hrest : aesMarkers.Silent rest ∧ ((ascii "UL_").all fun c => c ∉ rest) = true) :
    aesMarkers.Silent (cipher.name ++ rest) := by
  have hwords : ∀ word ∈ aesMarkers.words, (ascii "UL_").any word.contains = true ∨
      (word.all fun c => c ∉ nameCharacters) = true := by
    decide
  have hrare : ∀ c ∈ ascii "UL_", c ∈ rareCharacters := forall_mem_of_all (by decide)
  intro word hword
  rcases hwords word hword with hupper | hlower
  · obtain ⟨c, hc, hcword⟩ := List.any_eq_true.mp hupper
    apply contains_eq_false_of_not_mem (List.contains_iff_mem.mp hcword)
    rw [List.mem_append, not_or]
    exact ⟨rare_not_mem_name cipher c (hrare c hc), forall_mem_of_all hrest.2 c hc⟩
  · rw [contains_eq_false, infix_append_of_disjoint, ← contains_eq_false]
    · exact hrest.1 word hword
    · intro c hc hname
      exact forall_mem_of_all hlower c hc (mem_nameCharacters hname)

theorem aes_remark_silent (cipher : EvpCipher) {remark : ByteString}
    (hremark : remark ∈ cipherRemarks) : aesMarkers.Silent (cipher.name ++ remark) :=
  aes_silent_name_append cipher (aes_texts.2.2.2 remark hremark)

theorem aes_wrongKeyLength_silent (expected got : ℤ) :
    aesMarkers.Silent (wrongKeyLength expected got) := by
  have hfixed : ∀ c ∈ rareCharacters,
      c ∉ ascii "Wrong key length. Expected " ∧ c ∉ ascii " byte(s), got " ∧
        c ∉ ascii " byte(s)" := by
    repeat rw [ascii_ofList]
    exact forall_mem_of_all (by decide)
  apply aes_silent_of_rare
  intro c hc
  obtain ⟨hstart, hmiddle, hend⟩ := hfixed c hc
  simp only [wrongKeyLength, List.mem_append, not_or]
  exact ⟨⟨⟨⟨hstart, rare_not_mem_decimal expected c hc⟩, hmiddle⟩,
    rare_not_mem_decimal got c hc⟩, hend⟩

theorem aes_wrongIvLength_silent (cipher : EvpCipher) (expected got : ℤ) :
    aesMarkers.Silent (wrongIvLength cipher.name expected got) := by
  have hfixed : ∀ c ∈ rareCharacters,
      c ∉ ascii " expects IV length " ∧ c ∉ ascii " byte(s), got " := by
    repeat rw [ascii_ofList]
    exact forall_mem_of_all (by decide)
  apply aes_silent_of_rare
  intro c hc
  obtain ⟨hstart, hmiddle⟩ := hfixed c hc
  simp only [wrongIvLength, List.mem_append, not_or]
  exact ⟨⟨⟨⟨rare_not_mem_name cipher c hc, hstart⟩, rare_not_mem_decimal expected c hc⟩,
    hmiddle⟩, rare_not_mem_decimal got c hc⟩

/-- No text of a rejected argument has a word that `map_exception` looks for. -/
theorem aes_rejects_silent {message : ByteString} (hrejects : aesLibrary.Rejects message) :
    aesMarkers.Silent message := by
  cases hrejects with
  | fixed hmessage => exact aes_texts.2.2.1 message hmessage
  | keyLength expected got => exact aes_wrongKeyLength_silent expected got
  | ivUnused cipher => exact aes_remark_silent cipher (by simp [cipherRemarks])
  | ivLength cipher expected got => exact aes_wrongIvLength_silent cipher expected got
  | emptyNonce cipher => exact aes_remark_silent cipher (by simp [cipherRemarks])

end AesTexts

/-! ## The texts of the hash library -/

section HashTexts

/-- The fixed texts, searched for every word; some rejected arguments are reported as
failures of OpenSSL. -/
theorem hash_texts :
    (∀ context ∈ hashContexts,
      (∀ word ∈ hashMarkers.unavailable, contains context word = false) ∧
        ∃ word ∈ hashMarkers.openSsl, contains context word = true) ∧
      (∀ message ∈ hashRejections, hashMarkers.Silent message) ∧
      ∀ message ∈ hashMarkedRejections,
        mapException hashMarkers (.invalidArgument message) = .openSsl := by
  unfold hashContexts hashRejections hashMarkedRejections hexRejections ErrorMarkers.Silent
    ErrorMarkers.words mapException hashMarkers
  repeat rw [ascii_ofList]
  decide

end HashTexts

/-- What `ctx_new` does before it stores the handle. -/
def ctxNewOperation (evp : EvpDigestApi) (algorithmName : Option CString) :
    Except ToolException (DirectDigestContext evp) := do
  let algorithmName ← requireString algorithmName (ascii "algorithm_name")
  newContext evp algorithmName

/-- What `ctx_copy` does before it stores the handle. -/
def ctxCopyOperation {evp : EvpDigestApi} (src : Handle evp) :
    Except ToolException (DirectDigestContext evp) :=
  match src with
  | none => .error nullContext
  | some context => context.clone

def errorOf {Value : Type} : Except ToolException Value → Option ToolException
  | .ok _ => none
  | .error e => some e

/-- The calls of the AES interface, each with its arguments. -/
inductive AesCall where
  | cipherAvailable (cipherName : Option CString)
  | cipherExpectedKeyLen (cipherName : Option CString) (keyLenOut : Option ℕ)
  | cipherExpectedIvLen (cipherName : Option CString) (ivLenOut : Option ℕ)
  | cipherBlockSize (cipherName : Option CString) (blockSizeOut : Option ℤ)
  | encrypt (cipherName : Option CString) (key iv plaintext : Buffer) (padding : ℤ)
      (ciphertext : Output)
  | decrypt (cipherName : Option CString) (key iv ciphertext : Buffer) (padding : ℤ)
      (plaintext : Output)
  | aeadEncrypt (cipherName : Option CString) (key nonce aad plaintext : Buffer) (tagLen : ℕ)
      (ciphertext tag : Output)
  | aeadDecrypt (cipherName : Option CString) (key nonce aad ciphertext tag : Buffer)
      (plaintext : Output)
  | hexToBytes (hex : Option CString) (output : Output)
  | bytesToHex (input : Buffer) (outputHex : Output)

namespace AesCall

variable (evp : EvpCipherApi)

/-- The exception that is caught inside the call.  A missing place for the answer
is noticed before. -/
def thrown : AesCall → Option ToolException
  | .cipherAvailable cipherName => errorOf (cipherAvailableOperation cipherName)
  | .cipherExpectedKeyLen cipherName keyLenOut =>
      keyLenOut.bind fun _ => errorOf (cipherQueryOperation (expectedKeyLength evp) cipherName)
  | .cipherExpectedIvLen cipherName ivLenOut =>
      ivLenOut.bind fun _ => errorOf (cipherQueryOperation (expectedIvLength evp) cipherName)
  | .cipherBlockSize cipherName blockSizeOut =>
      blockSizeOut.bind fun _ => errorOf (cipherQueryOperation (blockSize evp) cipherName)
  | .encrypt cipherName key iv plaintext padding _ =>
      errorOf (encryptOperation evp cipherName key iv plaintext padding)
  | .decrypt cipherName key iv ciphertext padding _ =>
      errorOf (decryptOperation evp cipherName key iv ciphertext padding)
  | .aeadEncrypt cipherName key nonce aad plaintext tagLen _ _ =>
      errorOf (aeadEncryptOperation evp cipherName key nonce aad plaintext tagLen)
  | .aeadDecrypt cipherName key nonce aad ciphertext tag _ =>
      errorOf (aeadDecryptOperation evp cipherName key nonce aad ciphertext tag)
  | .hexToBytes hex _ => errorOf (hexToBytesOperation hex)
  | .bytesToHex input _ => errorOf (bytesToHexOperation input)

def status : AesCall → Status
  | .cipherAvailable cipherName => (evpaesdirectCipherAvailable cipherName).status
  | .cipherExpectedKeyLen cipherName keyLenOut =>
      (evpaesdirectCipherExpectedKeyLen evp cipherName keyLenOut).status
  | .cipherExpectedIvLen cipherName ivLenOut =>
      (evpaesdirectCipherExpectedIvLen evp cipherName ivLenOut).status
  | .cipherBlockSize cipherName blockSizeOut =>
      (evpaesdirectCipherBlockSize evp cipherName blockSizeOut).status
  | .encrypt cipherName key iv plaintext padding ciphertext =>
      (evpaesdirectEncrypt evp cipherName key iv plaintext padding ciphertext).status
  | .decrypt cipherName key iv ciphertext padding plaintext =>
      (evpaesdirectDecrypt evp cipherName key iv ciphertext padding plaintext).status
  | .aeadEncrypt cipherName key nonce aad plaintext tagLen ciphertext tag =>
      (evpaesdirectAeadEncrypt evp cipherName key nonce aad plaintext tagLen ciphertext tag).status
  | .aeadDecrypt cipherName key nonce aad ciphertext tag plaintext =>
      (evpaesdirectAeadDecrypt evp cipherName key nonce aad ciphertext tag plaintext).status
  | .hexToBytes hex output => (evpaesdirectHexToBytes hex output).status
  | .bytesToHex input outputHex => (evpaesdirectBytesToHex input outputHex).status

end AesCall

/-- The calls of the hash interface, each with its arguments. -/
inductive HashCall (evp : EvpDigestApi) where
  | digestAvailable (algorithmName : Option CString)
  | digestInfo (algorithmName : Option CString) (out : DigestInfoOut)
  | digest (algorithmName : Option CString) (input : Buffer) (xofOutputLen : ℕ) (output : Output)
  | ctxNew (algorithmName : Option CString) (ctxOut : Option (Handle evp))
  | ctxUpdate (ctx : Handle evp) (input : Buffer)
  | ctxCopy (src : Handle evp) (dstOut : Option (Handle evp))
  | ctxFinal (ctx : Handle evp) (output : Output)
  | ctxFinalXof (ctx : Handle evp) (xofOutputLen : ℕ) (output : Output)
  | hexToBytes (hex : Option CString) (output : Output)
  | bytesToHex (input : Buffer) (outputHex : Output)

namespace HashCall

variable {evp : EvpDigestApi}

def thrown : HashCall evp → Option ToolException
  | .digestAvailable algorithmName => errorOf (digestAvailableOperation algorithmName)
  | .digestInfo algorithmName _ => errorOf (digestInfoOperation evp algorithmName)
  | .digest algorithmName input xofOutputLen _ =>
      errorOf (digestOperation evp algorithmName input xofOutputLen)
  | .ctxNew algorithmName ctxOut => ctxOut.bind fun _ => errorOf (ctxNewOperation evp algorithmName)
  | .ctxUpdate ctx input => errorOf (runMethod (DirectDigestContext.update input) ctx).1
  | .ctxCopy src dstOut => dstOut.bind fun _ => errorOf (ctxCopyOperation src)
  | .ctxFinal ctx _ => errorOf (runMethod DirectDigestContext.final ctx).1
  | .ctxFinalXof ctx xofOutputLen _ =>
      errorOf (runMethod (DirectDigestContext.finalXof xofOutputLen) ctx).1
  | .hexToBytes hex _ => errorOf (hexToBytesOperation hex)
  | .bytesToHex input _ => errorOf (bytesToHexOperation input)

def status : HashCall evp → Status
  | .digestAvailable algorithmName => (evphashdirectDigestAvailable algorithmName).status
  | .digestInfo algorithmName out => (evphashdirectDigestInfo evp algorithmName out).status
  | .digest algorithmName input xofOutputLen output =>
      (evphashdirectDigest evp algorithmName input xofOutputLen output).status
  | .ctxNew algorithmName ctxOut => (evphashdirectCtxNew algorithmName ctxOut).status
  | .ctxUpdate ctx input => (evphashdirectCtxUpdate ctx input).status
  | .ctxCopy src dstOut => (evphashdirectCtxCopy src dstOut).status
  | .ctxFinal ctx output => (evphashdirectCtxFinal ctx output).1.status
  | .ctxFinalXof ctx xofOutputLen output =>
      (evphashdirectCtxFinalXof ctx xofOutputLen output).1.status
  | .hexToBytes hex output => (evphashdirectHexToBytes hex output).status
  | .bytesToHex input outputHex => (evphashdirectBytesToHex input outputHex).status

end HashCall

/-- A caught exception decides the status, and without one no status says so. -/
structure Reports (markers : ErrorMarkers) (thrown : Option ToolException) (status : Status) :
    Prop where
  caught : ∀ e, thrown = some e → status = mapException markers e
  quiet : thrown = none → status = .invalidArgument ∨ status.thrown = false

section Reports

variable {markers : ErrorMarkers} {status : Status} {Value Outputs : Type}

theorem reports_failed (e : ToolException) (outputs : Outputs) :
    Reports markers (some e) (failed markers e outputs).status where
  caught := by
    rintro _ ⟨⟩
    rfl
  quiet hnone := nomatch hnone

theorem reports_none (hstatus : status = .invalidArgument ∨ status.thrown = false) :
    Reports markers none status where
  caught := by
    rintro _ ⟨⟩
  quiet _ := hstatus

theorem reports_answerQuery (operation : Except ToolException Bool) :
    Reports markers (errorOf operation) (answerQuery markers operation).status := by
  cases operation with
  | ok answer => exact reports_none (.inr rfl)
  | error e => exact reports_failed e none

theorem reports_storeQuery (outName : ByteString) (operation : Except ToolException Value)
    (out : Option Value) :
    Reports markers (out.bind fun _ => errorOf operation)
      (storeQuery markers outName operation out).status := by
  cases out with
  | none => exact reports_none (.inl rfl)
  | some old =>
      cases operation with
      | ok value => exact reports_none (.inr rfl)
      | error e => exact reports_failed e (some old)

theorem reports_fillOutput {operation : Except ToolException Value}
    {copy : Value → Output → Reply Output} (output : Output)
    (hcopy : ∀ result, (copy result output).status.thrown = false) :
    Reports markers (errorOf operation) (fillOutput markers operation copy output).status := by
  cases operation with
  | ok result => exact reports_none (.inr (hcopy result))
  | error e => exact reports_failed e output

theorem thrown_copyToOutput (required : Bytes) (output : Output) (outputName : ByteString) :
    (copyToOutput required output outputName).status.thrown = false := by
  unfold copyToOutput
  split
  · rfl
  · rfl

theorem thrown_copyBytesToOutput (src : Bytes) (output : Output) (outputName : ByteString) :
    (copyBytesToOutput src output outputName).status.thrown = false := by
  unfold copyBytesToOutput
  split
  · rfl
  · exact thrown_copyToOutput src _ outputName

theorem thrown_copyVerifiedPlaintext (result : AeadDecryptResult) (plaintext : Output) :
    (copyVerifiedPlaintext result plaintext).status.thrown = false := by
  unfold copyVerifiedPlaintext
  split
  · exact thrown_copyBytesToOutput result.plaintext plaintext _
  · rfl

theorem thrown_copyAeadResult (result : AeadEncryptResult) (ciphertext tag : Output) :
    (copyAeadResult result ciphertext tag).status.thrown = false := by
  simp only [copyAeadResult]
  split
  · rfl
  · rfl

theorem reports_fillBytes (operation : Except ToolException Bytes) (outputName : ByteString)
    (output : Output) :
    Reports markers (errorOf operation) (fillBytes markers operation outputName output).status :=
  reports_fillOutput output fun src => thrown_copyBytesToOutput src output outputName

theorem reports_fillString (operation : Except ToolException ByteString) (outputName : ByteString)
    (output : Output) :
    Reports markers (errorOf operation) (fillString markers operation outputName output).status :=
  reports_fillOutput output fun src =>
    thrown_copyToOutput (src ++ [0]) (output.report src.length) outputName

theorem reports_storeHandle {evp : EvpDigestApi} (outName : ByteString)
    (made : Except ToolException (DirectDigestContext evp)) (out : Option (Handle evp)) :
    Reports hashMarkers (out.bind fun _ => errorOf made) (storeHandle outName made out).status := by
  cases out with
  | none => exact reports_none (.inl rfl)
  | some old =>
      cases made with
      | ok context => exact reports_none (.inr rfl)
      | error e => exact reports_failed e (some none)

theorem AesCall.reports (evp : EvpCipherApi) (call : AesCall) :
    Reports aesMarkers (call.thrown evp) (call.status evp) := by
  cases call with
  | cipherAvailable cipherName => exact reports_answerQuery _
  | cipherExpectedKeyLen cipherName keyLenOut => exact reports_storeQuery _ _ keyLenOut
  | cipherExpectedIvLen cipherName ivLenOut => exact reports_storeQuery _ _ ivLenOut
  | cipherBlockSize cipherName blockSizeOut => exact reports_storeQuery _ _ blockSizeOut
  | encrypt cipherName key iv plaintext padding ciphertext => exact reports_fillBytes _ _ ciphertext
  | decrypt cipherName key iv ciphertext padding plaintext => exact reports_fillBytes _ _ plaintext
  | aeadEncrypt cipherName key nonce aad plaintext tagLen ciphertext tag =>
      simp only [AesCall.thrown, AesCall.status, evpaesdirectAeadEncrypt]
      cases aeadEncryptOperation evp cipherName key nonce aad plaintext tagLen with
      | ok result => exact reports_none (.inr (thrown_copyAeadResult result ciphertext tag))
      | error e => exact reports_failed e (ciphertext, tag)
  | aeadDecrypt cipherName key nonce aad ciphertext tag plaintext =>
      exact reports_fillOutput plaintext fun result =>
        thrown_copyVerifiedPlaintext result plaintext
  | hexToBytes hex output => exact reports_fillBytes _ _ output
  | bytesToHex input outputHex => exact reports_fillString _ _ outputHex

theorem HashCall.reports {evp : EvpDigestApi} (call : HashCall evp) :
    Reports hashMarkers call.thrown call.status := by
  cases call with
  | digestAvailable algorithmName => exact reports_answerQuery _
  | digestInfo algorithmName out =>
      simp only [HashCall.thrown, HashCall.status, evphashdirectDigestInfo]
      cases digestInfoOperation evp algorithmName with
      | ok info => exact reports_none (.inr rfl)
      | error e => exact reports_failed e out
  | digest algorithmName input xofOutputLen output => exact reports_fillBytes _ _ output
  | ctxNew algorithmName ctxOut => exact reports_storeHandle _ _ ctxOut
  | ctxUpdate ctx input =>
      simp only [HashCall.thrown, HashCall.status, evphashdirectCtxUpdate]
      cases (runMethod (DirectDigestContext.update input) ctx).1 with
      | ok done => exact reports_none (.inr rfl)
      | error e => exact reports_failed e _
  | ctxCopy src dstOut => exact reports_storeHandle _ _ dstOut
  | ctxFinal ctx output => exact reports_fillBytes _ _ output
  | ctxFinalXof ctx xofOutputLen output => exact reports_fillBytes _ _ output
  | hexToBytes hex output => exact reports_fillBytes _ _ output
  | bytesToHex input outputHex => exact reports_fillString _ _ outputHex

end Reports

/-! ## Where a call throws -/

section Throws

variable {library : Library} {Value : Type}

theorem explained_errorOf {computed : Except ToolException Value}
    (hthrows : Throws library.Explains computed) :
    ∀ e, errorOf computed = some e → library.Explains e := by
  intro e herror
  cases computed with
  | ok value => cases herror
  | error other =>
      obtain rfl := Option.some.inj herror
      exact hthrows other rfl

theorem explained_bind {Place : Type} {computed : Except ToolException Value}
    (hthrows : Throws library.Explains computed) (out : Option Place) :
    ∀ e, (out.bind fun _ => errorOf computed) = some e → library.Explains e := by
  cases out with
  | none => exact fun e hnone => nomatch hnone
  | some old => exact explained_errorOf hthrows

theorem throws_hexToBytesOperation
    (hnull : library.Rejects (ascii "hex" ++ ascii " is null or empty"))
    (hrejects : ∀ message ∈ hexRejections, library.Rejects message) (hex : Option CString) :
    Throws library.Explains (hexToBytesOperation hex) := by
  refine throws_bind (throws_requireString hnull hex) fun hex _ => ?_
  exact throws_hexToBytes hrejects hex

theorem throws_bytesToHexOperation
    (hrejects : library.Rejects (ascii "input" ++ ascii " pointer is null but length is non-zero"))
    (input : Buffer) : Throws library.Explains (bytesToHexOperation input) :=
  throws_bind (throws_makeBytes hrejects input) fun _ _ => throws_ok _

theorem aes_rejects_hex : ∀ message ∈ hexRejections, aesLibrary.Rejects message := by
  intro message hmessage
  apply aesRejects_fixed
  simp only [aesRejections, List.mem_append]
  exact .inl (.inl (.inl (.inl hmessage)))

theorem throws_cipherName (cipherName : Option CString) :
    Throws aesLibrary.Explains (requireString cipherName (ascii "cipher_name")) :=
  throws_requireString (aesRejects_fixed (by simp [aesRejections])) cipherName

theorem throws_cipherQueryOperation {query : ByteString → Except ToolException Value}
    (hquery : ∀ cipherName, Throws aesLibrary.Explains (query cipherName))
    (cipherName : Option CString) :
    Throws aesLibrary.Explains (cipherQueryOperation query cipherName) :=
  throws_bind (throws_cipherName cipherName) fun cipherName _ => hquery cipherName

/-- The parameters that point to bytes. -/
def pointerNames : List ByteString :=
  [ascii "key", ascii "iv", ascii "nonce", ascii "aad", ascii "plaintext", ascii "ciphertext",
    ascii "tag", ascii "input"]

theorem throws_pointer {name : ByteString} (hname : name ∈ pointerNames) (p : Buffer) :
    Throws aesLibrary.Explains (makeBytes p name) := by
  apply throws_makeBytes
  apply aesRejects_fixed
  rw [aesRejections]
  exact List.mem_append_left _ (List.mem_append_right _ (List.mem_map_of_mem hname))

theorem throws_encryptOperation (evp : EvpCipherApi) (cipherName : Option CString)
    (key iv plaintext : Buffer) (padding : ℤ) :
    Throws aesLibrary.Explains (encryptOperation evp cipherName key iv plaintext padding) := by
  refine throws_bind (throws_cipherName cipherName) fun _ _ => ?_
  refine throws_bind (throws_pointer (by simp [pointerNames]) key) fun _ _ => ?_
  refine throws_bind (throws_pointer (by simp [pointerNames]) iv) fun _ _ => ?_
  refine throws_bind (throws_pointer (by simp [pointerNames]) plaintext) fun _ _ => ?_
  exact throws_encrypt evp _ _ _ _ _

theorem throws_decryptOperation (evp : EvpCipherApi) (cipherName : Option CString)
    (key iv ciphertext : Buffer) (padding : ℤ) :
    Throws aesLibrary.Explains (decryptOperation evp cipherName key iv ciphertext padding) := by
  refine throws_bind (throws_cipherName cipherName) fun _ _ => ?_
  refine throws_bind (throws_pointer (by simp [pointerNames]) key) fun _ _ => ?_
  refine throws_bind (throws_pointer (by simp [pointerNames]) iv) fun _ _ => ?_
  refine throws_bind (throws_pointer (by simp [pointerNames]) ciphertext) fun _ _ => ?_
  exact throws_decrypt evp _ _ _ _ _

theorem throws_aeadEncryptOperation (evp : EvpCipherApi) (cipherName : Option CString)
    (key nonce aad plaintext : Buffer) (tagLen : ℕ) :
    Throws aesLibrary.Explains
      (aeadEncryptOperation evp cipherName key nonce aad plaintext tagLen) := by
  refine throws_bind (throws_cipherName cipherName) fun _ _ => ?_
  refine throws_bind (throws_pointer (by simp [pointerNames]) key) fun _ _ => ?_
  refine throws_bind (throws_pointer (by simp [pointerNames]) nonce) fun _ _ => ?_
  refine throws_bind (throws_pointer (by simp [pointerNames]) aad) fun _ _ => ?_
  refine throws_bind (throws_pointer (by simp [pointerNames]) plaintext) fun _ _ => ?_
  exact throws_aeadEncrypt evp _ _ _ _ _ tagLen

theorem throws_aeadDecryptOperation (evp : EvpCipherApi) (cipherName : Option CString)
    (key nonce aad ciphertext tag : Buffer) :
    Throws aesLibrary.Explains
      (aeadDecryptOperation evp cipherName key nonce aad ciphertext tag) := by
  refine throws_bind (throws_cipherName cipherName) fun _ _ => ?_
  refine throws_bind (throws_pointer (by simp [pointerNames]) key) fun _ _ => ?_
  refine throws_bind (throws_pointer (by simp [pointerNames]) nonce) fun _ _ => ?_
  refine throws_bind (throws_pointer (by simp [pointerNames]) aad) fun _ _ => ?_
  refine throws_bind (throws_pointer (by simp [pointerNames]) ciphertext) fun _ _ => ?_
  refine throws_bind (throws_pointer (by simp [pointerNames]) tag) fun _ _ => ?_
  exact throws_aeadDecrypt evp _ _ _ _ _ _

theorem AesCall.explained (evp : EvpCipherApi) (call : AesCall) :
    ∀ e, call.thrown evp = some e → aesLibrary.Explains e := by
  cases call with
  | cipherAvailable cipherName =>
      exact explained_errorOf (throws_bind (throws_cipherName cipherName) fun _ _ => throws_ok _)
  | cipherExpectedKeyLen cipherName keyLenOut =>
      exact explained_bind
        (throws_cipherQueryOperation (throws_expectedKeyLength evp) cipherName) keyLenOut
  | cipherExpectedIvLen cipherName ivLenOut =>
      exact explained_bind
        (throws_cipherQueryOperation (throws_expectedIvLength evp) cipherName) ivLenOut
  | cipherBlockSize cipherName blockSizeOut =>
      exact explained_bind
        (throws_cipherQueryOperation (throws_blockSize evp) cipherName) blockSizeOut
  | encrypt cipherName key iv plaintext padding ciphertext =>
      exact explained_errorOf (throws_encryptOperation evp cipherName key iv plaintext padding)
  | decrypt cipherName key iv ciphertext padding plaintext =>
      exact explained_errorOf (throws_decryptOperation evp cipherName key iv ciphertext padding)
  | aeadEncrypt cipherName key nonce aad plaintext tagLen ciphertext tag =>
      exact explained_errorOf
        (throws_aeadEncryptOperation evp cipherName key nonce aad plaintext tagLen)
  | aeadDecrypt cipherName key nonce aad ciphertext tag plaintext =>
      exact explained_errorOf
        (throws_aeadDecryptOperation evp cipherName key nonce aad ciphertext tag)
  | hexToBytes hex output =>
      exact explained_errorOf (throws_hexToBytesOperation
        (aesRejects_fixed (by simp [aesRejections])) aes_rejects_hex hex)
  | bytesToHex input outputHex =>
      exact explained_errorOf (throws_bytesToHexOperation
        (aesRejects_fixed (by simp [aesRejections])) input)

theorem hash_rejects_hex : ∀ message ∈ hexRejections, hashLibrary.Rejects message := by
  intro message hmessage
  apply hash_rejects
  simp only [hashRejections, List.mem_append]
  exact .inl (.inl (.inl hmessage))

theorem throws_algorithmName (algorithmName : Option CString) :
    Throws hashLibrary.Explains (requireString algorithmName (ascii "algorithm_name")) :=
  throws_requireString (hash_rejects (by simp [hashRejections])) algorithmName

theorem throws_runMethod {evp : EvpDigestApi} {method : Method evp Value}
    (hmethod : ∀ context, Throws hashLibrary.Explains (method context).1) (ctx : Handle evp) :
    Throws hashLibrary.Explains (runMethod method ctx).1 := by
  cases ctx with
  | none => exact throws_invalidArgument (hash_rejects_marked (by simp [hashMarkedRejections]))
  | some context => exact hmethod context

theorem throws_digestOperation (evp : EvpDigestApi) (algorithmName : Option CString)
    (input : Buffer) (xofOutputLen : ℕ) :
    Throws hashLibrary.Explains (digestOperation evp algorithmName input xofOutputLen) := by
  refine throws_bind (throws_algorithmName algorithmName) fun _ _ => ?_
  refine throws_bind (throws_makeBytes (hash_rejects (by simp [hashRejections])) input)
    fun _ _ => ?_
  exact throws_digest _ _ xofOutputLen

theorem throws_ctxCopyOperation {evp : EvpDigestApi} (src : Handle evp) :
    Throws hashLibrary.Explains (ctxCopyOperation src) := by
  cases src with
  | none => exact throws_invalidArgument (hash_rejects_marked (by simp [hashMarkedRejections]))
  | some context => exact throws_clone context

theorem HashCall.explained {evp : EvpDigestApi} (call : HashCall evp) :
    ∀ e, call.thrown = some e → hashLibrary.Explains e := by
  cases call with
  | digestAvailable algorithmName =>
      exact explained_errorOf
        (throws_bind (throws_algorithmName algorithmName) fun _ _ => throws_ok _)
  | digestInfo algorithmName out =>
      exact explained_errorOf
        (throws_bind (throws_algorithmName algorithmName) fun name _ => throws_digestInfo name)
  | digest algorithmName input xofOutputLen output =>
      exact explained_errorOf (throws_digestOperation evp algorithmName input xofOutputLen)
  | ctxNew algorithmName ctxOut =>
      exact explained_bind
        (throws_bind (throws_algorithmName algorithmName) fun name _ => throws_newContext name)
        ctxOut
  | ctxUpdate ctx input => exact explained_errorOf (throws_runMethod (throws_update input) ctx)
  | ctxCopy src dstOut => exact explained_bind (throws_ctxCopyOperation src) dstOut
  | ctxFinal ctx output => exact explained_errorOf (throws_runMethod throws_final ctx)
  | ctxFinalXof ctx xofOutputLen output =>
      exact explained_errorOf (throws_runMethod (throws_finalXof xofOutputLen) ctx)
  | hexToBytes hex output =>
      exact explained_errorOf (throws_hexToBytesOperation
        (hash_rejects (by simp [hashRejections])) hash_rejects_hex hex)
  | bytesToHex input outputHex =>
      exact explained_errorOf (throws_bytesToHexOperation
        (hash_rejects (by simp [hashRejections])) input)

end Throws

/-! ## Which failures are recognised -/

/-- A failure of OpenSSL that the stack of errors does not disguise: without a word
for an unavailable algorithm in it, and with a word of OpenSSL where the context has
none. -/
def aesRecognised : Failure → Prop
  | .openSsl context stack =>
      (∀ word ∈ aesMarkers.unavailable, contains stack word = false) ∧
        (context ∈ aesUnmarkedContexts →
          ∃ word ∈ aesMarkers.openSsl, contains stack word = true)
  | .unknownName _ => True
  | .rejected _ => True

/-- Every context has a word of OpenSSL here, but so have some rejected arguments. -/
def hashRecognised : Failure → Prop
  | .openSsl _ stack => ∀ word ∈ hashMarkers.unavailable, contains stack word = false
  | .unknownName _ => True
  | .rejected message => message ∉ hashMarkedRejections

/-- A context without a word for an unavailable algorithm leaves it to the stack. -/
theorem forall_unavailable_iff {markers : ErrorMarkers} {context : ByteString} {stack : ErrorStack}
    (hcontext : ∀ word ∈ markers.unavailable, contains context word = false) :
    (∀ word ∈ markers.unavailable, contains context word = false ∧ contains stack word = false) ↔
      ∀ word ∈ markers.unavailable, contains stack word = false :=
  forall₂_congr fun word hword => and_iff_right (hcontext word hword)

theorem aes_status_iff {failure : Failure} (hfails : aesLibrary.Fails failure) :
    mapException aesMarkers (aesLibrary.exception failure) = failure.expected ↔
      aesRecognised failure := by
  cases failure with
  | openSsl context stack =>
      refine (mapException_openSslErrorOf wellFormed_aesMarkers).trans ?_
      rcases List.mem_append.mp hfails with hmarked | hunmarked
      · obtain ⟨havailable, word, hword, hcontains⟩ := aes_texts.1 context hmarked
        have hmissing : context ∉ aesUnmarkedContexts := by
          intro hunmarked
          have hsilent := aes_context_silent hunmarked word (List.mem_append_right _ hword)
          exact Bool.noConfusion (hsilent.symm.trans hcontains)
        refine and_congr (forall_unavailable_iff havailable) ?_
        exact iff_of_true ⟨word, hword, .inl hcontains⟩ fun hunmarked => absurd hunmarked hmissing
      · have hsilent := aes_context_silent hunmarked
        refine and_congr (forall_unavailable_iff fun word hword =>
          hsilent word (List.mem_append_left _ hword)) ?_
        rw [forall_prop_of_true hunmarked]
        refine exists_congr fun word => and_congr_right fun hword => ?_
        rw [hsilent word (List.mem_append_right _ hword)]
        exact or_iff_right Bool.false_ne_true
  | unknownName name =>
      have hstart : ascii "Unsupported" <+: aesLibrary.unknownName := by decide
      exact iff_of_true (mapException_unknownName (List.mem_cons_self ..) hstart name) trivial
  | rejected message => exact iff_of_true (mapException_silent (aes_rejects_silent hfails)) trivial

theorem hash_status_iff {failure : Failure} (hfails : hashLibrary.Fails failure) :
    mapException hashMarkers (hashLibrary.exception failure) = failure.expected ↔
      hashRecognised failure := by
  cases failure with
  | openSsl context stack =>
      obtain ⟨havailable, word, hword, hcontains⟩ := hash_texts.1 context hfails
      refine (mapException_openSslErrorOf wellFormed_hashMarkers).trans ?_
      exact (and_iff_left ⟨word, hword, .inl hcontains⟩).trans (forall_unavailable_iff havailable)
  | unknownName name =>
      have hstart : ascii "Unsupported" <+: hashLibrary.unknownName := by decide
      exact iff_of_true (mapException_unknownName (List.mem_cons_self ..) hstart name) trivial
  | rejected message =>
      rcases List.mem_append.mp hfails with hmarked | hsilent
      · have hstatus := hash_texts.2.2 message hmarked
        exact iff_of_false (fun hexpected => Status.noConfusion (hstatus.symm.trans hexpected))
          fun hmissing => hmissing hmarked
      · have hstatus := mapException_silent (hash_texts.2.1 message hsilent)
        refine iff_of_true hstatus fun hmarked => ?_
        exact Status.noConfusion (hstatus.symm.trans (hash_texts.2.2 message hmarked))

/-- What a call throws is a failure of the library, and the status is the one for it
exactly when the failure is recognised.  A call that throws nothing says so. -/
structure Classified (library : Library) (recognised : Failure → Prop)
    (thrown : Option ToolException) (status : Status) : Prop where
  site : ∀ e, thrown = some e → library.Explains e
  status_iff : ∀ failure, library.Fails failure → thrown = some (library.exception failure) →
    (status = failure.expected ↔ recognised failure)
  quiet : thrown = none → status = .invalidArgument ∨ status.thrown = false

theorem classified {library : Library} {recognised : Failure → Prop}
    {thrown : Option ToolException} {status : Status}
    (hreports : Reports library.markers thrown status)
    (hexplained : ∀ e, thrown = some e → library.Explains e)
    (hstatus : ∀ failure, library.Fails failure →
      (mapException library.markers (library.exception failure) = failure.expected ↔
        recognised failure)) : Classified library recognised thrown status where
  site := hexplained
  status_iff := by
    intro failure hfails hthrown
    rw [hreports.caught _ hthrown]
    exact hstatus failure hfails
  quiet := hreports.quiet

theorem statusCodes_classify_iff (cipherApi : EvpCipherApi) (aesCall : AesCall)
    (digestApi : EvpDigestApi) (hashCall : HashCall digestApi) :
    Classified aesLibrary aesRecognised (aesCall.thrown cipherApi) (aesCall.status cipherApi) ∧
      Classified hashLibrary hashRecognised hashCall.thrown hashCall.status :=
  ⟨classified (aesCall.reports cipherApi) (aesCall.explained cipherApi) fun _ => aes_status_iff,
    classified hashCall.reports hashCall.explained fun _ => hash_status_iff⟩

/-- Digests without output. -/
def emptyScheme : HashScheme where
  size _ := 0
  blockSize _ := 64
  isXof _ := false
  errors := []
  hash _ length _ := List.replicate length 0

/-- An update without a context is a rejected argument, and reported as a failure of
OpenSSL. -/
theorem not_statusCodes_classify_nullContext :
    ¬ ((∀ (evp : EvpCipherApi) (call : AesCall) (failure : Failure),
        aesLibrary.Fails failure → call.thrown evp = some (aesLibrary.exception failure) →
          call.status evp = failure.expected) ∧
      ∀ (evp : EvpDigestApi) (call : HashCall evp) (failure : Failure),
        hashLibrary.Fails failure → call.thrown = some (hashLibrary.exception failure) →
          call.status = failure.expected) := by
  rintro ⟨-, hhash⟩
  have hstatus := hhash emptyScheme.evp (.ctxUpdate none (Buffer.null 0))
    (.rejected (ascii "Digest context is null"))
    (hash_rejects_marked (by simp [hashMarkedRejections])) rfl
  have hopenSsl : (HashCall.ctxUpdate none (Buffer.null 0) : HashCall emptyScheme.evp).status =
      .openSsl := by
    decide
  exact Status.noConfusion (hopenSsl.symm.trans hstatus)

end ShoppingWeb.Evp
