import ShoppingWeb.Evp.AesGui
import ShoppingWeb.Evp.CommandLineRoundTrip

/-!
# The round trip of the GUI

An encryption fills the output and, with a tag, the tag field.  The user takes
the output over as the input and switches to decryption; the slot of the switch
sets the padding back to what the mode has by default.  So the second press of
Execute shows the first one's input exactly if the first padding was the default
or made no difference.
-/

namespace ShoppingWeb.Evp.AesGui

open ShoppingWeb.ByteText
open ShoppingWeb.CallerMemory
open ShoppingWeb.Evp.Gui
open ShoppingWeb.Padding
open ShoppingWeb.Program
open ShoppingWeb.Shared
open ShoppingWeb.Utf16
open CipherScheme

section Class

variable {evp : EvpCipherApi} {cipherName : String} {key iv nonce aad input tag : Bytes}

/-- The name reaches the tool. -/
def nameOf (cipherName : String) : ByteString := (asCString cipherName).bytes

theorem encryptOperation_eq (hname : nameOf cipherName ≠ []) (padding : Bool) :
    encryptOperation evp (some (asCString cipherName)) (asU8 key) (asU8 iv) (asU8 input)
        (if padding then 1 else 0) =
      Evp.encrypt evp (nameOf cipherName) key iv input padding := by
  simp only [encryptOperation, requireString_some hname, makeBytes_asU8]
  cases padding <;> rfl

theorem decryptOperation_eq (hname : nameOf cipherName ≠ []) (padding : Bool) :
    decryptOperation evp (some (asCString cipherName)) (asU8 key) (asU8 iv) (asU8 input)
        (if padding then 1 else 0) =
      Evp.decrypt evp (nameOf cipherName) key iv input padding := by
  simp only [decryptOperation, requireString_some hname, makeBytes_asU8]
  cases padding <;> rfl

theorem aeadEncryptOperation_eq (hname : nameOf cipherName ≠ []) (tagLen : ℕ) :
    aeadEncryptOperation evp (some (asCString cipherName)) (asU8 key) (asU8 nonce) (asU8 aad)
        (asU8 input) tagLen =
      Evp.aeadEncrypt evp (nameOf cipherName) key nonce aad input tagLen := by
  simp only [aeadEncryptOperation, requireString_some hname, makeBytes_asU8]
  rfl

theorem aeadDecryptOperation_eq (hname : nameOf cipherName ≠ []) :
    aeadDecryptOperation evp (some (asCString cipherName)) (asU8 key) (asU8 nonce) (asU8 aad)
        (asU8 input) (asU8 tag) =
      Evp.aeadDecrypt evp (nameOf cipherName) key nonce aad input tag := by
  simp only [aeadDecryptOperation, requireString_some hname, makeBytes_asU8]
  rfl

theorem dllEncrypt_eq (hname : nameOf cipherName ≠ []) (padding : Bool) :
    EVPAESDirectDLL.encrypt evp cipherName key iv input padding =
      (Evp.encrypt evp (nameOf cipherName) key iv input padding).mapError aesDll.raisedFrom := by
  rw [← encryptOperation_eq hname]
  exact sizedCall_fillBytes aesDll _ _

theorem dllDecrypt_eq (hname : nameOf cipherName ≠ []) (padding : Bool) :
    EVPAESDirectDLL.decrypt evp cipherName key iv input padding =
      (Evp.decrypt evp (nameOf cipherName) key iv input padding).mapError aesDll.raisedFrom := by
  rw [← decryptOperation_eq hname]
  exact sizedCall_fillBytes aesDll _ _

/-- Nothing but a wrong tag is told apart. -/
theorem strict_checkVerified : Judge.Strict EVPAESDirectDLL.checkVerified where
  passes_ok reply allowed hallowed hstatus := by
    rw [EVPAESDirectDLL.checkVerified, if_neg (by simp [hstatus])]
    exact aesDll.strict_check.passes_ok reply allowed hallowed hstatus
  passes_probe reply hstatus := by
    rw [EVPAESDirectDLL.checkVerified, if_neg (by simp [hstatus])]
    exact aesDll.strict_check.passes_probe reply hstatus

/-- What the class makes of the outcome of an authenticated decryption. -/
def verifiedPlaintext : Except ToolException AeadDecryptResult → Except Raised Bytes
  | .ok result => if result.tagValid then .ok result.plaintext else .error authenticationFailed
  | .error e => .error (aesDll.raisedFrom e)

theorem dllAeadDecrypt_eq (hname : nameOf cipherName ≠ []) :
    EVPAESDirectDLL.aeadDecrypt evp cipherName key nonce aad input tag =
      verifiedPlaintext (Evp.aeadDecrypt evp (nameOf cipherName) key nonce aad input tag) := by
  simp only [EVPAESDirectDLL.aeadDecrypt, funext (evpaesdirectAeadDecrypt.eq_1 evp _ _ _ _ _ _),
    aeadDecryptOperation_eq hname]
  cases Evp.aeadDecrypt evp (nameOf cipherName) key nonce aad input tag with
  | error e =>
      have hother : mapException aesMarkers e ≠ .authFailed := mapException_ne rfl
      apply sizedCall_refused
      exact (if_neg hother).trans (aesDll.check_failed e _ thrown_allowed)
  | ok result =>
      obtain ⟨plaintext, tagValid⟩ := result
      cases tagValid with
      | true => exact sizedCall_copy strict_checkVerified plaintext _
      | false => exact sizedCall_refused rfl

theorem check_copyAeadResult (result : AeadEncryptResult) (ciphertext tag : Output) :
    aesDll.check (copyAeadResult result ciphertext tag) [.ok, .bufferTooSmall] = .ok () := by
  simp only [copyAeadResult]
  split
  · rfl
  · rfl

/-- Both results fit the buffers that are made for them. -/
theorem receive_copyAeadResult (result : AeadEncryptResult) :
    ∃ filled, copyAeadResult result
        ⟨allocate result.ciphertext.length, some result.ciphertext.length⟩
        ⟨allocate result.tag.length, some result.tag.length⟩ = filled ∧
      aesDll.check filled [.ok] = .ok () ∧ received filled.outputs.1 = result.ciphertext ∧
        received filled.outputs.2 = result.tag := by
  obtain ⟨length, extraLength, hlength, hextraLength, hdelivers⟩ :=
    twoPassPair_copyAeadResult result 0 0
  obtain ⟨hprobed, hextraProbed⟩ :=
    copyAeadResult_length result (Output.probe 0) (Output.probe 0)
  obtain rfl : result.ciphertext.length = length :=
    Option.some.inj (hprobed.symm.trans hlength)
  obtain rfl : result.tag.length = extraLength :=
    Option.some.inj (hextraProbed.symm.trans hextraLength)
  obtain ⟨hok, hciphertext, htag⟩ := hdelivers
    ⟨allocate result.ciphertext.length, some result.ciphertext.length⟩
    ⟨allocate result.tag.length, some result.tag.length⟩
    (hasLength_allocate _) (hasLength_allocate _)
  obtain ⟨hreported, hextraReported⟩ := copyAeadResult_length result
    ⟨allocate result.ciphertext.length, some result.ciphertext.length⟩
    ⟨allocate result.tag.length, some result.tag.length⟩
  refine ⟨_, rfl, aesDll.strict_check.passes_ok _ _ rfl hok, ?_, ?_⟩
  · rw [received, hciphertext, lengthValue, hreported]
    exact List.take_length
  · rw [received, htag, lengthValue, hextraReported]
    exact List.take_length

theorem dllAeadEncrypt_eq (hname : nameOf cipherName ≠ []) (tagLen : ℕ) :
    EVPAESDirectDLL.aeadEncrypt evp cipherName key nonce aad input tagLen =
      ((Evp.aeadEncrypt evp (nameOf cipherName) key nonce aad input tagLen).map
        fun result => (result.ciphertext, result.tag)).mapError aesDll.raisedFrom := by
  cases houtcome : Evp.aeadEncrypt evp (nameOf cipherName) key nonce aad input tagLen with
  | error e =>
      have hcall (ciphertext tag : Output) :
          evpaesdirectAeadEncrypt evp (some (asCString cipherName)) (asU8 key) (asU8 nonce)
            (asU8 aad) (asU8 input) tagLen ciphertext tag =
              failed aesDll.markers e (ciphertext, tag) := by
        rw [evpaesdirectAeadEncrypt, aeadEncryptOperation_eq hname, houtcome]
        rfl
      simp only [EVPAESDirectDLL.aeadEncrypt, hcall, aesDll.check_failed e _ thrown_allowed]
      rfl
  | ok result =>
      have hcall (ciphertext tag : Output) :
          evpaesdirectAeadEncrypt evp (some (asCString cipherName)) (asU8 key) (asU8 nonce)
            (asU8 aad) (asU8 input) tagLen ciphertext tag =
              copyAeadResult result ciphertext tag := by
        rw [evpaesdirectAeadEncrypt, aeadEncryptOperation_eq hname, houtcome]
      obtain ⟨hprobed, hextraProbed⟩ :=
        copyAeadResult_length result (Output.probe 0) (Output.probe 0)
      have hlength : lengthValue (copyAeadResult result (Output.probe 0)
          (Output.probe 0)).outputs.1 = result.ciphertext.length :=
        congrArg (fun length => length.getD 0) hprobed
      have hextraLength : lengthValue (copyAeadResult result (Output.probe 0)
          (Output.probe 0)).outputs.2 = result.tag.length :=
        congrArg (fun length => length.getD 0) hextraProbed
      obtain ⟨filled, hfilled, hpass, hciphertext, htag⟩ := receive_copyAeadResult result
      simp only [EVPAESDirectDLL.aeadEncrypt, hcall, check_copyAeadResult, hlength, hextraLength,
        hfilled]
      simp only [bind, Except.bind, hpass, hciphertext, htag]
      rfl

end Class

/-! ## Hex fields -/

theorem digitChar_class (value : ℕ) (hvalue : value < 16) :
    isHexDigit (Nat.digitChar value) = true ∧ digitValue (Nat.digitChar value) = some value ∧
      isAsciiSpace (Nat.digitChar value) = false := by
  revert value
  decide

theorem withoutMarkers_of_digits {s : List Char} (hdigits : ∀ c ∈ s, isHexDigit c = true) :
    withoutMarkers s = s := by
  induction s using withoutMarkers.induct with
  | case1 => rfl
  | case2 c => rfl
  | case3 c next s hmarker ih =>
      have hnext := hdigits next (by simp)
      obtain ⟨-, rfl | rfl⟩ := hmarker
      · exact absurd hnext (by decide)
      · exact absurd hnext (by decide)
  | case4 c next s hmarker ih =>
      rw [withoutMarkers, if_neg hmarker, ih fun c hmem => hdigits c (List.mem_cons_of_mem _ hmem)]

/-- The characters of `bytes.hex`. -/
def hexCharacters (data : Bytes) : List Char :=
  data.flatMap fun byte => [Nat.digitChar (byte.toNat / 16), Nat.digitChar (byte.toNat % 16)]

theorem isHexDigit_hexCharacters (data : Bytes) :
    ∀ c ∈ hexCharacters data, isHexDigit c = true := by
  intro c hmem
  obtain ⟨byte, -, hc⟩ := List.mem_flatMap.mp hmem
  have hbyte := byte.toNat_lt
  simp only [List.mem_cons, List.not_mem_nil, or_false] at hc
  rcases hc with rfl | rfl
  · exact (digitChar_class _ (by omega)).1
  · exact (digitChar_class _ (by omega)).1

theorem fromhex_hexCharacters (data : Bytes) : fromhex (hexCharacters data) = some data := by
  induction data with
  | nil => rfl
  | cons byte data ih =>
      have hbyte := byte.toNat_lt
      obtain ⟨-, hhigh, hspace⟩ := digitChar_class (byte.toNat / 16) (by omega)
      obtain ⟨-, hlow, -⟩ := digitChar_class (byte.toNat % 16) (by omega)
      have hsplit : byte.toNat / 16 * 16 + byte.toNat % 16 = byte.toNat := by omega
      have hcons : hexCharacters (byte :: data) = Nat.digitChar (byte.toNat / 16) ::
          Nat.digitChar (byte.toNat % 16) :: hexCharacters data := rfl
      rw [hcons, fromhex, hspace, if_neg Bool.noConfusion, hhigh, hlow, ih]
      change some (UInt8.ofNat (byte.toNat / 16 * 16 + byte.toNat % 16) :: data) = _
      rw [hsplit, UInt8.ofNat_toNat]

theorem length_hexCharacters (data : Bytes) : (hexCharacters data).length = 2 * data.length := by
  simp [hexCharacters, List.length_flatMap, Nat.mul_comm]

/-- What the GUI shows as hex it reads back. -/
theorem hexToBytesPy_hexPy (data : Bytes) (fieldName : String) :
    hexToBytesPy (hexPy data) fieldName = .ok data := by
  have hdigits := isHexDigit_hexCharacters data
  have hclean : cleanHex (hexPy data).toList = hexCharacters data := by
    rw [cleanHex_eq, hexPy, String.toList_ofList, ← hexCharacters,
      withoutMarkers_of_digits hdigits, List.filter_eq_self]
    exact hdigits
  rw [hexToBytesPy, hclean]
  by_cases hempty : data = []
  · subst hempty
    rfl
  · have hfull : hexCharacters data ≠ [] := by
      rw [ne_eq, ← List.length_eq_zero_iff, length_hexCharacters]
      simpa using hempty
    simp [hfull, length_hexCharacters, fromhex_hexCharacters]

theorem hexPy_injective : Function.Injective hexPy := by
  intro first second hsame
  have hread := congrArg (fun text => hexToBytesPy text "") hsame
  simpa only [hexToBytesPy_hexPy, Except.ok.injEq] using hread

/-- The padding of a call makes a difference. -/
def padsBlocks (mode : AesMode) : Bool := mode.isBlockwise && mode.blockLength != 1

/-- For the modes without authentication the GUI's default is to pad where that
makes a difference. -/
def defaultFits (name : String) : Bool :=
  nameOf name != [] &&
    if isAeadName name then !defaultPaddingForCipher name
    else
      match resolveCipher (nameOf name) with
      | .ok cipher => padsBlocks cipher.mode == defaultPaddingForCipher name
      | .error _ => false

theorem defaultFits_listed : (classicalModes ++ aeadModes).all defaultFits = true := by
  decide

namespace CipherItem

variable (item : CipherItem)

theorem defaultFits : AesGui.defaultFits item.name = true :=
  List.all_eq_true.mp defaultFits_listed item.name (List.contains_iff_mem.mp item.listed)

theorem nameOf_ne_nil : nameOf item.name ≠ [] := by
  have hfits := item.defaultFits
  simp only [AesGui.defaultFits, Bool.and_eq_true, bne_iff_ne] at hfits
  exact hfits.1

theorem defaultPadding_aead (haead : isAeadName item.name = true) :
    defaultPaddingForCipher item.name = false := by
  have hfits := item.defaultFits
  simpa [AesGui.defaultFits, haead] using (Bool.and_eq_true_iff.mp hfits).2

theorem padsBlocks_eq {cipher : EvpCipher} (hclassical : isAeadName item.name = false)
    (hcipher : resolveCipher (nameOf item.name) = .ok cipher) :
    padsBlocks cipher.mode = defaultPaddingForCipher item.name := by
  have hfits := item.defaultFits
  simpa [AesGui.defaultFits, hclassical, hcipher] using (Bool.and_eq_true_iff.mp hfits).2

end CipherItem

section Padding

variable {scheme : CipherScheme} {cipher : EvpCipher} {key plaintext ciphertext : Bytes}
  {iv : Option Bytes} {padding : Bool}

theorem encrypts_of_not_padsBlocks (hmode : padsBlocks cipher.mode = false) (padding' : Bool) :
    scheme.Encrypts cipher key iv padding plaintext ciphertext ↔
      scheme.Encrypts cipher key iv padding' plaintext ciphertext := by
  cases hblockwise : cipher.mode.isBlockwise with
  | false => simp only [Encrypts, hblockwise, Bool.false_eq_true, if_false]
  | true =>
      have hone : cipher.mode.blockLength = 1 := by simpa [padsBlocks, hblockwise] using hmode
      simp only [Encrypts, messageOf, hone, ne_eq, not_true, and_false, if_false]

/-- Padding adds at least a byte. -/
theorem not_encrypts_padded (hmode : padsBlocks cipher.mode = true)
    (hencrypts : scheme.Encrypts cipher key iv false plaintext ciphertext) :
    ¬ scheme.Encrypts cipher key iv true plaintext ciphertext := by
  obtain ⟨hblockwise, hblock⟩ := Bool.and_eq_true_iff.mp hmode
  rw [bne_iff_ne] at hblock
  intro hpadded
  have hshort := congrArg List.length ((encrypts_iff_transform hblockwise).mp hencrypts).2
  have hlong := congrArg List.length ((encrypts_iff_transform hblockwise).mp hpadded).2
  rw [scheme.length_transform, messageOf, if_neg (by simp)] at hshort
  rw [scheme.length_transform, messageOf, if_pos ⟨rfl, hblock⟩, length_pad] at hlong
  have hfill := fill_pos (blockLength_pos cipher.mode) plaintext.length
  omega

end Padding

section Writing

variable {os : Os} {files : Files} {window : Window} {data : Bytes} {shown : Desktop}

/-- The output has a place. -/
def CanWrite (os : Os) (window : Window) : Prop :=
  window.outputType = .file →
    stripPath window.outputFile ≠ "" ∧ os.unwritable (stripPath window.outputFile) = none

/-- The output fields show the bytes, or the output file has them. -/
def Shows (desktop : Desktop) (data : Bytes) : Prop :=
  match desktop.2.outputType with
  | .hex => desktop.2.outputData = hexPy data
  | .text => desktop.2.outputData = bytesToTextLossy data
  | .file => desktop.1 (stripPath desktop.2.outputFile) = some data

/-- A window but for what its output field shows. -/
def withOutput (window : Window) (outputData : String) : Window := { window with outputData }

theorem writeOutputBytes_ok (hwrite : writeOutputBytes os files window data = .ok shown) :
    CanWrite os window ∧ Shows shown data ∧
      ∃ outputData, shown.2 = withOutput window outputData := by
  unfold writeOutputBytes at hwrite
  split at hwrite
  · rename_i htype
    simp only at hwrite
    split_ifs at hwrite with hpath
    obtain ⟨written, hwritten, hshown⟩ := except_bind_ok.mp hwrite
    unfold Os.write at hwritten
    split at hwritten
    · rename_i hallowed
      obtain rfl := Except.ok.inj hwritten
      obtain rfl := Except.ok.inj hshown
      exact ⟨fun _ => ⟨hpath, hallowed⟩, by simp [Shows, htype], _, rfl⟩
    · cases hwritten
  · rename_i htype
    obtain rfl := Except.ok.inj hwrite
    exact ⟨fun hfile => by simp [htype] at hfile, by simp [Shows, htype], _, rfl⟩
  · rename_i htype
    obtain rfl := Except.ok.inj hwrite
    exact ⟨fun hfile => by simp [htype] at hfile, by simp [Shows, htype], _, rfl⟩

theorem exists_write (hcan : CanWrite os window) (files : Files) (data : Bytes) :
    ∃ shown, writeOutputBytes os files window data = .ok shown := by
  unfold writeOutputBytes
  split
  · rename_i htype
    obtain ⟨hpath, hallowed⟩ := hcan htype
    exact ⟨_, by simp only [Os.write, hpath, if_false, hallowed]; rfl⟩
  · exact ⟨_, rfl⟩
  · exact ⟨_, rfl⟩

/-- What is shown as hex or stored is known. -/
theorem Shows.eq {desktop : Desktop} {first second : Bytes}
    (hbinary : desktop.2.outputType ≠ .text) (hfirst : Shows desktop first)
    (hsecond : Shows desktop second) : first = second := by
  unfold Shows at hfirst hsecond
  cases htype : desktop.2.outputType with
  | hex =>
      simp only [htype] at hfirst hsecond
      exact hexPy_injective (hfirst.symm.trans hsecond)
  | text => exact absurd htype hbinary
  | file =>
      simp only [htype] at hfirst hsecond
      exact Option.some.inj (hfirst.symm.trans hsecond)

end Writing

/-! ## Taking the output over -/

/-- The user switches to decryption and makes the output the input. -/
def carryOver (window : Window) : List Action :=
  match window.outputType with
  | .file => [.operation .decrypt, .inputType .file, .inputFile window.outputFile]
  | .hex | .text => [.operation .decrypt, .inputType .hex, .inputData window.outputData]

/-- The window after that. -/
def carried (window : Window) : Window :=
  let switched := updateFields { window with operation := .decrypt }
  match window.outputType with
  | .file => { switched with inputType := .file, inputFile := window.outputFile }
  | .hex | .text => { switched with inputType := .hex, inputData := window.outputData }

theorem run_carryOver (evp : EvpCipherApi) (os : Os) {desktop : Desktop}
    (hencrypt : desktop.2.operation = .encrypt) :
    run evp os desktop (carryOver desktop.2) = (desktop.1, carried desktop.2) := by
  have hswitch : Operation.decrypt ≠ desktop.2.operation := by simp [hencrypt]
  cases htype : desktop.2.outputType <;>
    simp only [run, carryOver, carried, htype, List.foldl_cons, List.foldl_nil, step,
      chooseOperation, if_neg hswitch]

/-- The second window has the first one's cipher and keys, and the padding that
the slot sets. -/
structure Carried (window second : Window) : Prop where
  operation : second.operation = .decrypt
  cipher : second.cipher = window.cipher
  keyHex : second.keyHex = window.keyHex
  ivHex : second.ivHex = window.ivHex
  nonceHex : second.nonceHex = window.nonceHex
  aadType : second.aadType = window.aadType
  aad : second.aad = window.aad
  tagHex : second.tagHex = window.tagHex
  outputType : second.outputType = window.outputType
  outputFile : second.outputFile = window.outputFile
  padding : second.padding = (updateFields window).padding

theorem carried_carried (window : Window) : Carried window (carried window) := by
  unfold carried
  split
  · exact ⟨rfl, rfl, rfl, rfl, rfl, rfl, rfl, rfl, rfl, rfl, rfl⟩
  · exact ⟨rfl, rfl, rfl, rfl, rfl, rfl, rfl, rfl, rfl, rfl, rfl⟩
  · exact ⟨rfl, rfl, rfl, rfl, rfl, rfl, rfl, rfl, rfl, rfl, rfl⟩

/-- The second window reads what the first one wrote. -/
theorem readInputBytes_carried {os : Os} {desktop : Desktop} {data : Bytes}
    (hbinary : desktop.2.outputType ≠ .text) (hcan : CanWrite os desktop.2)
    (hshows : Shows desktop data) :
    readInputBytes os desktop.1 (carried desktop.2) = .ok data := by
  unfold Shows at hshows
  cases htype : desktop.2.outputType with
  | hex =>
      simp only [htype] at hshows
      simp only [carried, htype, readInputBytes, hshows]
      exact hexToBytesPy_hexPy data _
  | text => exact absurd htype hbinary
  | file =>
      simp only [htype] at hshows
      obtain ⟨hpath, -⟩ := hcan htype
      simp only [carried, htype, readInputBytes, hpath, if_false, Os.read, hshows]

theorem mapError_eq_ok {Value Error Error' : Type} {outcome : Except Error Value}
    {raise : Error → Error'} {value : Value} :
    outcome.mapError raise = .ok value ↔ outcome = .ok value := by
  cases outcome <;> simp [Except.mapError]

/-- The IV of a mode without authentication. -/
def ivBytes (window : Window) : Except Raised Bytes :=
  if classicalUsesIv window.cipher.name then hexToBytesPy window.ivHex "IV/tweak hex" else .ok []

section Execute

variable {evp : EvpCipherApi} {os : Os} {files : Files} {window : Window} {after : Desktop}
  {key nonce aad iv input tag : Bytes}

/-- What Execute asks the tool for in a mode without authentication. -/
def classicalOutcome (evp : EvpCipherApi) (window : Window) (key iv input : Bytes) :
    Except ToolException Bytes :=
  match window.operation with
  | .encrypt => Evp.encrypt evp (nameOf window.cipher.name) key iv input
      (selectedPaddingBool window)
  | .decrypt => Evp.decrypt evp (nameOf window.cipher.name) key iv input
      (selectedPaddingBool window)

theorem execute_classical_ok (hclassical : isAeadName window.cipher.name = false)
    (hkey : hexToBytesPy window.keyHex "key hex" = .ok key)
    (hinput : readInputBytes os files window = .ok input) :
    execute evp os files window = .ok after ↔
      ∃ iv, ivBytes window = .ok iv ∧
        ∃ out, classicalOutcome evp window key iv input = .ok out ∧
          writeOutputBytes os files window out = .ok after := by
  have hname := window.cipher.nameOf_ne_nil
  have hexecute : execute evp os files window = executeClassical evp os files window key input := by
    simp [execute, hkey, hinput, hclassical, bind, Except.bind]
  rw [hexecute]
  unfold executeClassical classicalOutcome ivBytes
  cases window.operation <;> cases huses : classicalUsesIv window.cipher.name <;>
    simp only [huses, if_true, Bool.false_eq_true, if_false, except_bind_ok,
      dllEncrypt_eq hname, dllDecrypt_eq hname, mapError_eq_ok]

theorem execute_ok_key (hexecute : execute evp os files window = .ok after) :
    ∃ key, hexToBytesPy window.keyHex "key hex" = .ok key := by
  obtain ⟨key, hkey, -⟩ := except_bind_ok.mp hexecute
  exact ⟨key, hkey⟩

/-- Execute writes the output field and the tag field. -/
theorem window_execute (hexecute : execute evp os files window = .ok after) :
    ∃ outputData tagHex, after.2 = { withOutput window outputData with tagHex } := by
  have hwritten {data : Bytes} {shown : Desktop}
      (hwrite : writeOutputBytes os files window data = .ok shown) :
      ∃ outputData tagHex, shown.2 = { withOutput window outputData with tagHex } := by
    obtain ⟨-, -, outputData, hshown⟩ := writeOutputBytes_ok hwrite
    exact ⟨outputData, window.tagHex, hshown⟩
  obtain ⟨key, -, hexecute⟩ := except_bind_ok.mp hexecute
  obtain ⟨data, -, hexecute⟩ := except_bind_ok.mp hexecute
  split at hexecute
  · obtain ⟨nonce, -, hexecute⟩ := except_bind_ok.mp hexecute
    obtain ⟨aad, -, hexecute⟩ := except_bind_ok.mp hexecute
    split at hexecute
    · obtain ⟨result, -, hexecute⟩ := except_bind_ok.mp hexecute
      obtain ⟨written, hwrite, hafter⟩ := except_bind_ok.mp hexecute
      obtain rfl := Except.ok.inj hafter
      obtain ⟨outputData, tagHex, hwindow⟩ := hwritten hwrite
      exact ⟨outputData, hexPy result.2, by rw [hwindow]⟩
    · obtain ⟨tag, -, hexecute⟩ := except_bind_ok.mp hexecute
      obtain ⟨plaintext, -, hexecute⟩ := except_bind_ok.mp hexecute
      exact hwritten hexecute
  · cases huses : classicalUsesIv window.cipher.name <;>
      cases hoperation : window.operation <;>
      simp only [executeClassical, huses, hoperation, if_true, Bool.false_eq_true, if_false,
        except_bind_ok] at hexecute <;>
      obtain ⟨_, -, _, -, hwrite⟩ := hexecute <;>
      exact hwritten hwrite

theorem execute_aead_encrypting (haead : isAeadName window.cipher.name = true)
    (hencrypt : window.operation = .encrypt)
    (hkey : hexToBytesPy window.keyHex "key hex" = .ok key)
    (hinput : readInputBytes os files window = .ok input)
    (hexecute : execute evp os files window = .ok after) :
    ∃ nonce aad result written, hexToBytesPy window.nonceHex "nonce hex" = .ok nonce ∧
      readAadBytes window = .ok aad ∧
      Evp.aeadEncrypt evp (nameOf window.cipher.name) key nonce aad input window.tagLen.value =
        .ok result ∧
      writeOutputBytes os files window result.ciphertext = .ok written ∧
      after = (written.1, { written.2 with tagHex := hexPy result.tag }) := by
  have hname := window.cipher.nameOf_ne_nil
  have haeadRun : execute evp os files window = executeAead evp os files window key input := by
    simp [execute, hkey, hinput, haead, bind, Except.bind]
  rw [haeadRun] at hexecute
  simp only [executeAead, hencrypt, except_bind_ok, dllAeadEncrypt_eq hname, mapError_eq_ok]
    at hexecute
  obtain ⟨nonce, hnonce, aad, haad, pair, hpair, written, hwritten, hafter⟩ := hexecute
  cases houtcome : Evp.aeadEncrypt evp (nameOf window.cipher.name) key nonce aad input
      window.tagLen.value with
  | error e => simp [houtcome, Except.map] at hpair
  | ok result =>
      rw [houtcome] at hpair
      obtain rfl := Except.ok.inj hpair
      exact ⟨nonce, aad, result, written, hnonce, haad, houtcome, hwritten,
        (Except.ok.inj hafter).symm⟩

theorem execute_aead_decrypting {plaintext : Bytes}
    (haead : isAeadName window.cipher.name = true) (hdecrypt : window.operation = .decrypt)
    (hkey : hexToBytesPy window.keyHex "key hex" = .ok key)
    (hinput : readInputBytes os files window = .ok input)
    (hnonce : hexToBytesPy window.nonceHex "nonce hex" = .ok nonce)
    (haad : readAadBytes window = .ok aad)
    (htag : hexToBytesPy window.tagHex "tag hex" = .ok tag)
    (houtcome : Evp.aeadDecrypt evp (nameOf window.cipher.name) key nonce aad input tag =
      .ok ⟨plaintext, true⟩) :
    execute evp os files window = writeOutputBytes os files window plaintext := by
  have hname := window.cipher.nameOf_ne_nil
  simp [execute, hkey, hinput, haead, executeAead, hnonce, haad, hdecrypt, htag,
    dllAeadDecrypt_eq hname, houtcome, verifiedPlaintext, bind, Except.bind]

end Execute

/-! ## Decrypting with the default padding -/

theorem selectedPaddingBool_updateFields {window second : Window}
    (hclassical : isAeadName window.cipher.name = false) (hcarried : Carried window second) :
    selectedPaddingBool second = defaultPaddingForCipher window.cipher.name := by
  have hpadding : second.padding =
      if !defaultPaddingForCipher window.cipher.name then .nopad else .auto := by
    rw [hcarried.padding, updateFields]
    simp [hclassical]
  unfold selectedPaddingBool
  rw [hpadding, hcarried.cipher]
  cases defaultPaddingForCipher window.cipher.name <;> rfl

/-- Decrypting under the default padding gives the plaintext back exactly if
padding was on, or would not be on by default. -/
theorem decrypt_default_iff {library : AesLibrary} {item : CipherItem}
    {key iv plaintext ciphertext : Bytes} {padding : Bool}
    (hclassical : isAeadName item.name = false)
    (hencrypt : Evp.encrypt library.evp (nameOf item.name) key iv plaintext padding =
      .ok ciphertext) (hsize : plaintext.length + 16 ≤ INT_MAX) :
    Evp.decrypt library.evp (nameOf item.name) key iv ciphertext
        (defaultPaddingForCipher item.name) = .ok plaintext ↔
      padding = true ∨ defaultPaddingForCipher item.name = false := by
  rw [encrypt_embeds library.embeds_classical fun _ => id] at hencrypt
  rw [decrypt_embeds library.embeds_classical fun _ => id]
  obtain ⟨cipher, hcall, -, hencrypts⟩ := encrypt_ok_iff.mp hencrypt
  have hresolved {other : EvpCipher} {encrypting : Bool}
      (hother : AcceptsCall library.classical encrypting (nameOf item.name) key iv other) :
      resolveCipher (nameOf item.name) = .ok other := by
    obtain ⟨canonical, hcanonical, hfound⟩ := except_bind_ok.mp hother.resolved
    obtain rfl := Except.ok.inj
      ((normalizeCipherName_idempotent hother.normalized).symm.trans hcanonical)
    rw [resolveCipher, hother.normalized]
    simp only [bind, Except.bind]
    split at hfound
    · exact hfound
    · cases hfound
  have hpads := item.padsBlocks_eq hclassical (hresolved hcall)
  have hdecrypts : Evp.decrypt library.classical.evp (nameOf item.name) key iv ciphertext
        (defaultPaddingForCipher item.name) = .ok plaintext ↔
      library.classical.Encrypts cipher key (ivPointer iv) (defaultPaddingForCipher item.name)
        plaintext ciphertext := by
    rw [decrypt_ok_iff]
    constructor
    · rintro ⟨other, hother, -, hencrypts'⟩
      obtain rfl := Except.ok.inj ((hresolved hcall).symm.trans (hresolved hother))
      exact hencrypts'
    · intro hencrypts'
      exact ⟨cipher, (acceptsCall_encrypting_iff.mp hcall).1,
        length_le_of_encrypts hencrypts hsize, hencrypts'⟩
  rw [hdecrypts]
  cases hdefault : defaultPaddingForCipher item.name with
  | false =>
      apply iff_of_true _ (.inr rfl)
      exact (encrypts_of_not_padsBlocks (hpads.trans hdefault) false).mp hencrypts
  | true =>
      cases padding with
      | true => exact iff_of_true hencrypts (.inl rfl)
      | false =>
          apply iff_of_false (not_encrypts_padded (hpads.trans hdefault) hencrypts)
          simp

/-- Pressing Execute succeeds and shows the bytes. -/
def ExecutesTo (library : AesLibrary) (os : Os) (desktop : Desktop) (data : Bytes) : Prop :=
  ∃ shown, execute library.evp os desktop.1 desktop.2 = .ok shown ∧ Shows shown data

/-- Padding is not switched off where the default is to pad. -/
def KeepsDefault (window : Window) : Prop :=
  ¬ (window.padding = .nopad ∧ defaultPaddingForCipher window.cipher.name = true)

/-- Padding is on, or off by default. -/
theorem selectedPaddingBool_iff (window : Window) :
    (selectedPaddingBool window = true ∨ defaultPaddingForCipher window.cipher.name = false) ↔
      KeepsDefault window := by
  unfold selectedPaddingBool KeepsDefault
  cases window.padding <;> cases defaultPaddingForCipher window.cipher.name <;> simp

section RoundTrip

variable {library : AesLibrary} {os : Os} {files : Files} {window : Window} {after : Desktop}
  {plaintext : Bytes}

/-- A written output is shown by a second window with the same output fields. -/
theorem shows_write_iff {second : Window} {out : Bytes} {shown : Desktop}
    (hbinary : second.outputType ≠ .text)
    (hwrite : writeOutputBytes os files second out = .ok shown) (data : Bytes) :
    Shows shown data ↔ out = data := by
  obtain ⟨-, hshows, outputData, hwindow⟩ := writeOutputBytes_ok hwrite
  have hbinary' : shown.2.outputType ≠ .text := by
    rw [hwindow]
    exact hbinary
  constructor
  · exact Shows.eq hbinary' hshows
  · rintro rfl
    exact hshows

theorem canWrite_carried {written : Window} (hcan : CanWrite os window)
    (htype : written.outputType = window.outputType)
    (hfile : written.outputFile = window.outputFile) : CanWrite os written := by
  unfold CanWrite
  rw [htype, hfile]
  exact hcan

/-- The second window has the first one's settings, may write and reads what the
first one wrote. -/
theorem carried_of_write {out : Bytes} {written : Desktop} (tagHex : String)
    (hbinary : window.outputType ≠ .text)
    (hwrite : writeOutputBytes os files window out = .ok written) :
    Carried { window with tagHex } (carried { written.2 with tagHex }) ∧
      CanWrite os (carried { written.2 with tagHex }) ∧
      readInputBytes os written.1 (carried { written.2 with tagHex }) = .ok out := by
  obtain ⟨hcan, hshows, outputData, hwritten⟩ := writeOutputBytes_ok hwrite
  obtain ⟨files', written⟩ := written
  obtain rfl : written = withOutput window outputData := hwritten
  have hcarried := carried_carried { withOutput window outputData with tagHex }
  refine ⟨?_, canWrite_carried hcan hcarried.outputType hcarried.outputFile, ?_⟩
  · exact ⟨hcarried.operation, hcarried.cipher, hcarried.keyHex, hcarried.ivHex,
      hcarried.nonceHex, hcarried.aadType, hcarried.aad, hcarried.tagHex, hcarried.outputType,
      hcarried.outputFile, hcarried.padding⟩
  · exact @readInputBytes_carried os (files', { withOutput window outputData with tagHex }) out
      hbinary hcan hshows

/-- In a mode without authentication the second window decrypts what it reads
with the default padding. -/
theorem execute_carried_classical {second : Window} {key iv ciphertext : Bytes}
    (hclassical : isAeadName window.cipher.name = false) (hcarried : Carried window second)
    (hkey : hexToBytesPy window.keyHex "key hex" = .ok key) (hiv : ivBytes window = .ok iv)
    (hread : readInputBytes os files second = .ok ciphertext) (shown : Desktop) :
    execute library.evp os files second = .ok shown ↔
      ∃ out, Evp.decrypt library.evp (nameOf window.cipher.name) key iv ciphertext
          (defaultPaddingForCipher window.cipher.name) = .ok out ∧
        writeOutputBytes os files second out = .ok shown := by
  have houtcome : classicalOutcome library.evp second key iv ciphertext =
      Evp.decrypt library.evp (nameOf window.cipher.name) key iv ciphertext
        (defaultPaddingForCipher window.cipher.name) := by
    rw [classicalOutcome, hcarried.operation, hcarried.cipher,
      ← selectedPaddingBool_updateFields hclassical hcarried]
  have hiv' : ivBytes second = .ok iv := by
    rw [ivBytes, hcarried.cipher, hcarried.ivHex]
    exact hiv
  rw [execute_classical_ok (hcarried.cipher ▸ hclassical) (hcarried.keyHex ▸ hkey) hread]
  simp only [hiv', houtcome, Except.ok.injEq, exists_eq_left']

theorem executesTo_classical_iff (hclassical : isAeadName window.cipher.name = false)
    (hencrypt : window.operation = .encrypt) (hbinary : window.outputType ≠ .text)
    (hinput : readInputBytes os files window = .ok plaintext)
    (hsize : plaintext.length + 16 ≤ INT_MAX)
    (hexecute : execute library.evp os files window = .ok after) :
    ExecutesTo library os (after.1, carried after.2) plaintext ↔ KeepsDefault window := by
  obtain ⟨key, hkey⟩ := execute_ok_key hexecute
  obtain ⟨iv, hiv, ciphertext, hciphertext, hwrite⟩ :=
    (execute_classical_ok hclassical hkey hinput).mp hexecute
  obtain ⟨-, -, outputData, hafter⟩ := writeOutputBytes_ok hwrite
  obtain ⟨files', after⟩ := after
  obtain rfl : after = withOutput window outputData := hafter
  obtain ⟨hcarried, hcan, hread⟩ :
      Carried window (carried (withOutput window outputData)) ∧
        CanWrite os (carried (withOutput window outputData)) ∧
        readInputBytes os files' (carried (withOutput window outputData)) = .ok ciphertext :=
    carried_of_write window.tagHex hbinary hwrite
  have hbinary' : (carried (withOutput window outputData)).outputType ≠ .text := by
    rwa [hcarried.outputType]
  have hencrypted : Evp.encrypt library.evp (nameOf window.cipher.name) key iv plaintext
      (selectedPaddingBool window) = .ok ciphertext := by
    rwa [classicalOutcome, hencrypt] at hciphertext
  have hexecutes := @execute_carried_classical library os files' window _ key iv ciphertext
    hclassical hcarried hkey hiv hread
  rw [← selectedPaddingBool_iff, ← decrypt_default_iff hclassical hencrypted hsize]
  constructor
  · rintro ⟨shown, hshown, hplaintext⟩
    obtain ⟨out, hout, hwritten⟩ := (hexecutes shown).mp hshown
    obtain rfl := (shows_write_iff hbinary' hwritten plaintext).mp hplaintext
    exact hout
  · intro hdecrypt
    obtain ⟨shown, hwritten⟩ := exists_write hcan files' plaintext
    exact ⟨shown, (hexecutes shown).mpr ⟨plaintext, hdecrypt, hwritten⟩,
      (shows_write_iff hbinary' hwritten plaintext).mpr rfl⟩

theorem executesTo_aead (haead : isAeadName window.cipher.name = true)
    (hencrypt : window.operation = .encrypt) (hbinary : window.outputType ≠ .text)
    (hinput : readInputBytes os files window = .ok plaintext)
    (hexecute : execute library.evp os files window = .ok after) :
    ExecutesTo library os (after.1, carried after.2) plaintext := by
  obtain ⟨key, hkey⟩ := execute_ok_key hexecute
  obtain ⟨nonce, aad, result, written, hnonce, haad, hencrypted, hwrite, rfl⟩ :=
    execute_aead_encrypting haead hencrypt hkey hinput hexecute
  obtain ⟨-, hdecrypted⟩ := aeadDecrypt_of_aeadEncrypt hencrypted
  obtain ⟨hcarried, hcan, hread⟩ := carried_of_write (hexPy result.tag) hbinary hwrite
  obtain ⟨shown, hshown⟩ := exists_write hcan written.1 plaintext
  have hcipher : (carried { written.2 with tagHex := hexPy result.tag }).cipher = window.cipher :=
    hcarried.cipher
  refine ⟨shown, ?_, (shows_write_iff (hcarried.outputType ▸ hbinary) hshown plaintext).mpr rfl⟩
  rw [← hshown]
  apply execute_aead_decrypting (hcipher ▸ haead) hcarried.operation (hcarried.keyHex ▸ hkey) hread
    (hcarried.nonceHex ▸ hnonce)
  · rw [readAadBytes, hcipher, hcarried.aadType, hcarried.aad]
    exact haad
  · rw [hcarried.tagHex]
    exact hexToBytesPy_hexPy result.tag _
  · rw [hcipher]
    exact hdecrypted

theorem executesTo_carryOver_iff (hencrypt : window.operation = .encrypt)
    (hbinary : window.outputType ≠ .text)
    (hinput : readInputBytes os files window = .ok plaintext)
    (hsize : plaintext.length + 16 ≤ INT_MAX)
    (hexecute : execute library.evp os files window = .ok after) :
    ExecutesTo library os (run library.evp os after (carryOver after.2)) plaintext ↔
      KeepsDefault window := by
  have hoperation : after.2.operation = .encrypt := by
    obtain ⟨outputData, tagHex, hwindow⟩ := window_execute hexecute
    rw [hwindow]
    exact hencrypt
  rw [run_carryOver library.evp os hoperation]
  cases hcipher : isAeadName window.cipher.name with
  | true =>
      apply iff_of_true (executesTo_aead hcipher hencrypt hbinary hinput hexecute)
      simp [KeepsDefault, window.cipher.defaultPadding_aead hcipher]
  | false =>
      exact executesTo_classical_iff hcipher hencrypt hbinary hinput hsize hexecute

end RoundTrip

/-- After an encryption the user takes the output over and switches to
decryption: Execute shows the input again, unless padding was switched off in a
mode whose default is to pad. -/
theorem execute_carryOver_iff (library : AesLibrary) (os : Os) (files : Files) (window : Window)
    (after : Desktop) (plaintext : Bytes) (hencrypt : window.operation = .encrypt)
    (hbinary : window.outputType ≠ .text)
    (hinput : readInputBytes os files window = .ok plaintext)
    (hsize : plaintext.length + 16 ≤ INT_MAX)
    (hexecute : execute library.evp os files window = .ok after) :
    ExecutesTo library os (run library.evp os after (carryOver after.2)) plaintext ↔
      ¬ (window.padding = .nopad ∧ defaultPaddingForCipher window.cipher.name = true) :=
  executesTo_carryOver_iff hencrypt hbinary hinput hsize hexecute

theorem exists_execute_gcmVector :
    ∃ after, execute demoLibrary.evp ⟨fun _ => "", fun _ => none⟩ (fun _ => none)
      (loadGcmVector initialWindow) = .ok after := by
  cases hexecute : execute demoLibrary.evp ⟨fun _ => "", fun _ => none⟩ (fun _ => none)
      (loadGcmVector initialWindow) with
  | ok after => exact ⟨after, rfl⟩
  | error e =>
      have hok : (execute demoLibrary.evp ⟨fun _ => "", fun _ => none⟩ (fun _ => none)
        (loadGcmVector initialWindow)).isOk = true := by decide
      rw [hexecute] at hok
      cases hok

/-- The sample vector of the window's button, over files that are never used. -/
theorem execute_carryOver_gcmVector :
    ∃ after, execute demoLibrary.evp ⟨fun _ => "", fun _ => none⟩ (fun _ => none)
        (loadGcmVector initialWindow) = .ok after ∧
      ExecutesTo demoLibrary ⟨fun _ => "", fun _ => none⟩
        (run demoLibrary.evp ⟨fun _ => "", fun _ => none⟩ after (carryOver after.2))
        (List.replicate 16 0) := by
  obtain ⟨after, hexecute⟩ := exists_execute_gcmVector
  refine ⟨after, hexecute, ?_⟩
  exact (execute_carryOver_iff demoLibrary _ _ _ after _ rfl (by decide) (by decide) (by decide)
    hexecute).mpr (by decide)

/-! ## Runs -/

section Runs

variable {evp : EvpCipherApi} {os : Os} {files : Files} {window : Window} {desktop after : Desktop}

theorem keepsDefault_updateFields (window : Window) : KeepsDefault (updateFields window) := by
  rintro ⟨hnopad, hdefault⟩
  cases haead : isAeadName window.cipher.name with
  | true => exact Bool.noConfusion ((window.cipher.defaultPadding_aead haead).symm.trans hdefault)
  | false =>
      have hdefault' : defaultPaddingForCipher window.cipher.name = true := hdefault
      simp [updateFields, haead, hdefault'] at hnopad

theorem keepsDefault_chooseOperation (operation : Operation) (hkeeps : KeepsDefault window) :
    KeepsDefault (chooseOperation operation window) := by
  unfold chooseOperation
  split
  · exact hkeeps
  · exact keepsDefault_updateFields _

theorem keepsDefault_chooseCipher (cipher : CipherItem) (hkeeps : KeepsDefault window) :
    KeepsDefault (chooseCipher cipher window) := by
  unfold chooseCipher
  split
  · exact hkeeps
  · exact keepsDefault_updateFields _

/-- A random key leaves the cipher and the padding alone. -/
theorem window_generateRandomKey
    {randomKey randomIv : (count : ℕ) → {bytes : Bytes // bytes.length = count}} {next : Window}
    (hrandom : generateRandomKey evp randomKey randomIv window = .ok next) :
    next.cipher = window.cipher ∧ next.padding = window.padding := by
  obtain ⟨keyLen, -, hrandom⟩ := except_bind_ok.mp hrandom
  obtain ⟨ivLen, -, hrandom⟩ := except_bind_ok.mp hrandom
  simp only at hrandom
  split_ifs at hrandom
  · obtain rfl := Except.ok.inj hrandom
    exact ⟨rfl, rfl⟩
  · obtain rfl := Except.ok.inj hrandom
    exact ⟨rfl, rfl⟩
  · obtain rfl := Except.ok.inj hrandom
    exact ⟨rfl, rfl⟩

theorem keepsDefault_edit {enabled : Bool} {edited : Window} (hkeeps : KeepsDefault desktop.2)
    (hedited : KeepsDefault edited) : KeepsDefault (desktop.edit enabled edited).2 := by
  unfold Desktop.edit
  split
  · exact hedited
  · exact hkeeps

theorem keepsDefault_step {action : Action} (hchoice : action ≠ .padding .nopad)
    (hkeeps : KeepsDefault desktop.2) : KeepsDefault (step evp os desktop action).2 := by
  cases action with
  | operation choice => exact keepsDefault_chooseOperation choice hkeeps
  | cipher choice => exact keepsDefault_chooseCipher choice hkeeps
  | padding choice =>
      apply keepsDefault_edit hkeeps
      rintro ⟨hnopad, -⟩
      exact hchoice (congrArg Action.padding hnopad)
  | ivHex text => exact keepsDefault_edit hkeeps hkeeps
  | nonceHex text => exact keepsDefault_edit hkeeps hkeeps
  | tagLen length => exact keepsDefault_edit hkeeps hkeeps
  | aadType choice => exact keepsDefault_edit hkeeps hkeeps
  | aad text => exact keepsDefault_edit hkeeps hkeeps
  | tagHex text => exact keepsDefault_edit hkeeps hkeeps
  | loadGcmVector => exact keepsDefault_updateFields _
  | generateRandomKey randomKey randomIv =>
      simp only [step]
      split
      · rename_i next hrandom
        obtain ⟨hcipher, hpadding⟩ := window_generateRandomKey hrandom
        unfold KeepsDefault
        rwa [hcipher, hpadding]
      · exact hkeeps
  | execute =>
      simp only [step]
      split
      · rename_i next hexecute
        obtain ⟨outputData, tagHex, hwindow⟩ := window_execute hexecute
        rw [hwindow]
        exact hkeeps
      · exact hkeeps
  | keyHex _ | inputType _ | inputFile _ | inputData _ | outputType _ | outputFile _
  | outputData _ | clearOutput => exact hkeeps

theorem keepsDefault_run {actions : List Action} (hchoice : Action.padding .nopad ∉ actions)
    (hkeeps : KeepsDefault desktop.2) : KeepsDefault (run evp os desktop actions).2 := by
  induction actions generalizing desktop with
  | nil => exact hkeeps
  | cons action actions ih =>
      rw [List.mem_cons, not_or] at hchoice
      exact ih hchoice.2 (keepsDefault_step (Ne.symm hchoice.1) hkeeps)

end Runs

/-- However the window got there: as long as the user never chose `nopad`, what
Execute encrypts it decrypts. -/
theorem run_execute_carryOver (library : AesLibrary) (os : Os) (files : Files)
    (actions : List Action) (desktop after : Desktop) (plaintext : Bytes)
    (hrun : run library.evp os (files, initialWindow) actions = desktop)
    (hchoice : Action.padding .nopad ∉ actions) (hencrypt : desktop.2.operation = .encrypt)
    (hbinary : desktop.2.outputType ≠ .text)
    (hinput : readInputBytes os desktop.1 desktop.2 = .ok plaintext)
    (hsize : plaintext.length + 16 ≤ INT_MAX)
    (hexecute : execute library.evp os desktop.1 desktop.2 = .ok after) :
    ExecutesTo library os (run library.evp os after (carryOver after.2)) plaintext := by
  subst hrun
  have hkeeps := @keepsDefault_run library.evp os (files, initialWindow) actions hchoice
    (keepsDefault_updateFields _)
  exact (executesTo_carryOver_iff hencrypt hbinary hinput hsize hexecute).mpr hkeeps

/-- The run that loads the sample vector. -/
theorem run_execute_carryOver_gcmVector :
    ∃ after, execute demoLibrary.evp ⟨fun _ => "", fun _ => none⟩ (fun _ => none)
        (loadGcmVector initialWindow) = .ok after ∧
      ExecutesTo demoLibrary ⟨fun _ => "", fun _ => none⟩
        (run demoLibrary.evp ⟨fun _ => "", fun _ => none⟩ after (carryOver after.2))
        (List.replicate 16 0) := by
  obtain ⟨after, hexecute⟩ := exists_execute_gcmVector
  refine ⟨after, hexecute, ?_⟩
  exact run_execute_carryOver demoLibrary _ (fun _ => none) [.loadGcmVector]
    (fun _ => none, loadGcmVector initialWindow) after _ rfl (by simp) rfl (by decide) (by decide)
    (by decide) hexecute

end ShoppingWeb.Evp.AesGui
