import ShoppingWeb.Evp.AesCommandLine
import ShoppingWeb.Evp.AesLibrary
import ShoppingWeb.Evp.HexRenderings

/-!
# The round trip of the command line

A run that encrypts leaves files and lines behind.  A second run that decrypts
under the same options, and takes the ciphertext and the tag from there, writes
the input of the first one.
-/

namespace ShoppingWeb.Evp

open ShoppingWeb.ByteText
open ShoppingWeb.Program
open ShoppingWeb.Shared

/-- The files by their paths. -/
abbrev Disk := ByteString → Option Bytes

namespace Disk

/-- A run on the files; which of the paths can be written is given. -/
def files (disk : Disk) (refusal : ByteString → Option ByteString) : FileSystem where
  read path :=
    match disk path with
    | none => .error (ascii "Cannot open input file: " ++ path)
    | some data => .ok data
  write path _ :=
    match refusal path with
    | none => .ok ()
    | some message => .error message

def apply (disk : Disk) : Emission → Disk
  | .file path data => Function.update disk path (some data)
  | .line _ => disk

/-- The files after a run. -/
def after (disk : Disk) (emissions : List Emission) : Disk := emissions.foldl apply disk

end Disk

/-- The second command line asks to decrypt what the first one encrypted. -/
structure Reverses (opt opt' : CLIOptions) : Prop where
  help : opt'.help = false
  list : opt'.list = false
  available : opt'.available = false
  encrypt : opt'.encrypt = false
  decrypt : opt'.decrypt = true
  cipher : opt'.cipher = opt.cipher
  keyHex : opt'.keyHex = opt.keyHex
  ivHex : opt'.ivHex = opt.ivHex
  nonceHex : opt'.nonceHex = opt.nonceHex
  aadHex : opt'.aadHex = opt.aadHex
  aadText : opt'.aadText = opt.aadText
  padding : opt'.padding = opt.padding
  paddingSet : opt'.paddingSet = opt.paddingSet

def tagLabel : ByteString := ascii "tag: "

/-- Its input is the output file, unless the tag has overwritten it, or the line
that is not the tag's; an empty line is asked for by `--empty-input`. -/
inductive TakesOutput (opt opt' : CLIOptions) (emissions : List Emission) : Prop
  | file (hgiven : opt.outputFile ≠ [])
      (hkept : isAeadName opt.cipher = true → opt.tagOutFile ≠ opt.outputFile)
      (hinput : opt'.inputFile = opt.outputFile) (hhex : opt'.hexInput = [])
      (htext : opt'.textInput = []) (hempty : opt'.emptyInput = false)
  | line (hprinted : Emission.line opt'.hexInput ∈ emissions)
      (hother : ¬ tagLabel <+: opt'.hexInput) (hinput : opt'.inputFile = [])
      (htext : opt'.textInput = []) (hempty : opt'.emptyInput = opt'.hexInput.isEmpty)

/-- Its tag is the tag file or what is printed behind `tag: `. -/
inductive TakesTag (opt opt' : CLIOptions) (emissions : List Emission) : Prop
  | file (hgiven : opt.tagOutFile ≠ []) (hinput : opt'.tagInFile = opt.tagOutFile)
      (hhex : opt'.tagHex = [])
  | line (hprinted : Emission.line (tagLabel ++ opt'.tagHex) ∈ emissions)
      (hinput : opt'.tagInFile = [])

@[simp]
theorem hexToBytes_bytesToHex (data : Bytes) (lowercase : Bool) :
    hexToBytes (bytesToHex data lowercase) = .ok data :=
  (hexToBytes_eq_ok_iff _ data).mpr (rendersHex_bytesToHex data lowercase)

theorem bytesToHex_eq_nil_iff {data : Bytes} {lowercase : Bool} :
    bytesToHex data lowercase = [] ↔ data = [] := by
  cases data with
  | nil => simp [bytesToHex]
  | cons byte data => simp [bytesToHex]

/-- The tag's line is no hex string. -/
theorem bytesToHex_ne_tagLine (data : Bytes) (tag : ByteString) :
    bytesToHex data true ≠ tagLabel ++ tag := by
  intro hline
  have hdecoded := hexToBytes_bytesToHex data true
  rw [hline] at hdecoded
  cases hdecoded

@[simp]
theorem liftTool_eq_ok {Value : Type} {outcome : Except ToolException Value} {value : Value} :
    liftTool outcome = .ok value ↔ outcome = .ok value := by
  cases outcome <;> simp [liftTool, Except.mapError]

@[simp]
theorem writeFile_eq_ok {files : FileSystem} {path : ByteString} {data : Bytes}
    {emissions : List Emission} :
    writeFile files path data = .ok emissions ↔
      files.write path data = .ok () ∧ [.file path data] = emissions := by
  unfold writeFile
  cases files.write path data <;> simp [Except.mapError, Except.map]

/-- What an output is put out as. -/
def outputEmissions (opt : CLIOptions) (data : Bytes) : List Emission :=
  (if opt.outputFile = [] then [] else [.file opt.outputFile data]) ++
    if opt.outHex = true ∨ opt.outputFile = [] then [.line (bytesToHex data true)] else []

theorem writeOutput_ok {files : FileSystem} {opt : CLIOptions} {data : Bytes}
    {emissions : List Emission} (hwrite : writeOutput files opt data = .ok emissions) :
    outputEmissions opt data = emissions := by
  by_cases hgiven : opt.outputFile = []
  · simpa [writeOutput, outputEmissions, hgiven, except_bind_ok] using hwrite
  · simp [writeOutput, hgiven, except_bind_ok] at hwrite
    simpa [outputEmissions, hgiven] using hwrite.2

def tagEmission (opt : CLIOptions) (tag : Bytes) : Emission :=
  if opt.tagOutFile = [] then .line (tagLabel ++ bytesToHex tag true)
  else .file opt.tagOutFile tag

/-- The lines and files after an encryption, with a tag or without. -/
def encryptionEmissions (opt : CLIOptions) (ciphertext : Bytes) (tag : Option Bytes) :
    List Emission :=
  outputEmissions opt ciphertext ++ (tag.map (tagEmission opt)).toList

/-- What a file that a run wrote once holds afterwards. -/
theorem after_outputFile {opt : CLIOptions} {ciphertext : Bytes} {tag : Option Bytes}
    (disk : Disk) (hgiven : opt.outputFile ≠ [])
    (hkept : tag.isSome = true → opt.tagOutFile ≠ opt.outputFile) :
    disk.after (encryptionEmissions opt ciphertext tag) opt.outputFile = some ciphertext := by
  have hoverwritten : ∀ written, tag = some written →
      (disk.after (outputEmissions opt ciphertext)).apply (tagEmission opt written)
        opt.outputFile = disk.after (outputEmissions opt ciphertext) opt.outputFile := by
    rintro written rfl
    unfold tagEmission
    split
    · rfl
    · exact Function.update_of_ne (hkept rfl).symm _ _
  have hwritten : disk.after (outputEmissions opt ciphertext) opt.outputFile =
      some ciphertext := by
    simp only [outputEmissions, hgiven, if_false, or_false]
    split <;> simp [Disk.after, Disk.apply]
  cases tag with
  | none => simpa [encryptionEmissions] using hwritten
  | some written =>
      rw [← hwritten, ← hoverwritten written rfl]
      simp [encryptionEmissions, Disk.after]

theorem after_tagOutFile {opt : CLIOptions} {ciphertext tag : Bytes} (disk : Disk)
    (hgiven : opt.tagOutFile ≠ []) :
    disk.after (encryptionEmissions opt ciphertext (some tag)) opt.tagOutFile = some tag := by
  simp [encryptionEmissions, Disk.after, tagEmission, hgiven, Disk.apply]

/-- The lines are the ciphertext's and the tag's. -/
theorem line_mem_encryptionEmissions {opt : CLIOptions} {ciphertext : Bytes} {tag : Option Bytes}
    {text : ByteString}
    (hprinted : Emission.line text ∈ encryptionEmissions opt ciphertext tag) :
    text = bytesToHex ciphertext true ∨
      ∃ written, tag = some written ∧ text = tagLabel ++ bytesToHex written true := by
  rw [encryptionEmissions, List.mem_append] at hprinted
  rcases hprinted with houtput | htag
  · left
    unfold outputEmissions at houtput
    split at houtput <;> split at houtput <;> simp_all
  · right
    obtain ⟨written, rfl, hwritten⟩ : ∃ written, tag = some written ∧
        tagEmission opt written = Emission.line text := by
      simpa [Option.mem_toList] using htag
    unfold tagEmission at hwritten
    split at hwritten
    · exact ⟨written, rfl, (Emission.line.inj hwritten).symm⟩
    · cases hwritten

section Input

variable {files : FileSystem} {opt : CLIOptions}

theorem readInput_file (hinput : opt.inputFile ≠ []) (hhex : opt.hexInput = [])
    (htext : opt.textInput = []) (hempty : opt.emptyInput = false) :
    readInput files opt = readFile files opt.inputFile := by
  have hgiven : opt.inputFile.isEmpty = false := by simpa using hinput
  simp only [readInput, hgiven, hhex, htext, hempty, List.isEmpty_nil, Bool.not_true,
    Bool.not_false, if_true]
  rfl

theorem readInput_hex (hinput : opt.inputFile = []) (hhex : opt.hexInput ≠ [])
    (htext : opt.textInput = []) (hempty : opt.emptyInput = false) :
    readInput files opt = liftTool (hexToBytes opt.hexInput) := by
  have hgiven : opt.hexInput.isEmpty = false := by simpa using hhex
  simp only [readInput, hgiven, hinput, htext, hempty, List.isEmpty_nil, Bool.not_true,
    Bool.not_false, if_true]
  rfl

theorem readInput_empty (hinput : opt.inputFile = []) (hhex : opt.hexInput = [])
    (htext : opt.textInput = []) (hempty : opt.emptyInput = true) :
    readInput files opt = .ok [] := by
  simp only [readInput, hhex, hinput, htext, hempty, List.isEmpty_nil, Bool.not_true]
  rfl

end Input

theorem readFile_disk {disk : Disk} {refusal : ByteString → Option ByteString}
    {path : ByteString} {data : Bytes} (hdisk : disk path = some data) :
    readFile (disk.files refusal) path = .ok data := by
  simp [readFile, Disk.files, hdisk, Except.mapError]

/-- The first command's ciphertext is the second one's input. -/
theorem readInput_of_takesOutput {opt opt' : CLIOptions} {ciphertext : Bytes} {tag : Option Bytes}
    {disk : Disk} {refusal : ByteString → Option ByteString}
    (haead : tag.isSome = true → isAeadName opt.cipher = true)
    (htakes : TakesOutput opt opt' (encryptionEmissions opt ciphertext tag)) :
    readInput ((disk.after (encryptionEmissions opt ciphertext tag)).files refusal) opt' =
      .ok ciphertext := by
  cases htakes with
  | file hgiven hkept hinput hhex htext hempty =>
      rw [readInput_file (hinput ▸ hgiven) hhex htext hempty, hinput]
      exact readFile_disk (after_outputFile disk hgiven fun hsome => hkept (haead hsome))
  | line hprinted hother hinput htext hempty =>
      have hline : opt'.hexInput = bytesToHex ciphertext true := by
        rcases line_mem_encryptionEmissions hprinted with hline | ⟨written, -, hline⟩
        · exact hline
        · exact absurd (hline ▸ List.prefix_append _ _) hother
      by_cases hnil : ciphertext = []
      · have hblank : opt'.hexInput = [] := hline.trans (bytesToHex_eq_nil_iff.mpr hnil)
        rw [readInput_empty hinput hblank htext (by rw [hempty, hblank]; rfl), hnil]
      · have hfull : opt'.hexInput ≠ [] := by
          rw [hline]
          exact fun hblank => hnil (bytesToHex_eq_nil_iff.mp hblank)
        rw [readInput_hex hinput hfull htext (by simpa [hempty] using hfull), hline,
          liftTool_eq_ok]
        exact hexToBytes_bytesToHex ciphertext true

/-- Its tag is the second one's. -/
theorem readTag_of_takesTag {opt opt' : CLIOptions} {ciphertext tag : Bytes} {disk : Disk}
    {refusal : ByteString → Option ByteString} (hfull : tag ≠ [])
    (htakes : TakesTag opt opt' (encryptionEmissions opt ciphertext (some tag))) :
    readTag ((disk.after (encryptionEmissions opt ciphertext (some tag))).files refusal) opt' =
      .ok tag := by
  cases htakes with
  | file hgiven hinput hhex =>
      have hfile : opt'.tagInFile.isEmpty = false := by simpa [hinput] using hgiven
      simp only [readTag, hhex, hfile, List.isEmpty_nil, Bool.not_true, Bool.not_false]
      rw [if_neg Bool.noConfusion, if_neg Bool.noConfusion, hinput]
      exact readFile_disk (after_tagOutFile disk hgiven)
  | line hprinted hinput =>
      have hline : opt'.tagHex = bytesToHex tag true := by
        rcases line_mem_encryptionEmissions hprinted with hline | ⟨written, hwritten, hline⟩
        · exact absurd hline.symm (bytesToHex_ne_tagLine ciphertext opt'.tagHex)
        · obtain rfl := Option.some.inj hwritten
          exact List.append_cancel_left hline
      have hhex : opt'.tagHex.isEmpty = false := by
        rw [hline]
        simpa [bytesToHex_eq_nil_iff] using hfull
      simp only [readTag, hhex, hinput, List.isEmpty_nil, Bool.not_true, Bool.not_false]
      rw [if_neg Bool.noConfusion, if_pos trivial, hline, liftTool_eq_ok]
      exact hexToBytes_bytesToHex tag true

/-! ## Operations -/

section Operations

variable {evp : EvpCipherApi} {files : FileSystem} {opt : CLIOptions} {key input : Bytes}
  {emissions : List Emission}

theorem mainAead_encrypting (hencrypt : opt.encrypt = true)
    (hrun : mainAead evp files opt key input = .ok emissions) :
    ∃ nonce aad enc, hexToBytes opt.nonceHex = .ok nonce ∧ readAad opt = .ok aad ∧
      aeadEncrypt evp opt.cipher key nonce aad input opt.tagLen = .ok enc ∧
      encryptionEmissions opt enc.ciphertext (some enc.tag) = emissions := by
  simp only [mainAead, hencrypt, if_true, except_bind_ok, liftTool_eq_ok] at hrun
  obtain ⟨nonce, hnonce, aad, haad, enc, henc, output, houtput, hrun⟩ := hrun
  refine ⟨nonce, aad, enc, hnonce, haad, henc, ?_⟩
  rw [encryptionEmissions, writeOutput_ok houtput]
  by_cases hgiven : opt.tagOutFile = []
  · simpa [hgiven, except_bind_ok, tagEmission, tagLabel] using hrun
  · simp [hgiven, except_bind_ok] at hrun
    simpa [hgiven, tagEmission] using hrun.2

theorem mainAead_decrypting {nonce aad tag plaintext : Bytes} (hencrypt : opt.encrypt = false)
    (hnonce : hexToBytes opt.nonceHex = .ok nonce) (haad : readAad opt = .ok aad)
    (htag : readTag files opt = .ok tag)
    (hdecrypt : aeadDecrypt evp opt.cipher key nonce aad input tag = .ok ⟨plaintext, true⟩) :
    mainAead evp files opt key input = writeOutput files opt plaintext := by
  simp [mainAead, hencrypt, liftTool, hnonce, haad, htag, hdecrypt, Except.mapError, bind,
    Except.bind]

/-- The IV of a classical run. -/
def ivOf (opt : CLIOptions) : Except CliException Bytes :=
  if modeUsesIvClassical opt.cipher then
    if opt.ivHex.isEmpty then invalidArgument (ascii "This mode requires --iv")
    else liftTool (hexToBytes opt.ivHex)
  else .ok []

def paddingOf (opt : CLIOptions) : Bool :=
  if opt.paddingSet then opt.padding else defaultPaddingForCipher opt.cipher

theorem mainClassical_eq :
    mainClassical evp files opt key input =
      (do
        let iv ← ivOf opt
        let out ← liftTool
          (if opt.encrypt then encrypt evp opt.cipher key iv input (paddingOf opt)
          else decrypt evp opt.cipher key iv input (paddingOf opt))
        writeOutput files opt out) := by
  cases hmode : modeUsesIvClassical opt.cipher <;> cases hgiven : opt.ivHex.isEmpty <;>
    simp only [mainClassical, ivOf, paddingOf, hmode, hgiven, if_true, Bool.false_eq_true,
      if_false]

theorem mainClassical_encrypting (hencrypt : opt.encrypt = true)
    (hrun : mainClassical evp files opt key input = .ok emissions) :
    ∃ iv out, ivOf opt = .ok iv ∧
      encrypt evp opt.cipher key iv input (paddingOf opt) = .ok out ∧
      encryptionEmissions opt out none = emissions := by
  simp only [mainClassical_eq, hencrypt, if_true, except_bind_ok, liftTool_eq_ok] at hrun
  obtain ⟨iv, hiv, out, hout, houtput⟩ := hrun
  refine ⟨iv, out, hiv, hout, ?_⟩
  simp [encryptionEmissions, writeOutput_ok houtput]

theorem mainClassical_decrypting {iv plaintext : Bytes} (hencrypt : opt.encrypt = false)
    (hiv : ivOf opt = .ok iv)
    (hdecrypt : decrypt evp opt.cipher key iv input (paddingOf opt) = .ok plaintext) :
    mainClassical evp files opt key input = writeOutput files opt plaintext := by
  simp [mainClassical_eq, hencrypt, hiv, hdecrypt, liftTool, Except.mapError, bind, Except.bind]

/-- `main` gets to its operation. -/
structure Operates (opt : CLIOptions) (key : Bytes) : Prop where
  help : opt.help = false
  list : opt.list = false
  cipher : opt.cipher ≠ []
  available : opt.available = false
  direction : opt.encrypt ≠ opt.decrypt
  keyHex : opt.keyHex ≠ []
  key_eq : hexToBytes opt.keyHex = .ok key

theorem main_of_operates (hoperates : Operates opt key) :
    main evp files opt =
      (do
        let input ← readInput files opt
        let emissions ← mainOperation evp files opt key input
        .ok (.written emissions)) := by
  simp [main, hoperates.help, hoperates.list, hoperates.cipher, hoperates.available,
    hoperates.direction, hoperates.keyHex, hoperates.key_eq, liftTool, Except.mapError]
  rfl

theorem main_written (hrun : main evp files opt = .ok (.written emissions)) :
    ∃ key, Operates opt key ∧ ∃ input, readInput files opt = .ok input ∧
      mainOperation evp files opt key input = .ok emissions := by
  unfold main at hrun
  split_ifs at hrun with hhelp hlist hcipher havailable hdirection hkeyHex
  · cases hrun
  · cases hrun
  · cases hrun
  · cases hrun
  · cases hrun
  · cases hrun
  · simp only [except_bind_ok, liftTool_eq_ok] at hrun
    obtain ⟨key, hkey, input, hinput, written, hwritten, hanswer⟩ := hrun
    obtain rfl := Answer.written.inj (Except.ok.inj hanswer)
    exact ⟨key, ⟨by simpa using hhelp, by simpa using hlist, by simpa using hcipher,
      by simpa using havailable, hdirection, by simpa using hkeyHex, hkey⟩, input, hinput, hwritten⟩

end Operations

section RoundTrip

variable {library : AesLibrary} {cipherName key iv nonce aad plaintext : Bytes}

theorem decrypt_of_encrypt {ciphertext : Bytes} {padding : Bool}
    (hencrypt : encrypt library.evp cipherName key iv plaintext padding = .ok ciphertext)
    (hsize : plaintext.length + 16 ≤ INT_MAX) :
    decrypt library.evp cipherName key iv ciphertext padding = .ok plaintext := by
  rw [encrypt_embeds library.embeds_classical fun _ => id] at hencrypt
  rw [decrypt_embeds library.embeds_classical fun _ => id]
  obtain ⟨cipher, -, -, hencrypts⟩ := encrypt_ok_iff.mp hencrypt
  have hfits := length_le_of_encrypts hencrypts hsize
  exact (encrypt_ok_iff_decrypt_ok.mp ⟨hencrypt, hfits⟩).1

theorem aeadDecrypt_of_aeadEncrypt {tagLen : ℕ} {result : AeadEncryptResult}
    (hencrypt : aeadEncrypt library.evp cipherName key nonce aad plaintext tagLen = .ok result) :
    result.tag ≠ [] ∧
      aeadDecrypt library.evp cipherName key nonce aad result.ciphertext result.tag =
        .ok ⟨plaintext, true⟩ := by
  rw [aeadEncrypt_embeds library.embeds_aead fun _ => id] at hencrypt
  rw [aeadDecrypt_embeds library.embeds_aead fun _ => id]
  obtain ⟨cipher, hcipher, hallowed, haccepts, -, rfl⟩ := aeadEncrypt_ok_iff.mp hencrypt
  have htag : (library.aead.tagOf cipher tagLen key nonce aad plaintext).length = tagLen :=
    length_tagOf hallowed.2.1 plaintext
  have hciphertext : (library.aead.ciphertextOf cipher tagLen key nonce plaintext).length =
      plaintext.length := length_ciphertextOf tagLen plaintext
  refine ⟨?_, aeadDecrypt_ok_iff.mpr ⟨cipher, hcipher, by rwa [htag], ?_, ?_⟩⟩
  · apply List.ne_nil_of_length_pos
    rw [htag]
    exact hallowed.1
  · exact { haccepts with payloadSize := hciphertext.trans_le haccepts.payloadSize }
  · split
    · rename_i hempty
      have hnone : plaintext.length = 0 := hciphertext.symm.trans (congrArg List.length hempty.2)
      rw [List.length_eq_zero_iff.mp hnone]
    · exact verified_tagOf hallowed.2.1 plaintext

end RoundTrip

theorem operates_of_reverses {opt opt' : CLIOptions} {key : Bytes} (hoperates : Operates opt key)
    (hreverses : Reverses opt opt') : Operates opt' key where
  help := hreverses.help
  list := hreverses.list
  cipher := hreverses.cipher ▸ hoperates.cipher
  available := hreverses.available
  direction := by rw [hreverses.encrypt, hreverses.decrypt]; exact Bool.noConfusion
  keyHex := hreverses.keyHex ▸ hoperates.keyHex
  key_eq := hreverses.keyHex ▸ hoperates.key_eq

/-- What one command encrypts, the next one decrypts: from the files and lines
that the first one left, it writes the first one's input. -/
theorem main_main (library : AesLibrary) (disk : Disk)
    (refusal refusal' : ByteString → Option ByteString) (opt opt' : CLIOptions)
    (emissions : List Emission) (plaintext : Bytes)
    (hrun : main library.evp (disk.files refusal) opt = .ok (.written emissions))
    (hencrypt : opt.encrypt = true)
    (hinput : readInput (disk.files refusal) opt = .ok plaintext)
    (hsize : plaintext.length + 16 ≤ INT_MAX) (hreverses : Reverses opt opt')
    (houtput : TakesOutput opt opt' emissions)
    (htag : isAeadName opt.cipher = true → TakesTag opt opt' emissions) :
    main library.evp ((disk.after emissions).files refusal') opt' =
      (writeOutput ((disk.after emissions).files refusal') opt' plaintext).map .written := by
  obtain ⟨key, hoperates, input, hread, hoperation⟩ := main_written hrun
  obtain rfl := Except.ok.inj (hinput.symm.trans hread)
  have hiv : ivOf opt' = ivOf opt := by
    rw [ivOf, ivOf, hreverses.cipher, hreverses.ivHex]
  have hpadding : paddingOf opt' = paddingOf opt := by
    rw [paddingOf, paddingOf, hreverses.paddingSet, hreverses.padding, hreverses.cipher]
  have haad : readAad opt' = readAad opt := by
    rw [readAad, readAad, hreverses.aadHex, hreverses.aadText]
  -- With its input and its operation known, the second run is its output.
  have hsecond (data : Bytes)
      (hdata : readInput ((disk.after emissions).files refusal') opt' = .ok data)
      (hwrites : mainOperation library.evp ((disk.after emissions).files refusal') opt' key data =
        writeOutput ((disk.after emissions).files refusal') opt' plaintext) :
      main library.evp ((disk.after emissions).files refusal') opt' =
        (writeOutput ((disk.after emissions).files refusal') opt' plaintext).map .written := by
    rw [main_of_operates (operates_of_reverses hoperates hreverses), hdata]
    simp only [bind, Except.bind, hwrites]
    cases writeOutput ((disk.after emissions).files refusal') opt' plaintext <;> rfl
  unfold mainOperation at hoperation
  split at hoperation
  · rename_i haead
    obtain ⟨nonce, aad, enc, hnonce, hread', henc, rfl⟩ := mainAead_encrypting hencrypt hoperation
    obtain ⟨hfull, hdec⟩ := aeadDecrypt_of_aeadEncrypt henc
    apply hsecond enc.ciphertext (readInput_of_takesOutput (fun _ => haead) houtput)
    rw [mainOperation, hreverses.cipher, if_pos haead]
    exact mainAead_decrypting hreverses.encrypt (hreverses.nonceHex ▸ hnonce)
      (haad.trans hread') (readTag_of_takesTag hfull (htag haead)) (hreverses.cipher ▸ hdec)
  · rename_i hclassical
    obtain ⟨iv, ciphertext, hiv', henc, rfl⟩ := mainClassical_encrypting hencrypt hoperation
    apply hsecond ciphertext (readInput_of_takesOutput (fun hsome => nomatch hsome) houtput)
    rw [mainOperation, hreverses.cipher, if_neg hclassical]
    apply mainClassical_decrypting hreverses.encrypt (hiv.trans hiv')
    rw [hreverses.cipher, hpadding]
    exact decrypt_of_encrypt henc hsize

def demoCommand : CLIOptions where
  help := false
  list := false
  available := false
  encrypt := true
  decrypt := false
  cipher := ascii "aes-128-gcm"
  keyHex := ascii "00000000000000000000000000000000"
  ivHex := []
  nonceHex := ascii "000000000000000000000000"
  aadHex := []
  aadText := []
  tagLen := 16
  tagHex := []
  tagInFile := []
  tagOutFile := []
  inputFile := []
  outputFile := []
  hexInput := ascii "00000000000000000000000000000000"
  textInput := []
  emptyInput := false
  outHex := true
  padding := false
  paddingSet := false

/-- The lines of the first command are copied into the second. -/
def demoReverse : CLIOptions :=
  { demoCommand with
    encrypt := false
    decrypt := true
    hexInput := ascii "0388dace60b6a392f328c2b971b2fe78"
    tagHex := ascii "ab6e47d42cec13bdf53a67b21257bddf" }

theorem main_main_demo :
    main demoLibrary.evp (Disk.files (fun _ => none) fun _ => none) demoReverse =
      .ok (.written [.line demoCommand.hexInput]) := by
  have hrun : main demoLibrary.evp (Disk.files (fun _ => none) fun _ => none) demoCommand =
      .ok (.written [.line demoReverse.hexInput, .line (tagLabel ++ demoReverse.tagHex)]) := by
    decide
  exact main_main demoLibrary (fun _ => none) (fun _ => none) (fun _ => none) demoCommand
    demoReverse _ (List.replicate 16 0) hrun rfl (by decide) (by decide)
    ⟨rfl, rfl, rfl, rfl, rfl, rfl, rfl, rfl, rfl, rfl, rfl, rfl, rfl⟩
    (.line (by decide) (by decide) rfl rfl rfl) fun _ => .line (by decide) rfl

end ShoppingWeb.Evp
