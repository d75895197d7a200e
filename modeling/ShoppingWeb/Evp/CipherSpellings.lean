import ShoppingWeb.Evp.AesCommandLine

/-!
# Spellings of a cipher on the command line

The tool treats all spellings of a cipher alike, `main` only those in which the
words it looks for are written in one piece.
-/

namespace ShoppingWeb.Evp

open ShoppingWeb.ByteText
open ShoppingWeb.Shared
open ShoppingWeb.Program

/-- The word stands in the name in one piece, in letters of either case. -/
def InOnePiece (word name : ByteString) : Prop := word.map toUpper <:+: name.map toUpper

instance (word name : ByteString) : Decidable (InOnePiece word name) :=
  inferInstanceAs (Decidable (_ <:+: _))

/-- One of the words does. -/
def HasOneOf (words : List ByteString) (name : ByteString) : Prop :=
  ∃ word ∈ words, InOnePiece word name

instance (words : List ByteString) (name : ByteString) : Decidable (HasOneOf words name) :=
  inferInstanceAs (Decidable (∃ word ∈ words, InOnePiece word name))

theorem map_toUpper_lowerCopy (s : ByteString) : (lowerCopy s).map toUpper = s.map toUpper := by
  have hupper : ∀ c, (toUpper (toLower c) == toUpper c) = true := forall_byte (by decide +kernel)
  rw [lowerCopy, List.map_map]
  exact List.map_congr_left fun c _ => eq_of_beq (hupper c)

theorem lowerCopy_map_toUpper (s : ByteString) : lowerCopy (s.map toUpper) = lowerCopy s := by
  have hlower : ∀ c, (toLower (toUpper c) == toLower c) = true := forall_byte (by decide +kernel)
  rw [lowerCopy, lowerCopy, List.map_map]
  exact List.map_congr_left fun c _ => eq_of_beq (hlower c)

/-- What the search in lower case finds. -/
theorem contains_lowerCopy_iff {word : ByteString} (hword : lowerCopy word = word)
    (name : ByteString) : contains (lowerCopy name) word = true ↔ InOnePiece word name := by
  rw [contains, decide_eq_true_eq, InOnePiece]
  constructor
  · intro hinfix
    simpa only [map_toUpper_lowerCopy] using hinfix.map toUpper
  · intro hinfix
    have hmapped := hinfix.map toLower
    rwa [← lowerCopy, ← lowerCopy, lowerCopy_map_toUpper, lowerCopy_map_toUpper, hword] at hmapped

def aeadWords : List ByteString := [ascii "gcm", ascii "ccm", ascii "ocb"]

def ivFreeWords : List ByteString := [ascii "ecb", ascii "wrap"]

def paddedWords : List ByteString := [ascii "ecb", ascii "cbc"]

theorem any_contains_iff {words : List ByteString} (hwords : ∀ word ∈ words, lowerCopy word = word)
    (name : ByteString) : words.any (contains (lowerCopy name)) = true ↔ HasOneOf words name := by
  rw [List.any_eq_true]
  apply exists_congr
  intro word
  exact and_congr_right fun hmem => contains_lowerCopy_iff (hwords word hmem) name

theorem isAeadName_iff (name : ByteString) :
    isAeadName name = true ↔ HasOneOf aeadWords name := by
  rw [← any_contains_iff (by decide)]
  simp [isAeadName, aeadWords, or_assoc]

theorem defaultPaddingForCipher_iff (name : ByteString) :
    defaultPaddingForCipher name = true ↔ HasOneOf paddedWords name := by
  rw [← any_contains_iff (by decide)]
  simp [defaultPaddingForCipher, paddedWords]

theorem modeUsesIvClassical_iff {name : ByteString} (hclassical : isAeadName name = false) :
    modeUsesIvClassical name = true ↔ ¬ HasOneOf ivFreeWords name := by
  have hlower : isAeadName (lowerCopy name) = isAeadName name := by
    have htwice : lowerCopy (lowerCopy name) = lowerCopy name := by
      rw [← lowerCopy_map_toUpper, map_toUpper_lowerCopy, lowerCopy_map_toUpper]
    rw [isAeadName, htwice, ← isAeadName]
  rw [← any_contains_iff (by decide)]
  simp [modeUsesIvClassical, ivFreeWords, hlower, hclassical]

variable {evp : EvpCipherApi} {s t : ByteString}

/-- The functions of the tool see the canonical name only. -/
theorem encrypt_congr (hname : normalizeCipherName s = normalizeCipherName t) :
    encrypt evp s = encrypt evp t := by
  funext key iv plaintext padding
  rw [encrypt, encrypt, hname]

theorem decrypt_congr (hname : normalizeCipherName s = normalizeCipherName t) :
    decrypt evp s = decrypt evp t := by
  funext key iv ciphertext padding
  rw [decrypt, decrypt, hname]

theorem aeadEncrypt_congr (hname : normalizeCipherName s = normalizeCipherName t) :
    aeadEncrypt evp s = aeadEncrypt evp t := by
  funext key nonce aad plaintext tagLen
  rw [aeadEncrypt, aeadEncrypt, hname]

theorem aeadDecrypt_congr (hname : normalizeCipherName s = normalizeCipherName t) :
    aeadDecrypt evp s = aeadDecrypt evp t := by
  funext key nonce aad ciphertext tag
  rw [aeadDecrypt, aeadDecrypt, hname]

theorem cipherAvailable_congr (hname : normalizeCipherName s = normalizeCipherName t) :
    cipherAvailable s = cipherAvailable t := by
  rw [cipherAvailable, cipherAvailable, resolveCipher, resolveCipher, hname]
  cases normalizeCipherName t with
  | error exception => rfl
  | ok n =>
      simp only [bind, Except.bind]
      cases evpCiphers.find? fun cipher => cipher.name == n with
      | some cipher => rfl
      | none => rfl

/-- `main` treats two names alike: the branch, the demand for an IV and the default
padding in the classical one, and the output on every command line. -/
structure TreatedAlike (s t : ByteString) : Prop where
  branch : isAeadName s = isAeadName t
  iv : isAeadName s = false → modeUsesIvClassical s = modeUsesIvClassical t
  padding : isAeadName s = false → defaultPaddingForCipher s = defaultPaddingForCipher t
  output : ∀ (evp : EvpCipherApi) (files : FileSystem) (opt : CLIOptions) (answer : Answer),
    main evp files { opt with cipher := s } = .ok answer ↔
      main evp files { opt with cipher := t } = .ok answer

/-- The words that `main` looks for are in one piece in both names or in none: the
AEAD modes, and without them those that need no IV and those that are padded. -/
structure SameWords (s t : ByteString) : Prop where
  aead : HasOneOf aeadWords s ↔ HasOneOf aeadWords t
  ivFree : ¬ HasOneOf aeadWords s → (HasOneOf ivFreeWords s ↔ HasOneOf ivFreeWords t)
  padded : ¬ HasOneOf aeadWords s → (HasOneOf paddedWords s ↔ HasOneOf paddedWords t)

theorem isEmpty_of_normalizeCipherName {name n : ByteString}
    (hname : normalizeCipherName name = .ok n) : name.isEmpty = false := by
  cases name with
  | nil => cases hname
  | cons c name => rfl

theorem mainAead_congr (hname : normalizeCipherName s = normalizeCipherName t) (files : FileSystem)
    (opt : CLIOptions) (key input : Bytes) :
    mainAead evp files { opt with cipher := s } key input =
      mainAead evp files { opt with cipher := t } key input := by
  simp only [mainAead, aeadEncrypt_congr hname, aeadDecrypt_congr hname]
  rfl

theorem mainClassical_congr (hname : normalizeCipherName s = normalizeCipherName t)
    (hiv : modeUsesIvClassical s = modeUsesIvClassical t)
    (hpadding : defaultPaddingForCipher s = defaultPaddingForCipher t) (files : FileSystem)
    (opt : CLIOptions) (key input : Bytes) :
    mainClassical evp files { opt with cipher := s } key input =
      mainClassical evp files { opt with cipher := t } key input := by
  simp only [mainClassical, hiv, hpadding, encrypt_congr hname, decrypt_congr hname]
  rfl

/-- A name that is classified alike gives the same run. -/
theorem main_congr {n : ByteString} (hs : normalizeCipherName s = .ok n)
    (ht : normalizeCipherName t = .ok n) (hbranch : isAeadName s = isAeadName t)
    (hiv : isAeadName s = false → modeUsesIvClassical s = modeUsesIvClassical t)
    (hpadding : isAeadName s = false → defaultPaddingForCipher s = defaultPaddingForCipher t)
    (files : FileSystem) (opt : CLIOptions) :
    main evp files { opt with cipher := s } = main evp files { opt with cipher := t } := by
  have hname : normalizeCipherName s = normalizeCipherName t := hs.trans ht.symm
  have hoperation : ∀ key input,
      mainOperation evp files { opt with cipher := s } key input =
        mainOperation evp files { opt with cipher := t } key input := by
    intro key input
    simp only [mainOperation, ← hbranch]
    split
    · exact mainAead_congr hname files opt key input
    · rename_i hclassical
      have hclassical : isAeadName s = false := by simpa using hclassical
      exact mainClassical_congr hname (hiv hclassical) (hpadding hclassical) files opt key input
  unfold main
  simp only [isEmpty_of_normalizeCipherName hs, isEmpty_of_normalizeCipherName ht,
    cipherAvailable_congr hname, hoperation]
  rfl

/-- Two spellings of a name are treated alike exactly if the words that `main`
looks for are in one piece in both or in none. -/
theorem treatedAlike_iff_sameWords {n : ByteString} (hs : normalizeCipherName s = .ok n)
    (ht : normalizeCipherName t = .ok n) : TreatedAlike s t ↔ SameWords s t := by
  constructor
  · intro halike
    have hclassical : ¬ HasOneOf aeadWords s → isAeadName s = false := by
      rw [← isAeadName_iff]
      exact Bool.eq_false_of_not_eq_true
    refine ⟨?_, fun haead => ?_, fun haead => ?_⟩
    · rw [← isAeadName_iff, ← isAeadName_iff, halike.branch]
    · have hs' := hclassical haead
      rw [← not_iff_not, ← modeUsesIvClassical_iff hs',
        ← modeUsesIvClassical_iff (halike.branch.symm.trans hs'), halike.iv hs']
    · rw [← defaultPaddingForCipher_iff, ← defaultPaddingForCipher_iff,
        halike.padding (hclassical haead)]
  · intro hwords
    have hbranch : isAeadName s = isAeadName t := by
      rw [Bool.eq_iff_iff, isAeadName_iff, isAeadName_iff, hwords.aead]
    have haead : isAeadName s = false → ¬ HasOneOf aeadWords s := by
      rw [← isAeadName_iff]
      exact fun hclassical => by simp [hclassical]
    have hiv : isAeadName s = false → modeUsesIvClassical s = modeUsesIvClassical t := by
      intro hclassical
      rw [Bool.eq_iff_iff, modeUsesIvClassical_iff hclassical,
        modeUsesIvClassical_iff (hbranch ▸ hclassical), hwords.ivFree (haead hclassical)]
    have hpadding : isAeadName s = false →
        defaultPaddingForCipher s = defaultPaddingForCipher t := by
      intro hclassical
      rw [Bool.eq_iff_iff, defaultPaddingForCipher_iff, defaultPaddingForCipher_iff,
        hwords.padded (haead hclassical)]
    refine ⟨hbranch, hiv, hpadding, fun evp files opt answer => ?_⟩
    rw [main_congr hs ht hbranch hiv hpadding files opt]

theorem treatedAlike_iff_sameWords_gcm :
    TreatedAlike (ascii "AES_128/GCM") (ascii "aes128gcm") ↔
      SameWords (ascii "AES_128/GCM") (ascii "aes128gcm") :=
  treatedAlike_iff_sameWords (n := ascii "AES-128-GCM") (by decide) (by decide)

/-- Dashes inside the mode: the tool takes the name for AES-128-GCM, `main` for a
cipher that needs `--iv`. -/
theorem not_treatedAlike_dashes :
    normalizeCipherName (ascii "AES-128-G-C-M") = normalizeCipherName (ascii "AES-128-GCM") ∧
      ¬ TreatedAlike (ascii "AES-128-G-C-M") (ascii "AES-128-GCM") := by
  refine ⟨by decide, fun halike => ?_⟩
  have hbranch := halike.branch
  revert hbranch
  decide

end ShoppingWeb.Evp
