import ShoppingWeb.Evp.ToolException

/-!
# Cipher names

`normalize_cipher_name` turns every spelling of a cipher into one canonical
name, on which the tool tells the modes apart and finds the EVP cipher.  The
canonical name is its own canonical name, so the second normalisation inside
`resolve_cipher` changes nothing.
-/

namespace ShoppingWeb.Evp

open ShoppingWeb.ByteText
open ShoppingWeb.Program

/-- The spellings of modes that get another canonical name. -/
def canonicalMode (mode : ByteString) : ByteString :=
  if mode = ascii "CFB" then ascii "CFB128"
  else if mode = ascii "WRAPPAD" then ascii "WRAP-PAD"
  else if mode = ascii "GCMSIV" then ascii "GCM-SIV"
  else if mode = ascii "CBCHMACSHA1" then ascii "CBC-HMAC-SHA1"
  else if mode = ascii "CBCHMACSHA256" then ascii "CBC-HMAC-SHA256"
  else mode

def keySizes : List ByteString := [ascii "128", ascii "192", ascii "256"]

/-- The canonical name of a key size and a mode. -/
def canonicalName (bits mode : ByteString) : ByteString :=
  ascii "AES-" ++ bits ++ ascii "-" ++ mode

/-- The rest of the name after `AES`. -/
def normalizeKeySize (out : ByteString) : Except ToolException ByteString :=
  match keySizes.find? (fun bits => bits.isPrefixOf out) with
  | none =>
      .error (.invalidArgument (ascii "Cipher name must include AES key size 128, 192, or 256"))
  | some bits =>
      let mode := canonicalMode (out.drop 3)
      if mode.isEmpty then
        .error (.invalidArgument (ascii "Cipher name must include a mode"))
      else .ok (canonicalName bits mode)

def normalizeCipherName (name : ByteString) : Except ToolException ByteString :=
  let out := upperAlnum name
  if (ascii "AES").isPrefixOf out then normalizeKeySize (out.drop 3)
  else
    .error (.invalidArgument (ascii "Cipher name must start with AES, e.g. AES-128-CBC"))

theorem keySizes_length {bits : ByteString} (hbits : bits ∈ keySizes) : bits.length = 3 := by
  revert bits
  decide

theorem upperAlnum_keySizes {bits : ByteString} (hbits : bits ∈ keySizes) :
    upperAlnum bits = bits := by
  revert bits
  decide

/-- The key size a name begins with is the only one. -/
theorem find?_keySizes {bits : ByteString} (hbits : bits ∈ keySizes) (rest : ByteString) :
    keySizes.find? (fun other => other.isPrefixOf (bits ++ rest)) = some bits := by
  simp only [keySizes, List.mem_cons, List.not_mem_nil, or_false] at hbits
  rcases hbits with rfl | rfl | rfl
  · rfl
  · rfl
  · rfl

theorem canonicalMode_isEmpty (mode : ByteString) :
    (canonicalMode mode).isEmpty = mode.isEmpty := by
  unfold canonicalMode
  split_ifs with hcfb hwrap hsiv hsha1 hsha256
  · rw [hcfb]
    rfl
  · rw [hwrap]
    rfl
  · rw [hsiv]
    rfl
  · rw [hsha1]
    rfl
  · rw [hsha256]
    rfl
  · rfl

/-- A name is accepted for its letters and digits: `AES`, a key size, a mode. -/
theorem normalizeCipherName_eq_ok_iff {name n : ByteString} :
    normalizeCipherName name = .ok n ↔
      ∃ bits ∈ keySizes, ∃ mode, upperAlnum name = ascii "AES" ++ (bits ++ mode) ∧ mode ≠ [] ∧
        canonicalName bits (canonicalMode mode) = n := by
  constructor
  · intro hname
    rw [normalizeCipherName] at hname
    split at hname
    · rename_i haes
      obtain ⟨out, hout⟩ := List.isPrefixOf_iff_prefix.mp haes
      rw [← hout] at hname
      have hdrop : (ascii "AES" ++ out).drop 3 = out := List.drop_left' rfl
      rw [hdrop, normalizeKeySize] at hname
      split at hname
      · cases hname
      · rename_i bits hfound
        have hbits := List.mem_of_find?_eq_some hfound
        have hprefix := List.find?_some hfound
        obtain ⟨mode, rfl⟩ := List.isPrefixOf_iff_prefix.mp hprefix
        rw [List.drop_left' (keySizes_length hbits)] at hname
        simp only [canonicalMode_isEmpty] at hname
        split at hname
        · cases hname
        · rename_i hmode
          exact ⟨bits, hbits, mode, hout.symm, by simpa using hmode, Except.ok.inj hname⟩
    · cases hname
  · rintro ⟨bits, hbits, mode, hupper, hmode, rfl⟩
    have hprefix : (ascii "AES").isPrefixOf (ascii "AES" ++ (bits ++ mode)) = true :=
      List.isPrefixOf_iff_prefix.mpr (List.prefix_append _ _)
    have hdrop : (ascii "AES" ++ (bits ++ mode)).drop 3 = bits ++ mode := List.drop_left' rfl
    simp only [normalizeCipherName, hupper, hprefix, if_true, hdrop, normalizeKeySize,
      find?_keySizes hbits, List.drop_left' (keySizes_length hbits), canonicalMode_isEmpty]
    rw [if_neg (by simpa using hmode)]

/-- The dashes of a canonical mode come back after they have been dropped. -/
theorem canonicalMode_upperAlnum {mode : ByteString} (hmode : upperAlnum mode = mode) :
    canonicalMode (upperAlnum (canonicalMode mode)) = canonicalMode mode := by
  by_cases hcfb : mode = ascii "CFB"
  · rw [hcfb]
    decide
  by_cases hwrap : mode = ascii "WRAPPAD"
  · rw [hwrap]
    decide
  by_cases hsiv : mode = ascii "GCMSIV"
  · rw [hsiv]
    decide
  by_cases hsha1 : mode = ascii "CBCHMACSHA1"
  · rw [hsha1]
    decide
  by_cases hsha256 : mode = ascii "CBCHMACSHA256"
  · rw [hsha256]
    decide
  have hsame : canonicalMode mode = mode := by
    simp only [canonicalMode, hcfb, hwrap, hsiv, hsha1, hsha256, if_false]
  rw [hsame, hmode, hsame]

/-- A canonical name is its own canonical name. -/
theorem normalizeCipherName_idempotent {name n : ByteString}
    (hname : normalizeCipherName name = .ok n) : normalizeCipherName n = .ok n := by
  obtain ⟨bits, hbits, mode, hupper, hmode, rfl⟩ := normalizeCipherName_eq_ok_iff.mp hname
  have hnormal : upperAlnum mode = mode := by
    apply upperAlnum_of_suffix
    rw [hupper, ← List.append_assoc]
    exact List.suffix_append _ mode
  apply normalizeCipherName_eq_ok_iff.mpr
  refine ⟨bits, hbits, upperAlnum (canonicalMode mode), ?_, ?_, ?_⟩
  · rw [canonicalName, upperAlnum_append, upperAlnum_append, upperAlnum_append,
      upperAlnum_keySizes hbits]
    have haes : upperAlnum (ascii "AES-") = ascii "AES" := by decide
    have hdash : upperAlnum (ascii "-") = [] := by decide
    rw [haes, hdash, List.append_nil, List.append_assoc]
  · intro hnil
    have hempty := canonicalMode_isEmpty (upperAlnum (canonicalMode mode))
    rw [canonicalMode_upperAlnum hnormal, canonicalMode_isEmpty, hnil] at hempty
    exact hmode (List.isEmpty_iff.mp hempty)
  · rw [canonicalMode_upperAlnum hnormal]

def containsMode (canonical mode : ByteString) : Bool :=
  contains canonical (ascii "-" ++ mode)

def isEcb (name : ByteString) : Bool := containsMode name (ascii "ECB")

def isGcm (name : ByteString) : Bool :=
  containsMode name (ascii "GCM") && !containsMode name (ascii "GCM-SIV")

def isCcm (name : ByteString) : Bool := containsMode name (ascii "CCM")

def isOcb (name : ByteString) : Bool := containsMode name (ascii "OCB")

def isAead (name : ByteString) : Bool := isGcm name || isCcm name || isOcb name

def isWrap (name : ByteString) : Bool := containsMode name (ascii "WRAP")

/-- The key sizes. -/
inductive AesKeySize where
  | bits128
  | bits192
  | bits256
  deriving DecidableEq, Repr

inductive AesMode where
  | cbc
  | ecb
  | ofb
  | cfb128
  | cfb1
  | cfb8
  | ctr
  | gcm
  | ccm
  | ocb
  | wrap
  | wrapPad
  | xts
  deriving DecidableEq, Repr

/-- What `EVP_aes_128_cbc()` and its siblings point to. -/
structure EvpCipher where
  keySize : AesKeySize
  mode : AesMode
  deriving DecidableEq, Repr

def AesKeySize.name : AesKeySize → ByteString
  | .bits128 => ascii "128"
  | .bits192 => ascii "192"
  | .bits256 => ascii "256"

def AesMode.name : AesMode → ByteString
  | .cbc => ascii "CBC"
  | .ecb => ascii "ECB"
  | .ofb => ascii "OFB"
  | .cfb128 => ascii "CFB128"
  | .cfb1 => ascii "CFB1"
  | .cfb8 => ascii "CFB8"
  | .ctr => ascii "CTR"
  | .gcm => ascii "GCM"
  | .ccm => ascii "CCM"
  | .ocb => ascii "OCB"
  | .wrap => ascii "WRAP"
  | .wrapPad => ascii "WRAP-PAD"
  | .xts => ascii "XTS"

def EvpCipher.name (cipher : EvpCipher) : ByteString :=
  canonicalName cipher.keySize.name cipher.mode.name

/-- The table of `resolve_cipher`: every mode in every key size, but no XTS
with 192 bits. -/
def evpCiphers : List EvpCipher :=
  ([.bits128, .bits192, .bits256].flatMap fun keySize =>
    [.cbc, .ecb, .ofb, .cfb128, .cfb1, .cfb8, .ctr, .gcm, .ccm, .ocb, .wrap, .wrapPad, .xts].map
      fun mode => ⟨keySize, mode⟩).filter fun cipher => cipher ≠ ⟨.bits192, .xts⟩

def resolveCipher (cipherName : ByteString) : Except ToolException EvpCipher := do
  let n ← normalizeCipherName cipherName
  match evpCiphers.find? (fun cipher => cipher.name == n) with
  | some cipher => .ok cipher
  | none =>
      .error (.invalidArgument
        (ascii "Unsupported algorithm-specific AES EVP cipher: " ++ cipherName))

/-- A canonical name with an EVP cipher is the name of that cipher. -/
theorem name_of_resolveCipher {name n : ByteString} {cipher : EvpCipher}
    (hname : normalizeCipherName name = .ok n) (hcipher : resolveCipher n = .ok cipher) :
    cipher.name = n := by
  obtain ⟨other, hother, hcipher⟩ := except_bind_ok.mp hcipher
  obtain rfl : n = other := Except.ok.inj ((normalizeCipherName_idempotent hname).symm.trans hother)
  split at hcipher
  · rename_i found hfound
    obtain rfl := Except.ok.inj hcipher
    have hname := List.find?_some hfound
    exact beq_iff_eq.mp hname
  · cases hcipher

theorem isGcm_name (cipher : EvpCipher) : isGcm cipher.name = true ↔ cipher.mode = .gcm := by
  obtain ⟨keySize, mode⟩ := cipher
  cases keySize <;> cases mode <;> decide

theorem isCcm_name (cipher : EvpCipher) : isCcm cipher.name = true ↔ cipher.mode = .ccm := by
  obtain ⟨keySize, mode⟩ := cipher
  cases keySize <;> cases mode <;> decide

theorem isOcb_name (cipher : EvpCipher) : isOcb cipher.name = true ↔ cipher.mode = .ocb := by
  obtain ⟨keySize, mode⟩ := cipher
  cases keySize <;> cases mode <;> decide

end ShoppingWeb.Evp
