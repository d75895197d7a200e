import ShoppingWeb.Evp.AeadSpec

/-!
# The AEAD round trip

What `aead_encrypt` returns, `aead_decrypt` turns back into the plaintext, for
every accepted spelling of a GCM, CCM or OCB cipher, every length and every
tag length.
-/

namespace ShoppingWeb.Evp

open ShoppingWeb.ByteText
open ShoppingWeb.Shared
open AeadScheme

variable {scheme : AeadScheme} {cipher : EvpCipher} {key nonce aad : Bytes}

theorem length_tagOf {tagLen : ℕ} (hlength : tagLen ≤ 16) (plaintext : Bytes) :
    (scheme.tagOf cipher tagLen key nonce aad plaintext).length = tagLen := by
  rw [tagOf, List.length_take, scheme.length_tag, tagParameter]
  split
  · exact min_eq_left hlength
  · exact min_self tagLen

theorem plaintextOf_ciphertextOf (tagLen : ℕ) (plaintext : Bytes) :
    scheme.plaintextOf cipher tagLen key nonce
      (scheme.ciphertextOf cipher tagLen key nonce plaintext) = plaintext :=
  scheme.decrypt_encrypt _ _ _ _ _

theorem length_ciphertextOf (tagLen : ℕ) (plaintext : Bytes) :
    (scheme.ciphertextOf cipher tagLen key nonce plaintext).length = plaintext.length :=
  scheme.length_encrypt _ _ _ _ _

/-- The assigned tag is accepted. -/
theorem verified_tagOf {tagLen : ℕ} (hlength : tagLen ≤ 16) (plaintext : Bytes) :
    verified scheme cipher key nonce aad (scheme.ciphertextOf cipher tagLen key nonce plaintext)
      (scheme.tagOf cipher tagLen key nonce aad plaintext) = ⟨plaintext, true⟩ := by
  simp [verified, length_tagOf hlength, plaintextOf_ciphertextOf]

/-- Decryption inverts encryption. -/
theorem aeadDecrypt_aeadEncrypt {cipherName plaintext : Bytes} {tagLen : ℕ}
    {result : AeadEncryptResult}
    (hencrypt : aeadEncrypt scheme.evp cipherName key nonce aad plaintext tagLen = .ok result) :
    aeadDecrypt scheme.evp cipherName key nonce aad result.ciphertext result.tag =
      .ok ⟨plaintext, true⟩ := by
  obtain ⟨cipher, hcipher, hallowed, haccepts, -, rfl⟩ := aeadEncrypt_ok_iff.mp hencrypt
  have hlength := hallowed.2.1
  apply aeadDecrypt_ok_iff.mpr
  refine ⟨cipher, hcipher, ?_, ?_, ?_⟩
  · rw [length_tagOf hlength]
    exact hallowed
  · exact { haccepts with
      payloadSize := (length_ciphertextOf tagLen plaintext).trans_le haccepts.payloadSize }
  · split
    · rename_i hempty
      have hnone : scheme.ciphertextOf cipher tagLen key nonce plaintext = [] := hempty.2
      have hnil : plaintext = [] := by
        apply List.length_eq_zero_iff.mp
        calc
          plaintext.length = (scheme.ciphertextOf cipher tagLen key nonce plaintext).length :=
            (length_ciphertextOf tagLen plaintext).symm
          _ = 0 := congrArg List.length hnone
      rw [hnil]
    · exact verified_tagOf hlength plaintext

/-- The block that AES-128 with an all-zero key adds to the first block of GCM
under an all-zero nonce. -/
def demoKeystream : Bytes :=
  [0x03, 0x88, 0xda, 0xce, 0x60, 0xb6, 0xa3, 0x92, 0xf3, 0x28, 0xc2, 0xb9, 0x71, 0xb2, 0xfe, 0x78]

def demoTag : Bytes :=
  [0xab, 0x6e, 0x47, 0xd4, 0x2c, 0xec, 0x13, 0xbd, 0xf5, 0x3a, 0x67, 0xb2, 0x12, 0x57, 0xbd, 0xdf]

/-- The tag of four bytes that AES-128-CCM gives to nothing, under the same key
and nonce. -/
def emptyCcmTag : Bytes := [0xbe, 0x3c, 0xe2, 0xd4]

def addKeystream : Bytes → Bytes → Bytes
  | [], _ => []
  | input, [] => input
  | byte :: input, pad :: keystream => (byte ^^^ pad) :: addKeystream input keystream

theorem length_addKeystream (input keystream : Bytes) :
    (addKeystream input keystream).length = input.length := by
  induction input, keystream using addKeystream.induct with
  | case1 keystream => simp [addKeystream]
  | case2 input hinput => simp [addKeystream]
  | case3 byte input pad keystream ih => simp [addKeystream, ih]

theorem addKeystream_addKeystream (input keystream : Bytes) :
    addKeystream (addKeystream input keystream) keystream = input := by
  induction input, keystream using addKeystream.induct with
  | case1 keystream => simp [addKeystream]
  | case2 input hinput => simp [addKeystream]
  | case3 byte input pad keystream ih =>
      simp only [addKeystream, ih, UInt8.xor_assoc, UInt8.xor_self, UInt8.xor_zero]

/-- A scheme that answers the demo's question as AES-GCM does.  It takes its
tags from a table and protects nothing. -/
def demoScheme : AeadScheme where
  keyLength _ := 16
  ivLength _ := 12
  blockSize _ := 1
  acceptsIvLength _ length := length == 12
  released _ length := length
  tagsEmptyCcm := false
  errors := []
  encrypt _ _ _ _ plaintext := addKeystream plaintext demoKeystream
  decrypt _ _ _ _ ciphertext := addKeystream ciphertext demoKeystream
  tag cipher tagLength _ _ _ _ :=
    ((if cipher.mode = AesMode.ccm then emptyCcmTag else demoTag) ++
      List.replicate tagLength 0).take tagLength
  decrypt_encrypt _ _ _ _ plaintext := addKeystream_addKeystream plaintext demoKeystream
  length_encrypt _ _ _ _ plaintext := length_addKeystream plaintext demoKeystream
  length_tag _ _ _ _ _ _ := by simp

/-- The demo's round trip, with the ciphertext and tag it prints. -/
theorem aeadDecrypt_demo :
    aeadEncrypt demoScheme.evp (ascii "aes-128-gcm") (List.replicate 16 0) (List.replicate 12 0) []
        (List.replicate 16 0) 16 = .ok ⟨demoKeystream, demoTag⟩ ∧
      aeadDecrypt demoScheme.evp (ascii "aes-128-gcm") (List.replicate 16 0)
        (List.replicate 12 0) [] demoKeystream demoTag = .ok ⟨List.replicate 16 0, true⟩ := by
  have hencrypt : aeadEncrypt demoScheme.evp (ascii "aes-128-gcm") (List.replicate 16 0)
      (List.replicate 12 0) [] (List.replicate 16 0) 16 = .ok ⟨demoKeystream, demoTag⟩ := by
    decide
  -- Without the expected type: unifying with it would run the decryption.
  have hdecrypt := aeadDecrypt_aeadEncrypt hencrypt
  exact ⟨hencrypt, hdecrypt⟩

end ShoppingWeb.Evp
