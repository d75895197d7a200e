import ShoppingWeb.Evp.AeadRoundTrip

/-!
# Authentication

What `tag_valid` promises: the tag is the one the scheme assigns to the key,
the nonce, the additional data and the plaintext.  GCM and OCB verify in the
final call, CCM in the update of the payload, which `decrypt_ccm` skips when
there is none.
-/

namespace ShoppingWeb.Evp

open ShoppingWeb.ByteText
open ShoppingWeb.Shared
open AeadScheme

variable {scheme : AeadScheme} {cipher : EvpCipher} {cipherName key nonce aad ciphertext : Bytes}

/-- Every tag that `aead_decrypt` calls valid is the one assigned. -/
def Authenticates (scheme : AeadScheme) (cipherName key nonce aad ciphertext : Bytes) : Prop :=
  ∀ tag plaintext : Bytes,
    aeadDecrypt scheme.evp cipherName key nonce aad ciphertext tag = .ok ⟨plaintext, true⟩ →
      ∃ cipher, AcceptsCipher scheme cipherName key cipher ∧
        tag = scheme.tagOf cipher tag.length key nonce aad plaintext

/-- The ciphertext is empty and everything before the payload is accepted. -/
def SkipsVerification (scheme : AeadScheme) (cipherName key nonce aad ciphertext : Bytes) : Prop :=
  ciphertext = [] ∧ ∃ cipher, AcceptsCipher scheme cipherName key cipher ∧
    cipher.mode = .ccm ∧ AcceptsInput scheme cipher nonce aad []

theorem AcceptsCipher.unique {left right : EvpCipher}
    (hleft : AcceptsCipher scheme cipherName key left)
    (hright : AcceptsCipher scheme cipherName key right) : left = right := by
  have hname : left.name = right.name :=
    Except.ok.inj (hleft.normalized.symm.trans hright.normalized)
  apply Except.ok.inj
  calc
    (.ok left : Except ToolException EvpCipher) = resolveCipher left.name := hleft.resolved.symm
    _ = resolveCipher right.name := by rw [hname]
    _ = .ok right := hright.resolved

/-- Verification finds out a wrong tag. -/
theorem eq_tagOf_of_verified {tag plaintext : Bytes}
    (hvalid : verified scheme cipher key nonce aad ciphertext tag = ⟨plaintext, true⟩) :
    tag = scheme.tagOf cipher tag.length key nonce aad plaintext := by
  simp only [verified] at hvalid
  split at hvalid
  · rename_i hright
    obtain ⟨rfl, -⟩ := AeadDecryptResult.mk.inj hvalid
    exact hright
  · exact absurd (AeadDecryptResult.mk.inj hvalid).2 Bool.noConfusion

/-- Without a payload, CCM decryption takes every tag of an allowed length. -/
theorem aeadDecrypt_skipped {tag : Bytes} (haccepts : AcceptsCipher scheme cipherName key cipher)
    (hmode : cipher.mode = .ccm) (hinput : AcceptsInput scheme cipher nonce aad [])
    (hlength : tag.length = 4) :
    aeadDecrypt scheme.evp cipherName key nonce aad [] tag = .ok ⟨[], true⟩ := by
  have hallowed : TagLengthAllowed cipher.mode tag.length := by
    rw [hlength]
    exact ⟨by decide, by decide, fun _ => by decide⟩
  apply aeadDecrypt_ok_iff.mpr
  exact ⟨cipher, haccepts, hallowed, hinput, if_pos ⟨hmode, rfl⟩⟩

/-- At most one of two tags is the one assigned. -/
theorem not_authenticates_of_skips
    (hskips : SkipsVerification scheme cipherName key nonce aad ciphertext) :
    ¬ Authenticates scheme cipherName key nonce aad ciphertext := by
  obtain ⟨rfl, cipher, haccepts, hmode, hinput⟩ := hskips
  intro hauthenticates
  have hassigned (tag : Bytes) (hlength : tag.length = 4) :
      tag = scheme.tagOf cipher 4 key nonce aad [] := by
    obtain ⟨other, hother, htag⟩ :=
      hauthenticates tag [] (aeadDecrypt_skipped haccepts hmode hinput hlength)
    rw [hother.unique haccepts, hlength] at htag
    exact htag
  have hequal : ([0, 0, 0, 0] : Bytes) = [1, 0, 0, 0] :=
    (hassigned _ rfl).trans (hassigned _ rfl).symm
  exact absurd hequal (by decide)

/-- Decryption authenticates exactly where it does not skip the verification. -/
theorem authenticates_iff :
    Authenticates scheme cipherName key nonce aad ciphertext ↔
      ¬ SkipsVerification scheme cipherName key nonce aad ciphertext := by
  constructor
  · intro hauthenticates hskips
    exact not_authenticates_of_skips hskips hauthenticates
  · intro hverifies tag plaintext hvalid
    obtain ⟨cipher, haccepts, -, hinput, hresult⟩ := aeadDecrypt_ok_iff.mp hvalid
    have hpayload : ¬ (cipher.mode = .ccm ∧ ciphertext = []) := by
      rintro ⟨hmode, rfl⟩
      exact hverifies ⟨rfl, cipher, haccepts, hmode, hinput⟩
    rw [if_neg hpayload] at hresult
    exact ⟨cipher, haccepts, eq_tagOf_of_verified hresult⟩

/-- AES-128-CCM takes a zero tag for an empty ciphertext; the tag that the
scheme assigns is another one. -/
theorem authenticates_emptyCcm :
    ¬ ∀ (scheme : AeadScheme) (cipherName key nonce aad ciphertext : Bytes),
      Authenticates scheme cipherName key nonce aad ciphertext := by
  intro hauthenticates
  obtain ⟨cipher, haccepts, htag⟩ := hauthenticates demoScheme (ascii "aes-128-ccm")
    (List.replicate 16 0) (List.replicate 12 0) [] [] (List.replicate 4 0) [] (by decide)
  have hmode : cipher = ⟨.bits128, .ccm⟩ := by
    have hname : (.ok cipher.name : Except ToolException ByteString) = .ok (ascii "AES-128-CCM") :=
      haccepts.normalized.symm.trans (by decide)
    apply Except.ok.inj
    calc
      (.ok cipher : Except ToolException EvpCipher) = resolveCipher cipher.name :=
        haccepts.resolved.symm
      _ = resolveCipher (ascii "AES-128-CCM") := by rw [Except.ok.inj hname]
      _ = .ok ⟨.bits128, .ccm⟩ := by decide
  subst hmode
  exact absurd htag (by decide)

end ShoppingWeb.Evp
