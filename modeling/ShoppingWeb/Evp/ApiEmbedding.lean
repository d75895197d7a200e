import ShoppingWeb.Evp.AeadSpec

/-!
# Contexts inside other contexts

Where every call of one EVP API, made on a context of another one, does what it
does at home, the tool's functions give the same results with both.  A machine
for a part of the ciphers then speaks for every library that contains it.
-/

namespace ShoppingWeb.Evp

open ShoppingWeb.ByteText
open ShoppingWeb.Program
open ShoppingWeb.Shared

section ExceptMaps

variable {Error Start Middle End : Type}

theorem except_bind_map (outcome : Except Error Start) (change : Start → Middle)
    (next : Middle → Except Error End) :
    (outcome.map change >>= next) = outcome >>= fun value => next (change value) := by
  cases outcome <;> rfl

theorem except_map_bind (outcome : Except Error Start) (next : Start → Except Error Middle)
    (change : Middle → End) :
    (outcome >>= next).map change = outcome >>= fun value => (next value).map change := by
  cases outcome <;> rfl

theorem check1_map (context : ByteString) (outcome : Except ErrorStack Start)
    (change : Start → Middle) :
    check1 context (outcome.map change) = (check1 context outcome).map change := by
  cases outcome <;> rfl

end ExceptMaps

/-- The calls on the ciphers in question do the same on the embedded contexts. -/
structure Embeds (small large : EvpCipherApi) (includes : EvpCipher → Prop)
    (embed : small.Ctx → large.Ctx) : Prop where
  keyLength : ∀ cipher, includes cipher → large.keyLength cipher = small.keyLength cipher
  ivLength : ∀ cipher, includes cipher → large.ivLength cipher = small.ivLength cipher
  new : large.new = small.new.map embed
  initCipher : ∀ encrypting cipher key iv ctx, includes cipher →
    large.init encrypting (some cipher) key iv (embed ctx) =
      (small.init encrypting (some cipher) key iv ctx).map embed
  initKey : ∀ encrypting key iv ctx,
    large.init encrypting none key iv (embed ctx) =
      (small.init encrypting none key iv ctx).map embed
  setPadding : ∀ padding ctx,
    large.setPadding padding (embed ctx) = (small.setPadding padding ctx).map embed
  setIvLength : ∀ length ctx,
    large.setIvLength length (embed ctx) = (small.setIvLength length ctx).map embed
  setTag : ∀ length tag ctx,
    large.setTag length tag (embed ctx) = (small.setTag length tag ctx).map embed
  getTag : ∀ length ctx, large.getTag length (embed ctx) = small.getTag length ctx
  updateAad : ∀ encrypting aad ctx,
    large.updateAad encrypting aad (embed ctx) = (small.updateAad encrypting aad ctx).map embed
  announceLength : ∀ encrypting length ctx,
    large.announceLength encrypting length (embed ctx) =
      (small.announceLength encrypting length ctx).map embed
  update : ∀ encrypting input ctx,
    large.update encrypting input (embed ctx) =
      (small.update encrypting input ctx).map (Prod.map id embed)
  final : ∀ encrypting ctx,
    large.final encrypting (embed ctx) =
      (small.final encrypting ctx).map (Prod.map id embed)

variable {small large : EvpCipherApi} {includes : EvpCipher → Prop}
  {embed : small.Ctx → large.Ctx} (hembeds : Embeds small large includes embed)
  {cipher : EvpCipher} (hcipher : includes cipher) {ctx : small.Ctx}

include hembeds

theorem makeCtx_embeds : makeCtx large = (makeCtx small).map embed := by
  rw [makeCtx, hembeds.new, check1_map, makeCtx]

theorem evpUpdate_embeds (input : Bytes) (label : ByteString) (encrypting : Bool) :
    evpUpdate large input label encrypting (embed ctx) =
      (evpUpdate small input label encrypting ctx).map (Prod.map id embed) := by
  unfold evpUpdate
  split
  · rfl
  · simp only [except_map_bind, hembeds.update, check1_map]

theorem evpUpdateAad_embeds (aad : Bytes) (encrypting : Bool) :
    evpUpdateAad large aad encrypting (embed ctx) =
      (evpUpdateAad small aad encrypting ctx).map embed := by
  unfold evpUpdateAad
  split
  · rfl
  · simp only [except_map_bind, hembeds.updateAad, check1_map]

theorem setAeadIvLen_embeds (nonce : Bytes) (canonical : ByteString) :
    setAeadIvLen large nonce canonical (embed ctx) =
      (setAeadIvLen small nonce canonical ctx).map embed := by
  simp only [setAeadIvLen, except_map_bind, hembeds.setIvLength, check1_map]

theorem getAeadTag_embeds (tagLen : ℕ) :
    getAeadTag large tagLen (embed ctx) = getAeadTag small tagLen ctx := by
  simp only [getAeadTag, hembeds.getTag]

theorem setAeadTag_embeds (tag : Bytes) :
    setAeadTag large tag (embed ctx) = (setAeadTag small tag ctx).map embed := by
  simp only [setAeadTag, except_map_bind, hembeds.setTag, check1_map]

theorem setTagLength_embeds (tagLen : ℕ) (context : ByteString) :
    setTagLength large tagLen context (embed ctx) =
      (setTagLength small tagLen context ctx).map embed := by
  simp only [setTagLength, except_map_bind, hembeds.setTag, check1_map]

theorem setOcbTagLength_embeds (condition : Prop) [Decidable condition] (tagLen : ℕ) :
    setOcbTagLength large condition tagLen (embed ctx) =
      (setOcbTagLength small condition tagLen ctx).map embed := by
  unfold setOcbTagLength
  split
  · exact setTagLength_embeds hembeds tagLen _
  · rfl

include hcipher in
theorem encryptGcmOcb_embeds (canonical : ByteString) (key nonce aad plaintext : Bytes)
    (tagLen : ℕ) :
    encryptGcmOcb large cipher canonical key nonce aad plaintext tagLen =
      encryptGcmOcb small cipher canonical key nonce aad plaintext tagLen := by
  simp only [encryptGcmOcb, makeCtx_embeds hembeds, hembeds.initCipher _ _ _ _ _ hcipher,
    hembeds.initKey, setOcbTagLength_embeds hembeds, setAeadIvLen_embeds hembeds,
    evpUpdateAad_embeds hembeds, evpUpdate_embeds hembeds, hembeds.final,
    getAeadTag_embeds hembeds, check1_map, except_bind_map, Prod.map, id]

theorem finishDecryption_embeds (written : Bytes) :
    finishDecryption large written (embed ctx) = finishDecryption small written ctx := by
  rw [finishDecryption, finishDecryption, hembeds.final]
  cases small.final false ctx <;> rfl

include hcipher in
theorem decryptGcmOcb_embeds (canonical : ByteString) (key nonce aad ciphertext tag : Bytes) :
    decryptGcmOcb large cipher canonical key nonce aad ciphertext tag =
      decryptGcmOcb small cipher canonical key nonce aad ciphertext tag := by
  simp only [decryptGcmOcb, makeCtx_embeds hembeds, hembeds.initCipher _ _ _ _ _ hcipher,
    hembeds.initKey, setOcbTagLength_embeds hembeds, setAeadIvLen_embeds hembeds,
    evpUpdateAad_embeds hembeds, evpUpdate_embeds hembeds, setAeadTag_embeds hembeds,
    finishDecryption_embeds hembeds, check1_map, except_bind_map, Prod.map, id]

theorem encryptCcmPayload_embeds (plaintext : Bytes) :
    encryptCcmPayload large plaintext (embed ctx) =
      (encryptCcmPayload small plaintext ctx).map (Prod.map id embed) := by
  unfold encryptCcmPayload
  split
  · rfl
  · simp only [except_map_bind, hembeds.update, check1_map]

include hcipher in
theorem encryptCcm_embeds (key nonce aad plaintext : Bytes) (tagLen : ℕ) :
    encryptCcm large cipher key nonce aad plaintext tagLen =
      encryptCcm small cipher key nonce aad plaintext tagLen := by
  simp only [encryptCcm, makeCtx_embeds hembeds, hembeds.initCipher _ _ _ _ _ hcipher,
    hembeds.initKey, setAeadIvLen_embeds hembeds, setTagLength_embeds hembeds,
    hembeds.announceLength, evpUpdateAad_embeds hembeds, encryptCcmPayload_embeds hembeds,
    hembeds.final, getAeadTag_embeds hembeds, check1_map, except_bind_map, Prod.map, id]

theorem decryptCcmPayload_embeds (ciphertext : Bytes) :
    decryptCcmPayload large ciphertext (embed ctx) = decryptCcmPayload small ciphertext ctx := by
  unfold decryptCcmPayload
  rw [hembeds.update]
  cases small.update false ciphertext ctx <;> rfl

include hcipher in
theorem decryptCcm_embeds (key nonce aad ciphertext tag : Bytes) :
    decryptCcm large cipher key nonce aad ciphertext tag =
      decryptCcm small cipher key nonce aad ciphertext tag := by
  simp only [decryptCcm, makeCtx_embeds hembeds, hembeds.initCipher _ _ _ _ _ hcipher,
    hembeds.initKey, setAeadIvLen_embeds hembeds, setAeadTag_embeds hembeds,
    hembeds.announceLength, evpUpdateAad_embeds hembeds, decryptCcmPayload_embeds hembeds,
    check1_map, except_bind_map]

omit hembeds in
/-- Only the resolved cipher matters, and it has not been refused. -/
theorem resolved_congr {Result : Type} {refused : ByteString → Bool}
    {cipherName message : ByteString}
    {next next' : EvpCipher → ByteString → Except ToolException Result}
    (hnext : ∀ cipher, refused cipher.name = false →
      next cipher cipher.name = next' cipher cipher.name) :
    (do
        let canonical ← normalizeCipherName cipherName
        rejectWhen (refused canonical) message
        let cipher ← resolveCipher canonical
        next cipher canonical) =
      (do
        let canonical ← normalizeCipherName cipherName
        rejectWhen (refused canonical) message
        let cipher ← resolveCipher canonical
        next' cipher canonical) := by
  cases hname : normalizeCipherName cipherName with
  | error exception => rfl
  | ok canonical =>
      cases hrefused : refused canonical with
      | true => simp [bind, Except.bind, rejectWhen, hrefused]
      | false =>
          cases hcipher : resolveCipher canonical with
          | error exception => simp [bind, Except.bind, rejectWhen, hrefused, hcipher]
          | ok cipher =>
              obtain rfl := name_of_resolveCipher hname hcipher
              simp [bind, Except.bind, rejectWhen, hrefused, hcipher, hnext cipher hrefused]

theorem requireKeyLen_embeds (hincluded : includes cipher) (key : Bytes) :
    requireKeyLen large cipher key = requireKeyLen small cipher key := by
  simp only [requireKeyLen, hembeds.keyLength cipher hincluded]

theorem requireIvLen_embeds (hincluded : includes cipher) (iv : Bytes) (canonical : ByteString) :
    requireIvLen large cipher iv canonical = requireIvLen small cipher iv canonical := by
  simp only [requireIvLen, hembeds.ivLength cipher hincluded]

section Classical

variable (hclassical : ∀ cipher : EvpCipher, cipher.mode.isAead = false → includes cipher)
include hclassical

theorem encrypt_embeds (cipherName key iv plaintext : Bytes) (padding : Bool) :
    encrypt large cipherName key iv plaintext padding =
      encrypt small cipherName key iv plaintext padding := by
  apply resolved_congr
  intro cipher hrefused
  have hincluded := hclassical cipher (by rwa [isAead_name] at hrefused)
  simp only [requireKeyLen_embeds hembeds hincluded, requireIvLen_embeds hembeds hincluded,
    makeCtx_embeds hembeds, hembeds.initCipher _ _ _ _ _ hincluded, hembeds.setPadding,
    evpUpdate_embeds hembeds, hembeds.final, check1_map, except_bind_map, Prod.map, id]

theorem decrypt_embeds (cipherName key iv ciphertext : Bytes) (padding : Bool) :
    decrypt large cipherName key iv ciphertext padding =
      decrypt small cipherName key iv ciphertext padding := by
  apply resolved_congr
  intro cipher hrefused
  have hincluded := hclassical cipher (by rwa [isAead_name] at hrefused)
  simp only [requireKeyLen_embeds hembeds hincluded, requireIvLen_embeds hembeds hincluded,
    makeCtx_embeds hembeds, hembeds.initCipher _ _ _ _ _ hincluded, hembeds.setPadding,
    evpUpdate_embeds hembeds, hembeds.final, check1_map, except_bind_map, Prod.map, id]

end Classical

section Aead

variable (haead : ∀ cipher : EvpCipher, cipher.mode.isAead = true → includes cipher)
include haead

theorem aeadEncrypt_embeds (cipherName key nonce aad plaintext : Bytes) (tagLen : ℕ) :
    aeadEncrypt large cipherName key nonce aad plaintext tagLen =
      aeadEncrypt small cipherName key nonce aad plaintext tagLen := by
  apply resolved_congr
  intro cipher hrefused
  have hincluded := haead cipher (by simpa [isAead_name] using hrefused)
  simp only [requireKeyLen_embeds hembeds hincluded, encryptCcm_embeds hembeds hincluded,
    encryptGcmOcb_embeds hembeds hincluded]

theorem aeadDecrypt_embeds (cipherName key nonce aad ciphertext tag : Bytes) :
    aeadDecrypt large cipherName key nonce aad ciphertext tag =
      aeadDecrypt small cipherName key nonce aad ciphertext tag := by
  apply resolved_congr
  intro cipher hrefused
  have hincluded := haead cipher (by simpa [isAead_name] using hrefused)
  simp only [requireKeyLen_embeds hembeds hincluded, decryptCcm_embeds hembeds hincluded,
    decryptGcmOcb_embeds hembeds hincluded]

end Aead

end ShoppingWeb.Evp
