import ShoppingWeb.Evp.AesDirectTool
import ShoppingWeb.Evp.HashDirectTool
import ShoppingWeb.Lib.Respelling

/-!
# Names under normalisation

Both normalisers see only the letters and digits of a name, and leave their own
results alone.  So a name that is resolved twice stands for the algorithm it
stood for at first.
-/

namespace ShoppingWeb.Evp

open ShoppingWeb.ByteText
open ShoppingWeb.CallerMemory
open ShoppingWeb.Shared
open ShoppingWeb.Program

theorem normalizeCipherName_respelled {s t : ByteString} (hrespelled : Respelled s t) :
    normalizeCipherName t = normalizeCipherName s := by
  rw [normalizeCipherName, normalizeCipherName, respelled_iff.mp hrespelled]

theorem normalizeDigestName_respelled {s t : ByteString} (hrespelled : Respelled s t) :
    normalizeDigestName t = normalizeDigestName s := by
  rw [normalizeDigestName, normalizeDigestName, respelled_iff.mp hrespelled]

/-- The rewritten names lose their dashes and get them back. -/
theorem normalizeDigestName_idempotent (s : ByteString) :
    normalizeDigestName (normalizeDigestName s) = normalizeDigestName s := by
  have hrewritten : ∀ spelling ∈ digestSpellings,
      normalizeDigestName spelling.2 = spelling.2 := by decide +kernel
  cases hfound : digestSpellings.lookup (upperAlnum s) with
  | some rewritten =>
      have hname : normalizeDigestName s = rewritten := by rw [normalizeDigestName, hfound]; rfl
      obtain ⟨before, after, hentry, _⟩ := List.lookup_eq_some_iff.mp hfound
      rw [hname]
      exact hrewritten (upperAlnum s, rewritten) (by simp [hentry])
  | none =>
      have hname : normalizeDigestName s = upperAlnum s := by rw [normalizeDigestName, hfound]; rfl
      have hnormal : upperAlnum (upperAlnum s) = upperAlnum s :=
        upperAlnum_of_suffix (List.suffix_refl _)
      rw [hname, normalizeDigestName, hnormal, hfound]
      rfl

/-- The canonical name is resolved to what the name itself is resolved to. -/
theorem resolveCipher_canonical {s n : ByteString} (hname : normalizeCipherName s = .ok n) :
    resolveCipher n =
      match resolveCipher s with
      | .ok cipher => .ok cipher
      | .error _ =>
          .error (.invalidArgument
            (ascii "Unsupported algorithm-specific AES EVP cipher: " ++ n)) := by
  have hcanonical := normalizeCipherName_idempotent hname
  rw [resolveCipher, resolveCipher, hname, hcanonical]
  simp only [bind, Except.bind]
  cases evpCiphers.find? fun cipher => cipher.name == n with
  | some cipher => rfl
  | none => rfl

/-- A call on the cipher that a name is resolved to, with the canonical name. -/
def withCipherOf {Out : Type} (s : ByteString) (refused : ByteString → Bool)
    (message : ByteString) (body : EvpCipher → ByteString → Except ToolException Out) :
    Except ToolException Out := do
  let canonical ← normalizeCipherName s
  rejectWhen (refused canonical) message
  match resolveCipher s with
  | .ok cipher => body cipher canonical
  | .error _ =>
      .error (.invalidArgument
        (ascii "Unsupported algorithm-specific AES EVP cipher: " ++ canonical))

/-- Resolving the canonical name a second time changes nothing. -/
theorem withCipherOf_eq {Out : Type} (s : ByteString) (refused : ByteString → Bool)
    (message : ByteString) (body : EvpCipher → ByteString → Except ToolException Out) :
    (do
      let canonical ← normalizeCipherName s
      rejectWhen (refused canonical) message
      let cipher ← resolveCipher canonical
      body cipher canonical) = withCipherOf s refused message body := by
  unfold withCipherOf
  cases hname : normalizeCipherName s with
  | error exception => rfl
  | ok n =>
      simp only [bind, Except.bind]
      rw [resolveCipher_canonical hname]
      cases resolveCipher s with
      | ok cipher => rfl
      | error exception => rfl

section Calls

variable (evp : EvpCipherApi)

/-- What follows the resolution in `encrypt` and `decrypt`. -/
def cipherCall (encrypting : Bool) (key iv input : Bytes) (padding : Bool) (cipher : EvpCipher)
    (canonical : ByteString) : Except ToolException Bytes := do
  requireKeyLen evp cipher key
  requireIvLen evp cipher iv canonical
  let direction := if encrypting then ascii "Encrypt" else ascii "Decrypt"
  let ctx ← makeCtx evp
  let ctx ← check1 (ascii "EVP_" ++ direction ++ ascii "Init_ex failed")
    (evp.init encrypting (some cipher) (some key) (if iv.isEmpty then none else some iv) ctx)
  let ctx ← check1 (ascii "EVP_CIPHER_CTX_set_padding failed") (evp.setPadding padding ctx)
  let written ← evpUpdate evp input
    (if encrypting then ascii "plaintext" else ascii "ciphertext") encrypting ctx
  let final ← check1 (ascii "EVP_" ++ direction ++ ascii "Final_ex failed")
    (evp.final encrypting written.2)
  .ok (written.1 ++ final.1)

/-- What follows it in `aead_encrypt`. -/
def aeadEncryptCall (key nonce aad plaintext : Bytes) (tagLen : ℕ) (cipher : EvpCipher)
    (canonical : ByteString) : Except ToolException AeadEncryptResult := do
  requireKeyLen evp cipher key
  if isCcm canonical then encryptCcm evp cipher key nonce aad plaintext tagLen
  else encryptGcmOcb evp cipher canonical key nonce aad plaintext tagLen

/-- What follows it in `aead_decrypt`. -/
def aeadDecryptCall (key nonce aad ciphertext tag : Bytes) (cipher : EvpCipher)
    (canonical : ByteString) : Except ToolException AeadDecryptResult := do
  requireKeyLen evp cipher key
  if isCcm canonical then decryptCcm evp cipher key nonce aad ciphertext tag
  else decryptGcmOcb evp cipher canonical key nonce aad ciphertext tag

/-- The four calls run on the cipher that `resolve_cipher` finds for the name as it
was given. -/
structure UsesResolvedCipher (s : ByteString) : Prop where
  encrypt : ∀ key iv plaintext padding,
    encrypt evp s key iv plaintext padding =
      withCipherOf s isAead (ascii "Use aead_encrypt for GCM/CCM/OCB")
        (cipherCall evp true key iv plaintext padding)
  decrypt : ∀ key iv ciphertext padding,
    decrypt evp s key iv ciphertext padding =
      withCipherOf s isAead (ascii "Use aead_decrypt for GCM/CCM/OCB")
        (cipherCall evp false key iv ciphertext padding)
  aeadEncrypt : ∀ key nonce aad plaintext tagLen,
    aeadEncrypt evp s key nonce aad plaintext tagLen =
      withCipherOf s (fun canonical => !isAead canonical)
        (ascii "Use encrypt for non-AEAD modes")
        (aeadEncryptCall evp key nonce aad plaintext tagLen)
  aeadDecrypt : ∀ key nonce aad ciphertext tag,
    aeadDecrypt evp s key nonce aad ciphertext tag =
      withCipherOf s (fun canonical => !isAead canonical)
        (ascii "Use decrypt for non-AEAD modes")
        (aeadDecryptCall evp key nonce aad ciphertext tag)

theorem usesResolvedCipher (s : ByteString) : UsesResolvedCipher evp s where
  encrypt := fun _ _ _ _ => withCipherOf_eq s _ _ _
  decrypt := fun _ _ _ _ => withCipherOf_eq s _ _ _
  aeadEncrypt := fun _ _ _ _ _ => withCipherOf_eq s _ _ _
  aeadDecrypt := fun _ _ _ _ _ => withCipherOf_eq s _ _ _

end Calls

/-- The contexts that come from one made for the name. -/
inductive ComesFrom {evp : EvpDigestApi} (s : ByteString) : DirectDigestContext evp → Prop
  | new {context : DirectDigestContext evp} : newContext evp s = .ok context → ComesFrom s context
  | update {context : DirectDigestContext evp} (data : Buffer) :
      ComesFrom s context → ComesFrom s (context.update data).2
  | final {context : DirectDigestContext evp} :
      ComesFrom s context → ComesFrom s context.final.2
  | finalXof {context : DirectDigestContext evp} (outputLen : ℕ) :
      ComesFrom s context → ComesFrom s (context.finalXof outputLen).2
  | clone {context copied : DirectDigestContext evp} :
      ComesFrom s context → context.clone = .ok copied → ComesFrom s copied

/-- The context has the algorithm of the name, also under its canonical name. -/
structure HasAlgorithm {evp : EvpDigestApi} (s : ByteString) (context : DirectDigestContext evp) :
    Prop where
  canonicalName : context.canonicalName = normalizeDigestName s
  md : resolveDigest s = .ok context.md
  resolvedAgain : resolveDigest context.canonicalName = .ok context.md

theorem resolveDigest_canonical {s : ByteString} {md : EvpMd} (hmd : resolveDigest s = .ok md) :
    resolveDigest (normalizeDigestName s) = .ok md := by
  rw [resolveDigest] at hmd ⊢
  rw [normalizeDigestName_idempotent]
  cases hfound : evpDigests.lookup (normalizeDigestName s) with
  | some found =>
      rw [hfound] at hmd
      exact hmd
  | none =>
      rw [hfound] at hmd
      cases hmd

variable {evp : EvpDigestApi} {s : ByteString} {context : DirectDigestContext evp}

/-- The calls leave the name and the digest of a context alone. -/
theorem hasAlgorithm_of_eq {after : DirectDigestContext evp} (halgorithm : HasAlgorithm s context)
    (hname : after.canonicalName = context.canonicalName) (hmd : after.md = context.md) :
    HasAlgorithm s after where
  canonicalName := hname.trans halgorithm.canonicalName
  md := hmd ▸ halgorithm.md
  resolvedAgain := by rw [hname, hmd, halgorithm.resolvedAgain]

theorem hasAlgorithm_of_comesFrom (hcomes : ComesFrom s context) : HasAlgorithm s context := by
  induction hcomes with
  | new hnew =>
      simp only [newContext, except_bind_ok] at hnew
      obtain ⟨md, hmd, raw, _, ctx, _, hcontext⟩ := hnew
      obtain rfl := Except.ok.inj hcontext
      exact ⟨rfl, hmd, resolveDigest_canonical hmd⟩
  | update data _ ih =>
      unfold DirectDigestContext.update
      split
      · exact ih
      · split
        · exact ih
        · exact hasAlgorithm_of_eq ih rfl rfl
  | final _ ih =>
      unfold DirectDigestContext.final
      split
      · exact ih
      · split
        · exact ih
        · exact hasAlgorithm_of_eq ih rfl rfl
  | finalXof outputLen _ ih =>
      unfold DirectDigestContext.finalXof
      split
      · exact ih
      · split
        · exact ih
        · exact hasAlgorithm_of_eq ih rfl rfl
  | clone _ hclone ih =>
      simp only [DirectDigestContext.clone, except_bind_ok] at hclone
      obtain ⟨raw, _, copied, _, hcontext⟩ := hclone
      obtain rfl := Except.ok.inj hcontext
      exact hasAlgorithm_of_eq ih rfl rfl

/-- Normalisation sees the letters and digits of a name only and is idempotent, so
the calls that normalise twice use the cipher of the name itself, and every clone
has the digest of the name its original was made for. -/
theorem nameNormalisation_stable :
    (∀ s t, Respelled s t →
        normalizeCipherName t = normalizeCipherName s ∧
          normalizeDigestName t = normalizeDigestName s) ∧
      (∀ s n, normalizeCipherName s = .ok n → normalizeCipherName n = .ok n) ∧
      (∀ s, normalizeDigestName (normalizeDigestName s) = normalizeDigestName s) ∧
      (∀ evp s, UsesResolvedCipher evp s) ∧
      ∀ (evp : EvpDigestApi) (s : ByteString) (context : DirectDigestContext evp),
        ComesFrom s context → HasAlgorithm s context :=
  ⟨fun _ _ hrespelled =>
      ⟨normalizeCipherName_respelled hrespelled, normalizeDigestName_respelled hrespelled⟩,
    fun _ _ hname => normalizeCipherName_idempotent hname, normalizeDigestName_idempotent,
    usesResolvedCipher, fun _ _ _ hcomes => hasAlgorithm_of_comesFrom hcomes⟩

end ShoppingWeb.Evp
