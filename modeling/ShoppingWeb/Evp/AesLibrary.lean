import ShoppingWeb.Evp.AeadRoundTrip
import ShoppingWeb.Evp.ApiEmbedding
import ShoppingWeb.Evp.CipherRoundTrip

/-!
# One library for all modes

The AEAD machine and the cipher machine as one EVP: the cipher that a context
gets decides which of the two serves it.  What holds of the tool's functions on
either machine holds of them on the library.
-/

namespace ShoppingWeb.Evp

open ShoppingWeb.ByteText
open ShoppingWeb.Shared
open CipherScheme

/-- Both machines over one AES, with one error queue. -/
structure AesLibrary where
  aead : AeadScheme
  classical : CipherScheme
  errors_eq : classical.errors = aead.errors

/-- A context of either machine, or one without a cipher. -/
abbrev LibraryCtx := Option (AeadCtx ⊕ CipherCtx)

namespace LibraryCtx

def ofAead (ctx : Option AeadCtx) : LibraryCtx := ctx.map Sum.inl

def ofClassical (ctx : Option CipherCtx) : LibraryCtx := ctx.map Sum.inr

def classicalPart (ctx : LibraryCtx) : Option CipherCtx := ctx.bind Sum.getRight?

/-- A call is served by the machine of the context's cipher. -/
def serve {Value : Type} (onAead : Option AeadCtx → Except ErrorStack Value)
    (onClassical : Option CipherCtx → Except ErrorStack Value) :
    LibraryCtx → Except ErrorStack Value
  | none => onAead none
  | some (.inl ctx) => onAead (some ctx)
  | some (.inr ctx) => onClassical (some ctx)

/-- A call that leaves a context. -/
def change (onAead : Option AeadCtx → Except ErrorStack (Option AeadCtx))
    (onClassical : Option CipherCtx → Except ErrorStack (Option CipherCtx)) :
    LibraryCtx → Except ErrorStack LibraryCtx :=
  serve (fun ctx => (onAead ctx).map ofAead) (fun ctx => (onClassical ctx).map ofClassical)

/-- A call that writes and leaves a context. -/
def write (onAead : Option AeadCtx → Except ErrorStack (Bytes × Option AeadCtx))
    (onClassical : Option CipherCtx → Except ErrorStack (Bytes × Option CipherCtx)) :
    LibraryCtx → Except ErrorStack (Bytes × LibraryCtx) :=
  serve (fun ctx => (onAead ctx).map (Prod.map id ofAead))
    (fun ctx => (onClassical ctx).map (Prod.map id ofClassical))

end LibraryCtx

namespace AesLibrary

open LibraryCtx

variable (library : AesLibrary)

def init (encrypting : Bool) (cipher : Option EvpCipher) (key iv : Option Bytes)
    (ctx : LibraryCtx) : Except ErrorStack LibraryCtx :=
  match cipher with
  | none =>
      change (library.aead.init encrypting none key iv)
        (library.classical.init encrypting none key iv) ctx
  | some cipher =>
      if cipher.mode.isAead then
        (library.aead.init encrypting (some cipher) key iv none).map ofAead
      else
        (library.classical.init encrypting (some cipher) key iv ctx.classicalPart).map ofClassical

abbrev evp : EvpCipherApi where
  Ctx := LibraryCtx
  keyLength cipher :=
    if cipher.mode.isAead then library.aead.keyLength cipher
    else library.classical.keyLength cipher
  ivLength cipher :=
    if cipher.mode.isAead then library.aead.ivLength cipher
    else library.classical.ivLength cipher
  blockSize cipher := cipher.mode.blockLength
  new := .ok none
  init := library.init
  setPadding padding := change .ok (setPadding padding)
  setIvLength length := change (library.aead.setIvLength length) fun _ => library.classical.fail
  setTag length tag := change (library.aead.setTag length tag) fun _ => library.classical.fail
  getTag length := serve (library.aead.getTag length) fun _ => library.classical.fail
  updateAad encrypting aad :=
    change (library.aead.updateAad encrypting aad) fun _ => library.classical.fail
  announceLength encrypting length :=
    change (library.aead.announceLength encrypting length) fun _ => library.classical.fail
  update encrypting input :=
    write (library.aead.update encrypting input) (library.classical.update encrypting input)
  final encrypting := write (library.aead.final encrypting) (library.classical.final encrypting)

/-- The AEAD machine is a part of the library. -/
theorem embeds_aead :
    Embeds library.aead.evp library.evp (fun cipher => cipher.mode.isAead = true) ofAead where
  keyLength _ haead := if_pos haead
  ivLength _ haead := if_pos haead
  new := rfl
  initCipher encrypting cipher key iv ctx haead := by
    change library.init encrypting (some cipher) key iv (ofAead ctx) =
      (library.aead.init encrypting (some cipher) key iv none).map ofAead
    exact if_pos haead
  initKey _ _ _ ctx := by cases ctx <;> rfl
  setPadding _ ctx := by cases ctx <;> rfl
  setIvLength _ ctx := by cases ctx <;> rfl
  setTag _ _ ctx := by cases ctx <;> rfl
  getTag _ ctx := by cases ctx <;> rfl
  updateAad _ _ ctx := by cases ctx <;> rfl
  announceLength _ _ ctx := by cases ctx <;> rfl
  update _ _ ctx := by cases ctx <;> rfl
  final _ ctx := by cases ctx <;> rfl

/-- So is the cipher machine; without a cipher both machines fail alike. -/
theorem embeds_classical :
    Embeds library.classical.evp library.evp (fun cipher => cipher.mode.isAead = false)
      ofClassical where
  keyLength _ hclassical := if_neg (by simp [hclassical])
  ivLength _ hclassical := if_neg (by simp [hclassical])
  new := rfl
  initCipher encrypting cipher key iv ctx hclassical := by
    have hpart : (ofClassical ctx).classicalPart = ctx := by cases ctx <;> rfl
    calc
      library.init encrypting (some cipher) key iv (ofClassical ctx) =
          (library.classical.init encrypting (some cipher) key iv
            (ofClassical ctx).classicalPart).map ofClassical := if_neg (by simp [hclassical])
      _ = (library.classical.init encrypting (some cipher) key iv ctx).map ofClassical := by
        rw [hpart]
  initKey _ _ _ ctx := by
    cases ctx with
    | none => exact congrArg Except.error library.errors_eq.symm
    | some ctx => rfl
  setPadding _ ctx := by cases ctx <;> rfl
  setIvLength _ ctx := by
    cases ctx with
    | none => exact congrArg Except.error library.errors_eq.symm
    | some ctx => rfl
  setTag _ _ ctx := by
    cases ctx with
    | none => exact congrArg Except.error library.errors_eq.symm
    | some ctx => rfl
  getTag _ ctx := by
    cases ctx with
    | none => exact congrArg Except.error library.errors_eq.symm
    | some ctx => rfl
  updateAad _ _ ctx := by
    cases ctx with
    | none => exact congrArg Except.error library.errors_eq.symm
    | some ctx => rfl
  announceLength _ _ ctx := by
    cases ctx with
    | none => exact congrArg Except.error library.errors_eq.symm
    | some ctx => rfl
  update _ _ ctx := by
    cases ctx with
    | none => exact congrArg Except.error library.errors_eq.symm
    | some ctx => rfl
  final _ ctx := by
    cases ctx with
    | none => exact congrArg Except.error library.errors_eq.symm
    | some ctx => rfl

/-- In every mode without authentication the tool decrypts exactly what it
encrypts, as long as the ciphertext has a length that fits an `int`, and that
the key encrypts too. -/
theorem encrypt_iff_decrypt (cipherName key iv plaintext ciphertext : Bytes) (padding : Bool) :
    encrypt library.evp cipherName key iv plaintext padding = .ok ciphertext ∧
        ciphertext.length ≤ INT_MAX ↔
      decrypt library.evp cipherName key iv ciphertext padding = .ok plaintext ∧
        EncryptsUnder library.classical cipherName key := by
  have hclassical (cipher : EvpCipher) (hmode : cipher.mode.isAead = false) :
      cipher.mode.isAead = false := hmode
  rw [encrypt_embeds library.embeds_classical hclassical,
    decrypt_embeds library.embeds_classical hclassical]
  exact encrypt_ok_iff_decrypt_ok

end AesLibrary

/-- The first block of AES-128-CTR under an all-zero key and IV. -/
def demoCounterBlock : Bytes :=
  [0x66, 0xe9, 0x4b, 0xd4, 0xef, 0x8a, 0x2c, 0x3b, 0x88, 0x4c, 0xfa, 0x59, 0xca, 0x34, 0x2b, 0x2e]

theorem addKeystream_nil (input : Bytes) : addKeystream input [] = input := by
  cases input <;> rfl

theorem take_addKeystream (input keystream : Bytes) (count : ℕ) :
    (addKeystream input keystream).take count = addKeystream (input.take count) keystream := by
  induction input, keystream using addKeystream.induct generalizing count with
  | case1 keystream => simp [addKeystream]
  | case2 input hinput => rw [addKeystream_nil, addKeystream_nil]
  | case3 byte input pad keystream ih =>
      cases count with
      | zero => simp [addKeystream]
      | succ count => simp [addKeystream, ih]

/-- It answers as AES-CTR does on the first block, and does not process XTS or
the key wraps. -/
def demoCipherScheme : CipherScheme where
  keyLength _ := 16
  ivLength _ := 16
  acceptsKey _ _ _ := true
  allowsWrap := false
  errors := []
  transform _ _ _ _ input := addKeystream input demoCounterBlock
  process _ _ _ _ _ := none
  acceptsKey_decrypt _ _ _ := rfl
  length_transform _ _ _ _ input := length_addKeystream input demoCounterBlock
  take_transform _ _ _ _ input count _ := take_addKeystream input demoCounterBlock count
  transform_eq_iff _ _ _ plaintext ciphertext _ := by
    constructor
    · rintro rfl
      exact addKeystream_addKeystream plaintext demoCounterBlock
    · rintro rfl
      exact addKeystream_addKeystream ciphertext demoCounterBlock
  process_eq_iff _ _ _ _ _ _ _ := by simp
  process_output _ _ _ _ _ _ _ hprocess := nomatch hprocess

def demoLibrary : AesLibrary where
  aead := demoScheme
  classical := demoCipherScheme
  errors_eq := rfl

example : encrypt demoLibrary.evp (ascii "aes-128-ctr") (List.replicate 16 0)
    (List.replicate 16 0) (List.replicate 16 0) false = .ok demoCounterBlock := by decide

end ShoppingWeb.Evp
