import ShoppingWeb.Evp.AesDirectTool

/-!
# EVP as an AEAD state machine

The EVP functions for GCM, CCM and OCB over an abstract AEAD scheme.  What a
context computes depends on the lengths configured and on the key, nonce,
additional data and payload it has been given; a call out of order fails.  GCM
computes 16 bytes of tag and cuts them; CCM and OCB compute a tag for the
configured length, 16 in OCB unless it is set.
-/

namespace ShoppingWeb.Evp

open ShoppingWeb.Shared

def AesMode.isAead (mode : AesMode) : Bool := mode = .gcm ∨ mode = .ccm ∨ mode = .ocb

/-- An AEAD scheme for each cipher and tag length, with the choices EVP makes:
the nonce lengths accepted, how many output bytes an update gives out, and
whether CCM has a tag to give when no payload came. -/
structure AeadScheme where
  keyLength : EvpCipher → ℤ
  ivLength : EvpCipher → ℤ
  blockSize : EvpCipher → ℤ
  acceptsIvLength : EvpCipher → ℕ → Bool
  released : EvpCipher → ℕ → ℕ
  tagsEmptyCcm : Bool
  errors : ErrorStack
  encrypt (cipher : EvpCipher) (tagLength : ℕ) (key nonce plaintext : Bytes) : Bytes
  decrypt (cipher : EvpCipher) (tagLength : ℕ) (key nonce ciphertext : Bytes) : Bytes
  tag (cipher : EvpCipher) (tagLength : ℕ) (key nonce aad plaintext : Bytes) : Bytes
  decrypt_encrypt : ∀ cipher tagLength key nonce plaintext,
    decrypt cipher tagLength key nonce (encrypt cipher tagLength key nonce plaintext) = plaintext
  length_encrypt : ∀ cipher tagLength key nonce plaintext,
    (encrypt cipher tagLength key nonce plaintext).length = plaintext.length
  length_tag : ∀ cipher tagLength key nonce aad plaintext,
    (tag cipher tagLength key nonce aad plaintext).length = tagLength

/-- A context after its cipher has been set. -/
structure AeadCtx where
  cipher : EvpCipher
  encrypting : Bool
  ivLength : ℕ
  tagLength : ℕ
  key : Option Bytes
  nonce : Option Bytes
  announced : Option ℕ
  aad : Bytes
  payload : Bytes
  hasPayload : Bool
  expectedTag : Option Bytes
  finished : Bool
  deriving DecidableEq, Repr

namespace AeadScheme

variable (scheme : AeadScheme)

/-- GCM does not depend on the tag length. -/
def tagParameter (cipher : EvpCipher) (tagLength : ℕ) : ℕ :=
  if cipher.mode = .gcm then 16 else tagLength

def ciphertextOf (cipher : EvpCipher) (tagLength : ℕ) (key nonce plaintext : Bytes) : Bytes :=
  scheme.encrypt cipher (tagParameter cipher tagLength) key nonce plaintext

def plaintextOf (cipher : EvpCipher) (tagLength : ℕ) (key nonce ciphertext : Bytes) : Bytes :=
  scheme.decrypt cipher (tagParameter cipher tagLength) key nonce ciphertext

/-- The tag of a given length that the scheme assigns. -/
def tagOf (cipher : EvpCipher) (tagLength : ℕ) (key nonce aad plaintext : Bytes) : Bytes :=
  (scheme.tag cipher (tagParameter cipher tagLength) key nonce aad plaintext).take tagLength

def fail {Value : Type} : Except ErrorStack Value := .error scheme.errors

@[simp]
theorem ite_fail_eq_ok {Value : Type} {condition : Prop} [Decidable condition]
    {outcome : Except ErrorStack Value} {value : Value} :
    (if condition then outcome else scheme.fail) = .ok value ↔
      condition ∧ outcome = .ok value := by
  split
  · rename_i hcondition
    simp [hcondition]
  · rename_i hcondition
    simp [hcondition, fail]

def fresh (cipher : EvpCipher) : AeadCtx where
  cipher
  encrypting := true
  ivLength := (scheme.ivLength cipher).toNat
  tagLength := if cipher.mode = .ccm then 12 else 16
  key := none
  nonce := none
  announced := none
  aad := []
  payload := []
  hasPayload := false
  expectedTag := none
  finished := false

/-- A new key or nonce starts a new message. -/
def begin (encrypting : Bool) (key iv : Option Bytes) (ctx : AeadCtx) : AeadCtx :=
  { ctx with
    encrypting
    key := key <|> ctx.key
    nonce := iv.map (List.take ctx.ivLength) <|> ctx.nonce
    announced := none
    aad := []
    payload := []
    hasPayload := false
    finished := false }

def init (encrypting : Bool) (cipher : Option EvpCipher) (key iv : Option Bytes)
    (ctx : Option AeadCtx) : Except ErrorStack (Option AeadCtx) :=
  match cipher, ctx with
  | some cipher, _ =>
      if cipher.mode.isAead then .ok (some (begin encrypting key iv (scheme.fresh cipher)))
      else scheme.fail
  | none, some ctx => .ok (some (begin encrypting key iv ctx))
  | none, none => scheme.fail

/-- A call on a context that has a cipher. -/
def withCipher {Value : Type} (call : AeadCtx → Except ErrorStack Value) :
    Option AeadCtx → Except ErrorStack Value
  | none => scheme.fail
  | some ctx => call ctx

def setIvLength (length : ℕ) : Option AeadCtx → Except ErrorStack (Option AeadCtx) :=
  scheme.withCipher fun ctx =>
    if scheme.acceptsIvLength ctx.cipher length then
      .ok (some { ctx with ivLength := length, nonce := none })
    else scheme.fail

def acceptsTagLength (mode : AesMode) (length : ℕ) : Bool :=
  match mode with
  | .ccm => 4 ≤ length ∧ length ≤ 16 ∧ length % 2 = 0
  | .ocb => length ≤ 16
  | _ => 1 ≤ length ∧ length ≤ 16

/-- Without a tag only CCM and OCB take a length, and only before the payload.
A tag is for decryption; OCB wants it to have the length set. -/
def setTag (length : ℕ) (tag : Option Bytes) :
    Option AeadCtx → Except ErrorStack (Option AeadCtx) :=
  scheme.withCipher fun ctx =>
    match tag with
    | none =>
        if ctx.cipher.mode ≠ .gcm ∧ acceptsTagLength ctx.cipher.mode length ∧
            ctx.hasPayload = false then
          .ok (some { ctx with tagLength := length })
        else scheme.fail
    | some tag =>
        if ctx.encrypting = false ∧ acceptsTagLength ctx.cipher.mode length ∧
            (ctx.cipher.mode = .ocb → length = ctx.tagLength) then
          .ok (some { ctx with tagLength := length, expectedTag := some (tag.take length) })
        else scheme.fail

/-- A call that needs a key and a nonce, in the direction of the context. -/
def withKeys {Value : Type} (encrypting : Bool)
    (call : AeadCtx → (key nonce : Bytes) → Except ErrorStack Value) :
    Option AeadCtx → Except ErrorStack Value :=
  scheme.withCipher fun ctx =>
    match ctx.key, ctx.nonce with
    | some key, some nonce =>
        if ctx.encrypting = encrypting ∧ ctx.finished = false then call ctx key nonce
        else scheme.fail
    | _, _ => scheme.fail

/-- CCM needs the length first; no mode takes additional data after payload. -/
def updateAad (encrypting : Bool) (aad : Bytes) :
    Option AeadCtx → Except ErrorStack (Option AeadCtx) :=
  scheme.withKeys encrypting fun ctx _ _ =>
    if ctx.hasPayload = false ∧ (ctx.cipher.mode = .ccm → ctx.announced.isSome) then
      .ok (some { ctx with aad := ctx.aad ++ aad })
    else scheme.fail

def announceLength (encrypting : Bool) (length : ℕ) :
    Option AeadCtx → Except ErrorStack (Option AeadCtx) :=
  scheme.withKeys encrypting fun ctx _ _ =>
    if ctx.cipher.mode = .ccm ∧ ctx.hasPayload = false then
      .ok (some { ctx with announced := some length })
    else scheme.fail

/-- The output for the whole payload so far. -/
def outputOf (ctx : AeadCtx) (key nonce payload : Bytes) : Bytes :=
  if ctx.encrypting then scheme.ciphertextOf ctx.cipher ctx.tagLength key nonce payload
  else scheme.plaintextOf ctx.cipher ctx.tagLength key nonce payload

/-- The tag set is the one of the payload. -/
def tagMatches (ctx : AeadCtx) (key nonce payload : Bytes) : Bool :=
  ctx.expectedTag = some (scheme.tagOf ctx.cipher ctx.tagLength key nonce ctx.aad
    (scheme.plaintextOf ctx.cipher ctx.tagLength key nonce payload))

/-- How much output earlier updates have given out. -/
def releasedBefore (ctx : AeadCtx) : ℕ :=
  if ctx.hasPayload then scheme.released ctx.cipher ctx.payload.length else 0

/-- CCM takes its payload at once and checks the tag here; GCM and OCB give out
a part of the output. -/
def update (encrypting : Bool) (input : Bytes) :
    Option AeadCtx → Except ErrorStack (Bytes × Option AeadCtx) :=
  scheme.withKeys encrypting fun ctx key nonce =>
    let payload := ctx.payload ++ input
    let output := scheme.outputOf ctx key nonce payload
    let after : Option AeadCtx := some { ctx with payload, hasPayload := true }
    if ctx.cipher.mode = .ccm then
      if ctx.hasPayload = false ∧ ctx.announced.getD input.length = input.length ∧
          (ctx.encrypting = false → scheme.tagMatches ctx key nonce payload) then
        .ok (output, after)
      else scheme.fail
    else
      .ok ((output.take (scheme.released ctx.cipher payload.length)).drop
        (scheme.releasedBefore ctx), after)

/-- GCM and OCB give out the rest, on decryption if the tag matches. -/
def final (encrypting : Bool) : Option AeadCtx → Except ErrorStack (Bytes × Option AeadCtx) :=
  scheme.withKeys encrypting fun ctx key nonce =>
    let after : Option AeadCtx := some { ctx with finished := true }
    if ctx.cipher.mode = .ccm then .ok ([], after)
    else if ctx.encrypting = false → scheme.tagMatches ctx key nonce ctx.payload then
      .ok ((scheme.outputOf ctx key nonce ctx.payload).drop (scheme.releasedBefore ctx), after)
    else scheme.fail

def getTag (length : ℕ) : Option AeadCtx → Except ErrorStack Bytes :=
  scheme.withCipher fun ctx =>
    match ctx.key, ctx.nonce with
    | some key, some nonce =>
        if ctx.encrypting ∧ ctx.finished ∧ acceptsTagLength ctx.cipher.mode length ∧
            (ctx.cipher.mode ≠ .gcm → length = ctx.tagLength) ∧
            (ctx.cipher.mode = .ccm → ctx.hasPayload ∨ scheme.tagsEmptyCcm) then
          .ok (scheme.tagOf ctx.cipher length key nonce ctx.aad ctx.payload)
        else scheme.fail
    | _, _ => scheme.fail

abbrev evp : EvpCipherApi where
  Ctx := Option AeadCtx
  keyLength := scheme.keyLength
  ivLength := scheme.ivLength
  blockSize := scheme.blockSize
  new := .ok none
  init := scheme.init
  setPadding _ ctx := .ok ctx
  setIvLength := scheme.setIvLength
  setTag := scheme.setTag
  getTag := scheme.getTag
  updateAad := scheme.updateAad
  announceLength := scheme.announceLength
  update := scheme.update
  final := scheme.final

end AeadScheme

end ShoppingWeb.Evp
