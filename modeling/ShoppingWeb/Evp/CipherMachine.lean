import ShoppingWeb.Evp.AeadMachine
import ShoppingWeb.Lib.Padding

/-!
# EVP as a cipher state machine

The EVP functions for the modes without authentication, over an abstract AES.
ECB and CBC work in blocks of 16 bytes, and padding fills their last block; the
stream modes work byte by byte.  An update gives out what its whole blocks come
to, except that a decryption that will take padding off keeps the last block
back.  XTS and the key wraps turn each update's input into its output at once.
-/

namespace ShoppingWeb.Evp

open ShoppingWeb.Padding
open ShoppingWeb.Shared

def AesMode.isBlockwise (mode : AesMode) : Bool :=
  mode = .ecb ∨ mode = .cbc ∨ mode = .ofb ∨ mode = .cfb128 ∨ mode = .cfb1 ∨ mode = .cfb8 ∨
    mode = .ctr

/-- `EVP_CIPHER_get_block_size` -/
def AesMode.blockLength : AesMode → ℕ
  | .ecb | .cbc | .ocb => 16
  | .wrap | .wrapPad => 8
  | _ => 1

/-- AES as EVP gives it: `transform` for the blockwise modes, on any number of
whole blocks, and `process` for the others, which fails on a length that the
mode does not take and on a wrapping that does not check.  Keys can be refused
for encryption alone, as XTS does when both halves are equal, and the key wraps
can be refused altogether, as they are without `EVP_CIPHER_CTX_FLAG_WRAP_ALLOW`
in some versions.  The lengths that EVP reports are `int`s. -/
structure CipherScheme where
  keyLength : EvpCipher → ℤ
  ivLength : EvpCipher → ℤ
  acceptsKey (encrypting : Bool) (cipher : EvpCipher) (key : Bytes) : Bool
  allowsWrap : Bool
  errors : ErrorStack
  transform (encrypting : Bool) (cipher : EvpCipher) (key : Bytes) (iv : Option Bytes)
    (input : Bytes) : Bytes
  process (encrypting : Bool) (cipher : EvpCipher) (key : Bytes) (iv : Option Bytes)
    (input : Bytes) : Option Bytes
  acceptsKey_decrypt : ∀ cipher key,
    acceptsKey true cipher key = true → acceptsKey false cipher key = true
  length_transform : ∀ encrypting cipher key iv input,
    (transform encrypting cipher key iv input).length = input.length
  take_transform : ∀ encrypting cipher key iv input count, cipher.mode.blockLength ∣ count →
    (transform encrypting cipher key iv input).take count =
      transform encrypting cipher key iv (input.take count)
  transform_eq_iff : ∀ cipher key iv plaintext ciphertext,
    cipher.mode.blockLength ∣ plaintext.length →
      (transform true cipher key iv plaintext = ciphertext ↔
        transform false cipher key iv ciphertext = plaintext)
  process_eq_iff : ∀ cipher key iv plaintext ciphertext, plaintext ≠ [] → ciphertext ≠ [] →
    (process true cipher key iv plaintext = some ciphertext ↔
      process false cipher key iv ciphertext = some plaintext)
  process_output : ∀ encrypting cipher key iv input output, input ≠ [] →
    process encrypting cipher key iv input = some output → output ≠ [] ∧ output.length ≤ INT_MAX

/-- A context after its cipher has been set, with what has come in and how much
of it has gone out. -/
structure CipherCtx where
  cipher : EvpCipher
  encrypting : Bool
  key : Option Bytes
  iv : Option Bytes
  padding : Bool
  input : Bytes
  written : ℕ
  finished : Bool
  deriving DecidableEq, Repr

namespace CipherCtx

/-- A stream has no block to fill. -/
def pads (ctx : CipherCtx) : Bool := ctx.padding ∧ ctx.cipher.mode.blockLength ≠ 1

/-- How many bytes are out after an update has brought the input to a length. -/
def released (ctx : CipherCtx) (length : ℕ) : ℕ :=
  let block := ctx.cipher.mode.blockLength
  if ctx.pads ∧ ctx.encrypting = false then (length - 1) / block * block
  else length / block * block

end CipherCtx

namespace CipherScheme

variable (scheme : CipherScheme)

def fail {Value : Type} : Except ErrorStack Value := .error scheme.errors

/-- A new cipher, key or IV starts a new message; the padding of the context is
kept, and is on at first. -/
def begin (cipher : EvpCipher) (encrypting : Bool) (key iv : Option Bytes)
    (ctx : Option CipherCtx) : CipherCtx where
  cipher
  encrypting
  key := key <|> ctx.bind CipherCtx.key
  iv := iv <|> ctx.bind CipherCtx.iv
  padding := (ctx.map CipherCtx.padding).getD true
  input := []
  written := 0
  finished := false

/-- The mode is one of this machine and not refused. -/
def acceptsMode (mode : AesMode) : Bool :=
  !mode.isAead && (scheme.allowsWrap || (mode ≠ .wrap && mode ≠ .wrapPad))

def acceptsInit (cipher : EvpCipher) (encrypting : Bool) (key : Option Bytes) : Bool :=
  scheme.acceptsMode cipher.mode && key.all (scheme.acceptsKey encrypting cipher)

def init (encrypting : Bool) (cipher : Option EvpCipher) (key iv : Option Bytes)
    (ctx : Option CipherCtx) : Except ErrorStack (Option CipherCtx) :=
  match cipher <|> ctx.map CipherCtx.cipher with
  | none => scheme.fail
  | some cipher =>
      if scheme.acceptsInit cipher encrypting key then
        .ok (some (begin cipher encrypting key iv ctx))
      else scheme.fail

def setPadding (padding : Bool) (ctx : Option CipherCtx) :
    Except ErrorStack (Option CipherCtx) :=
  .ok (ctx.map fun ctx => { ctx with padding })

/-- A call that needs a key, in the direction of the context. -/
def withKey {Value : Type} (encrypting : Bool)
    (call : CipherCtx → (key : Bytes) → Except ErrorStack Value) :
    Option CipherCtx → Except ErrorStack Value
  | none => scheme.fail
  | some ctx =>
      match ctx.key with
      | none => scheme.fail
      | some key =>
          if ctx.encrypting = encrypting ∧ ctx.finished = false then call ctx key
          else scheme.fail

/-- What the input so far comes to. -/
def outputOf (ctx : CipherCtx) (key input : Bytes) : Bytes :=
  scheme.transform ctx.encrypting ctx.cipher key ctx.iv input

def update (encrypting : Bool) (input : Bytes) :
    Option CipherCtx → Except ErrorStack (Bytes × Option CipherCtx) :=
  scheme.withKey encrypting fun ctx key =>
    if ctx.cipher.mode.isBlockwise then
      let input := ctx.input ++ input
      let output := scheme.outputOf ctx key (input.take (ctx.released input.length))
      .ok (output.drop ctx.written, some { ctx with input, written := output.length })
    else
      match scheme.process encrypting ctx.cipher key ctx.iv input with
      | none => scheme.fail
      | some output => .ok (output, some ctx)

/-- The rest of a blockwise output: with padding one more block, which is a
whole one on decryption too, without padding nothing. -/
def lastOutput (ctx : CipherCtx) (key : Bytes) : Option Bytes :=
  let block := ctx.cipher.mode.blockLength
  let rest := ctx.input.drop ctx.written
  if ctx.pads = false then if rest = [] then some [] else none
  else if ctx.encrypting then
    some ((scheme.outputOf ctx key (ctx.input.take ctx.written ++ pad block rest)).drop ctx.written)
  else if rest.length = block then
    unpad block ((scheme.outputOf ctx key ctx.input).drop ctx.written)
  else none

def final (encrypting : Bool) : Option CipherCtx → Except ErrorStack (Bytes × Option CipherCtx) :=
  scheme.withKey encrypting fun ctx key =>
    let after : Option CipherCtx := some { ctx with finished := true }
    if ctx.cipher.mode.isBlockwise then
      match scheme.lastOutput ctx key with
      | none => scheme.fail
      | some output => .ok (output, after)
    else .ok ([], after)

/-- The calls for authenticated modes fail. -/
abbrev evp : EvpCipherApi where
  Ctx := Option CipherCtx
  keyLength := scheme.keyLength
  ivLength := scheme.ivLength
  blockSize cipher := cipher.mode.blockLength
  new := .ok none
  init := scheme.init
  setPadding := setPadding
  setIvLength _ _ := scheme.fail
  setTag _ _ _ := scheme.fail
  getTag _ _ := scheme.fail
  updateAad _ _ _ := scheme.fail
  announceLength _ _ _ := scheme.fail
  update := scheme.update
  final := scheme.final

end CipherScheme

end ShoppingWeb.Evp
