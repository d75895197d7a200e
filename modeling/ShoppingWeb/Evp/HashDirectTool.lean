import ShoppingWeb.Evp.ToolException
import ShoppingWeb.Lib.CallerMemory

/-!
# The hash tool

`DirectDigestContext` and `EVPHashDirectTool` over the calls they make to EVP.
A call that works on a context leaves one also when it fails.
-/

namespace ShoppingWeb.Evp

open ShoppingWeb.ByteText
open ShoppingWeb.CallerMemory
open ShoppingWeb.Shared

/-- The digests the tool knows, by the EVP function that names them. -/
inductive EvpMd where
  | sha1
  | sha224
  | sha256
  | sha384
  | sha512
  | sha512_224
  | sha512_256
  | sha3_224
  | sha3_256
  | sha3_384
  | sha3_512
  | shake128
  | shake256
  | md5_sha1
  deriving DecidableEq, Repr

/-- The names that `normalize_digest_name` rewrites. -/
def digestSpellings : List (ByteString × ByteString) :=
  [(ascii "SHA", ascii "SHA1"), (ascii "SHA512224", ascii "SHA512-224"),
    (ascii "SHA512256", ascii "SHA512-256"), (ascii "SHA3224", ascii "SHA3-224"),
    (ascii "SHA3256", ascii "SHA3-256"), (ascii "SHA3384", ascii "SHA3-384"),
    (ascii "SHA3512", ascii "SHA3-512"), (ascii "SHAKE128", ascii "SHAKE128"),
    (ascii "SHAKE256", ascii "SHAKE256"), (ascii "MD5SHA1", ascii "MD5-SHA1")]

def normalizeDigestName (s : ByteString) : ByteString :=
  let out := upperAlnum s
  (digestSpellings.lookup out).getD out

def evpDigests : List (ByteString × EvpMd) :=
  [(ascii "SHA1", .sha1), (ascii "SHA224", .sha224), (ascii "SHA256", .sha256),
    (ascii "SHA384", .sha384), (ascii "SHA512", .sha512), (ascii "SHA512-224", .sha512_224),
    (ascii "SHA512-256", .sha512_256), (ascii "SHA3-224", .sha3_224),
    (ascii "SHA3-256", .sha3_256), (ascii "SHA3-384", .sha3_384), (ascii "SHA3-512", .sha3_512),
    (ascii "SHAKE128", .shake128), (ascii "SHAKE256", .shake256), (ascii "MD5-SHA1", .md5_sha1)]

def resolveDigest (algorithmName : ByteString) : Except ToolException EvpMd :=
  match evpDigests.lookup (normalizeDigestName algorithmName) with
  | some md => .ok md
  | none =>
      .error (.invalidArgument (ascii "Unsupported algorithm-specific EVP digest: " ++
        algorithmName))

/-- The EVP functions that the tool calls. -/
structure EvpDigestApi where
  Ctx : Type
  size : EvpMd → ℤ
  blockSize : EvpMd → ℤ
  /-- `md_is_xof`, which is false for every digest before OpenSSL 3. -/
  isXof : EvpMd → Bool
  new : Except ErrorStack Ctx
  init (md : EvpMd) : Ctx → Except ErrorStack Ctx
  update (data : Bytes) : Ctx → Except ErrorStack Unit × Ctx
  final : Ctx → Except ErrorStack Bytes × Ctx
  finalXof (length : ℕ) : Ctx → Except ErrorStack Bytes × Ctx
  /-- `EVP_MD_CTX_copy_ex` into a new context. -/
  copy (raw source : Ctx) : Except ErrorStack Ctx

structure DirectDigestContext (evp : EvpDigestApi) where
  canonicalName : ByteString
  md : EvpMd
  ctx : evp.Ctx

structure DigestInfo where
  canonicalName : ByteString
  outputSize : ℤ
  blockSize : ℤ
  isXof : Bool
  deriving DecidableEq, Repr

variable {evp : EvpDigestApi}

/-- A method of a context: its outcome and the context after it. -/
abbrev Method (evp : EvpDigestApi) (Value : Type) :=
  DirectDigestContext evp → Except ToolException Value × DirectDigestContext evp

/-- A method that throws before it touches the context. -/
def refuse {Value : Type} (message : ByteString) : Method evp Value :=
  fun context => (.error (.invalidArgument message), context)

/-- A method that ends in a call of EVP. -/
def callEvp {Value : Type} (message : ByteString)
    (call : evp.Ctx → Except ErrorStack Value × evp.Ctx) : Method evp Value :=
  fun context =>
    let after := call context.ctx
    (check1 message after.1, { context with ctx := after.2 })

def makeRawCtx (evp : EvpDigestApi) : Except ToolException evp.Ctx :=
  check1 (ascii "EVP_MD_CTX_new failed") evp.new

def newContext (evp : EvpDigestApi) (algorithmName : ByteString) :
    Except ToolException (DirectDigestContext evp) := do
  let md ← resolveDigest algorithmName
  let raw ← makeRawCtx evp
  let ctx ← check1 (ascii "EVP_DigestInit_ex failed") (evp.init md raw)
  .ok ⟨normalizeDigestName algorithmName, md, ctx⟩

namespace DirectDigestContext

def update (data : Buffer) : Method evp Unit :=
  if data.memory.isNone ∧ data.size ≠ 0 then
    refuse (ascii "Digest update data is null but length is non-zero")
  else if data.size = 0 then fun context => (.ok ⟨⟩, context)
  else callEvp (ascii "EVP_DigestUpdate failed") (evp.update data.contents)

def final : Method evp Bytes := fun context =>
  if evp.isXof context.md then
    refuse (ascii "Use final_xof() for SHAKE/XOF digests") context
  else if evp.size context.md ≤ 0 then
    refuse (ascii "EVP_MD_get_size returned invalid digest size") context
  else callEvp (ascii "EVP_DigestFinal_ex failed") evp.final context

/-- The length asked for, or the digest's own for 0. -/
def xofLength (evp : EvpDigestApi) (md : EvpMd) (outputLen : ℕ) : ℕ :=
  if outputLen = 0 then (evp.size md).toNat else outputLen

def finalXof (outputLen : ℕ) : Method evp Bytes := fun context =>
  if evp.isXof context.md = false then
    refuse (ascii "final_xof() is only valid for SHAKE/XOF digests") context
  else if outputLen = 0 ∧ evp.size context.md ≤ 0 then
    refuse (ascii "XOF output length must be non-zero") context
  else
    callEvp (ascii "EVP_DigestFinalXOF failed")
      (evp.finalXof (xofLength evp context.md outputLen)) context

def clone (context : DirectDigestContext evp) :
    Except ToolException (DirectDigestContext evp) := do
  let raw ← makeRawCtx evp
  let copied ← check1 (ascii "EVP_MD_CTX_copy_ex failed") (evp.copy raw context.ctx)
  .ok { context with ctx := copied }

def info (context : DirectDigestContext evp) : DigestInfo where
  canonicalName := context.canonicalName
  outputSize := evp.size context.md
  blockSize := evp.blockSize context.md
  isXof := evp.isXof context.md

end DirectDigestContext

open DirectDigestContext

def digestAvailable (algorithmName : ByteString) : Bool :=
  match resolveDigest algorithmName with
  | .ok _ => true
  | .error _ => false

def digestInfo (evp : EvpDigestApi) (algorithmName : ByteString) :
    Except ToolException DigestInfo := do
  let md ← resolveDigest algorithmName
  .ok
    { canonicalName := normalizeDigestName algorithmName
      outputSize := evp.size md
      blockSize := evp.blockSize md
      isXof := evp.isXof md }

/-- The finalisation that `digest` chooses. -/
def finalise (xofOutputLen : ℕ) (context : DirectDigestContext evp) :
    Except ToolException Bytes :=
  if context.info.isXof then (finalXof xofOutputLen context).1
  else do
    rejectWhen (xofOutputLen ≠ 0) (ascii "xof_output_len must be zero for non-XOF digests")
    (final context).1

def digest (evp : EvpDigestApi) (algorithmName : ByteString) (input : Bytes)
    (xofOutputLen : ℕ) : Except ToolException Bytes := do
  let context ← newContext evp algorithmName
  let updated := update (Buffer.ofBytes input) context
  updated.1
  finalise xofOutputLen updated.2

end ShoppingWeb.Evp
