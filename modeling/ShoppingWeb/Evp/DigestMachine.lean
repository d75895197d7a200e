import ShoppingWeb.Evp.HashDirectTool

/-!
# What the hash tool relies on

A context absorbs data piece by piece, and its finalisation gives the digest of
all of it and ends the context.  A machine over an abstract hash, which fails
after the end, keeps these laws.
-/

namespace ShoppingWeb.Evp

open ShoppingWeb.ByteText
open ShoppingWeb.Shared

/-- The contexts that have absorbed some data and those that are at their end
after it, and the digest of each length. -/
structure DigestLaws (evp : EvpDigestApi) where
  digest : EvpMd → ℕ → Bytes → Bytes
  Absorbed : EvpMd → Bytes → evp.Ctx → Prop
  Finalised : EvpMd → Bytes → evp.Ctx → Prop
  init_absorbed : ∀ {md raw ctx}, evp.init md raw = .ok ctx → Absorbed md [] ctx
  update_absorbed : ∀ {md data chunk ctx after}, Absorbed md data ctx →
    evp.update chunk ctx = (.ok ⟨⟩, after) → Absorbed md (data ++ chunk) after
  copy_absorbed : ∀ {md data raw source copied}, Absorbed md data source →
    evp.copy raw source = .ok copied → Absorbed md data copied
  final_digest : ∀ {md data ctx out after}, Absorbed md data ctx → evp.isXof md = false →
    evp.final ctx = (.ok out, after) →
      out = digest md (evp.size md).toNat data ∧ Finalised md data after
  finalXof_digest : ∀ {md data length ctx out after}, Absorbed md data ctx →
    evp.isXof md = true → evp.finalXof length ctx = (.ok out, after) →
      out = digest md length data ∧ Finalised md data after
  /-- The digest is given once. -/
  final_again : ∀ {md data ctx}, Finalised md data ctx →
    (evp.final ctx).1 ≠ .ok (digest md (evp.size md).toNat data)
  finalXof_again : ∀ {md data length ctx}, Finalised md data ctx → length ≠ 0 →
    (evp.finalXof length ctx).1 ≠ .ok (digest md length data)

/-- A hash function for each digest, with an output of every length. -/
structure HashScheme where
  size : EvpMd → ℤ
  blockSize : EvpMd → ℤ
  isXof : EvpMd → Bool
  errors : ErrorStack
  hash : EvpMd → ℕ → Bytes → Bytes

structure DigestCtx where
  md : EvpMd
  absorbed : Bytes
  finalised : Bool
  deriving DecidableEq, Repr

namespace HashScheme

variable (scheme : HashScheme)

/-- A call that needs an initialised context before its end. -/
def onActive {Value : Type} (call : DigestCtx → Value × DigestCtx) :
    Option DigestCtx → Except ErrorStack Value × Option DigestCtx
  | none => (.error scheme.errors, none)
  | some ctx =>
      if ctx.finalised then (.error scheme.errors, some ctx)
      else (.ok (call ctx).1, some (call ctx).2)

def update (data : Bytes) : Option DigestCtx → Except ErrorStack Unit × Option DigestCtx :=
  scheme.onActive fun ctx => (⟨⟩, { ctx with absorbed := ctx.absorbed ++ data })

def finalXof (length : ℕ) : Option DigestCtx → Except ErrorStack Bytes × Option DigestCtx :=
  scheme.onActive fun ctx =>
    (scheme.hash ctx.md length ctx.absorbed, { ctx with finalised := true })

def final : Option DigestCtx → Except ErrorStack Bytes × Option DigestCtx :=
  scheme.onActive fun ctx =>
    (scheme.hash ctx.md (scheme.size ctx.md).toNat ctx.absorbed, { ctx with finalised := true })

def copy (source : Option DigestCtx) : Except ErrorStack (Option DigestCtx) :=
  match source with
  | none => .error scheme.errors
  | some ctx => .ok (some ctx)

abbrev evp : EvpDigestApi where
  Ctx := Option DigestCtx
  size := scheme.size
  blockSize := scheme.blockSize
  isXof := scheme.isXof
  new := .ok none
  init md _ := .ok (some ⟨md, [], false⟩)
  update := scheme.update
  final := scheme.final
  finalXof := scheme.finalXof
  copy _ := scheme.copy

def laws : DigestLaws scheme.evp where
  digest := scheme.hash
  Absorbed md data ctx := ctx = some ⟨md, data, false⟩
  Finalised md data ctx := ctx = some ⟨md, data, true⟩
  init_absorbed := by
    intro md raw ctx hinit
    exact (Except.ok.inj hinit).symm
  update_absorbed := by
    rintro md data chunk _ after rfl hupdate
    exact (Prod.mk.inj hupdate).2.symm
  copy_absorbed := by
    rintro md data raw _ copied rfl hcopy
    exact (Except.ok.inj hcopy).symm
  final_digest := by
    rintro md data _ out after rfl - hfinal
    obtain ⟨hout, hafter⟩ := Prod.mk.inj hfinal
    exact ⟨(Except.ok.inj hout).symm, hafter.symm⟩
  finalXof_digest := by
    rintro md data length _ out after rfl - hfinal
    obtain ⟨hout, hafter⟩ := Prod.mk.inj hfinal
    exact ⟨(Except.ok.inj hout).symm, hafter.symm⟩
  final_again := by
    rintro md data _ rfl hagain
    have hfailed : (.error scheme.errors : Except ErrorStack Bytes) = _ := hagain
    cases hfailed
  finalXof_again := by
    rintro md data length _ rfl - hagain
    have hfailed : (.error scheme.errors : Except ErrorStack Bytes) = _ := hagain
    cases hfailed

end HashScheme

end ShoppingWeb.Evp
