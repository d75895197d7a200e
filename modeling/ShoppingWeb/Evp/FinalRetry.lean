import ShoppingWeb.Evp.DigestMachine
import ShoppingWeb.Evp.HashCApi

/-!
# Finalising again

A caller that passes too small a buffer to a finalisation is told the length,
but the context has been finalised by then.  The digest is not given again.
-/

namespace ShoppingWeb.Evp

open ShoppingWeb.ByteText
open ShoppingWeb.CallerMemory
open ShoppingWeb.Shared
open ShoppingWeb.Program
open DirectDigestContext

variable {evp : EvpDigestApi}

/-- A handle to a context of an algorithm, with the chunks fed to it and to
those it was copied from. -/
inductive Fed (evp : EvpDigestApi) (algorithmName : CString) : List Bytes → Handle evp → Prop
  | new {old ctx : Handle evp} :
      (evphashdirectCtxNew (some algorithmName) (some old)).status = .ok →
      (evphashdirectCtxNew (some algorithmName) (some old)).outputs = some ctx →
      Fed evp algorithmName [] ctx
  | update {chunks : List Bytes} {ctx : Handle evp} {input : Buffer} :
      Fed evp algorithmName chunks ctx →
      (evphashdirectCtxUpdate ctx input).status = .ok →
      Fed evp algorithmName (chunks ++ [input.contents]) (evphashdirectCtxUpdate ctx input).outputs
  | copy {chunks : List Bytes} {src old dst : Handle evp} :
      Fed evp algorithmName chunks src →
      (evphashdirectCtxCopy src (some old)).status = .ok →
      (evphashdirectCtxCopy src (some old)).outputs = some dst →
      Fed evp algorithmName chunks dst

/-- A stored handle is the context that was made. -/
theorem storeHandle_ok {outName : ByteString} {old ctx : Handle evp}
    {made : Except ToolException (DirectDigestContext evp)}
    (hstatus : (storeHandle outName made (some old)).status = .ok)
    (hout : (storeHandle outName made (some old)).outputs = some ctx) :
    ∃ context, made = .ok context ∧ ctx = some context := by
  cases made with
  | ok context => exact ⟨context, rfl, (Option.some.inj hout).symm⟩
  | error e => exact absurd hstatus (mapException_ne rfl)

theorem callEvp_ok {Value : Type} {message : ByteString}
    {call : evp.Ctx → Except ErrorStack Value × evp.Ctx} {context after : DirectDigestContext evp}
    {value : Value} (hcall : callEvp message call context = (.ok value, after)) :
    ∃ ctx, call context.ctx = (.ok value, ctx) ∧ after = { context with ctx } := by
  obtain ⟨hvalue, hafter⟩ := Prod.mk.inj hcall
  exact ⟨(call context.ctx).2, Prod.ext (check1_eq_ok.mp hvalue) rfl, hafter.symm⟩

theorem newContext_ok {algorithmName : ByteString} {context : DirectDigestContext evp} :
    newContext evp algorithmName = .ok context →
      resolveDigest algorithmName = .ok context.md ∧
        ∃ raw, evp.init context.md raw = .ok context.ctx := by
  simp only [newContext, except_bind_ok, check1_eq_ok]
  rintro ⟨md, hmd, raw, -, ctx, hinit, hcontext⟩
  obtain rfl := Except.ok.inj hcontext
  exact ⟨hmd, raw, hinit⟩

theorem clone_ok {context copied : DirectDigestContext evp} :
    context.clone = .ok copied →
      ∃ raw ctx, evp.copy raw context.ctx = .ok ctx ∧ copied = { context with ctx } := by
  simp only [clone, except_bind_ok, check1_eq_ok]
  rintro ⟨raw, -, ctx, hcopy, hcopied⟩
  exact ⟨raw, ctx, hcopy, (Except.ok.inj hcopied).symm⟩

/-- An update that throws nothing has fed its data. -/
theorem update_absorbs (laws : DigestLaws evp) {data : Buffer} {absorbed : Bytes}
    {context after : DirectDigestContext evp}
    (habsorbed : laws.Absorbed context.md absorbed context.ctx)
    (hupdate : update data context = (.ok ⟨⟩, after)) :
    after.md = context.md ∧ laws.Absorbed context.md (absorbed ++ data.contents) after.ctx := by
  unfold update at hupdate
  split_ifs at hupdate with hnull hempty
  · cases hupdate
  · obtain rfl := (Prod.mk.inj hupdate).2
    have hnone : data.contents = [] := by rw [Buffer.contents, hempty, List.take_zero]
    rw [hnone, List.append_nil]
    exact ⟨rfl, habsorbed⟩
  · obtain ⟨ctx, hcall, rfl⟩ := callEvp_ok hupdate
    exact ⟨rfl, laws.update_absorbed habsorbed hcall⟩

theorem evphashdirectCtxUpdate_ok {ctx : Handle evp} {input : Buffer}
    (hstatus : (evphashdirectCtxUpdate ctx input).status = .ok) :
    ∃ context after, ctx = some context ∧ update input context = (.ok ⟨⟩, after) ∧
      (evphashdirectCtxUpdate ctx input).outputs = some after := by
  cases ctx with
  | none =>
      have hnull : mapException hashMarkers nullContext ≠ .ok := mapException_ne rfl
      exact absurd hstatus hnull
  | some context =>
      cases houtcome : (update input context).1 with
      | ok done =>
          refine ⟨context, (update input context).2, rfl, Prod.ext houtcome rfl, ?_⟩
          simp [evphashdirectCtxUpdate, runMethod, houtcome, succeed]
      | error e =>
          have hfailed : (evphashdirectCtxUpdate (some context) input).status =
              mapException hashMarkers e := by
            simp [evphashdirectCtxUpdate, runMethod, houtcome, failed, setErrorReturn]
          exact absurd (hfailed.symm.trans hstatus) (mapException_ne rfl)

/-- A context has absorbed what was fed to it. -/
theorem Fed.absorbed (laws : DigestLaws evp) {algorithmName : CString} {md : EvpMd}
    {chunks : List Bytes} {ctx : Handle evp} (hmd : resolveDigest algorithmName.bytes = .ok md)
    (hfed : Fed evp algorithmName chunks ctx) :
    ∃ context, ctx = some context ∧ context.md = md ∧
      laws.Absorbed md chunks.flatten context.ctx := by
  induction hfed with
  | new hstatus hout =>
      obtain ⟨context, hmade, rfl⟩ := storeHandle_ok hstatus hout
      obtain ⟨name, hname, hcontext⟩ := except_bind_ok.mp hmade
      have hbytes : name = algorithmName.bytes := by
        simp only [requireString] at hname
        split at hname
        · cases hname
        · exact (Except.ok.inj hname).symm
      obtain ⟨hresolved, raw, hinit⟩ := newContext_ok hcontext
      have hsame : context.md = md := by
        apply Except.ok.inj
        calc
          (.ok context.md : Except ToolException EvpMd) = resolveDigest name := hresolved.symm
          _ = resolveDigest algorithmName.bytes := by rw [hbytes]
          _ = .ok md := hmd
      subst hsame
      exact ⟨context, rfl, rfl, laws.init_absorbed hinit⟩
  | update hbefore hstatus ih =>
      obtain ⟨context, rfl, rfl, habsorbed⟩ := ih
      obtain ⟨_, after, hsome, hupdate, hout⟩ := evphashdirectCtxUpdate_ok hstatus
      obtain rfl := Option.some.inj hsome
      obtain ⟨hsame, hafter⟩ := update_absorbs laws habsorbed hupdate
      refine ⟨after, hout, hsame, ?_⟩
      simpa using hafter
  | copy hbefore hstatus hout ih =>
      obtain ⟨context, rfl, rfl, habsorbed⟩ := ih
      obtain ⟨copied, hmade, rfl⟩ := storeHandle_ok hstatus hout
      obtain ⟨raw, ctx, hcopy, rfl⟩ := clone_ok hmade
      exact ⟨_, rfl, rfl, laws.copy_absorbed habsorbed hcopy⟩

/-- `ctx_final`, or `ctx_final_xof` with a length. -/
inductive Finalisation where
  | digest
  | xof (outputLen : ℕ)
  deriving DecidableEq, Repr

namespace Finalisation

def run : Finalisation → Handle evp → Output → Reply Output × Handle evp
  | .digest => evphashdirectCtxFinal
  | .xof outputLen => fun ctx output => evphashdirectCtxFinalXof ctx outputLen output

def method : Finalisation → Method evp Bytes
  | .digest => final
  | .xof outputLen => finalXof outputLen

def outputName : Finalisation → ByteString
  | .digest => ascii "digest output"
  | .xof _ => ascii "XOF output"

/-- The digest a finalisation asks for. -/
def digestOf (laws : DigestLaws evp) (md : EvpMd) (data : Bytes) : Finalisation → Bytes
  | .digest => laws.digest md (evp.size md).toNat data
  | .xof outputLen => laws.digest md (xofLength evp md outputLen) data

theorem run_eq (finalisation : Finalisation) (ctx : Handle evp) (output : Output) :
    finalisation.run ctx output =
      finaliseInto finalisation.method finalisation.outputName ctx output := by
  cases finalisation with
  | digest => rfl
  | xof outputLen => rfl

end Finalisation

theorem final_ok {context after : DirectDigestContext evp} {out : Bytes}
    (hfinal : final context = (.ok out, after)) :
    evp.isXof context.md = false ∧
      ∃ ctx, evp.final context.ctx = (.ok out, ctx) ∧ after = { context with ctx } := by
  unfold final at hfinal
  split_ifs at hfinal with hxof hsize
  · cases hfinal
  · cases hfinal
  · exact ⟨by simpa using hxof, callEvp_ok hfinal⟩

theorem finalXof_ok {outputLen : ℕ} {context after : DirectDigestContext evp} {out : Bytes}
    (hfinal : finalXof outputLen context = (.ok out, after)) :
    evp.isXof context.md = true ∧ xofLength evp context.md outputLen ≠ 0 ∧
      ∃ ctx, evp.finalXof (xofLength evp context.md outputLen) context.ctx = (.ok out, ctx) ∧
        after = { context with ctx } := by
  unfold finalXof at hfinal
  split_ifs at hfinal with hxof hsize
  · cases hfinal
  · cases hfinal
  · refine ⟨by simpa using hxof, ?_, callEvp_ok hfinal⟩
    unfold xofLength
    split
    · rename_i hzero
      have hpos : ¬ evp.size context.md ≤ 0 := fun hle => hsize ⟨hzero, hle⟩
      omega
    · assumption

/-- A finalisation gives the digest, and none after it gives it again. -/
theorem method_once (laws : DigestLaws evp) (finalisation : Finalisation) {data out : Bytes}
    {context after : DirectDigestContext evp}
    (habsorbed : laws.Absorbed context.md data context.ctx)
    (hfinal : finalisation.method context = (.ok out, after)) :
    out = finalisation.digestOf laws context.md data ∧
      (finalisation.method after).1 ≠ .ok (finalisation.digestOf laws context.md data) := by
  cases finalisation with
  | digest =>
      obtain ⟨hxof, ctx, hcall, rfl⟩ := final_ok hfinal
      obtain ⟨hout, hfinalised⟩ := laws.final_digest habsorbed hxof hcall
      refine ⟨hout, fun hagain => ?_⟩
      obtain ⟨-, again, hcalled, -⟩ := final_ok (Prod.ext hagain rfl)
      exact laws.final_again hfinalised (congrArg Prod.fst hcalled)
  | xof outputLen =>
      obtain ⟨hxof, hlength, ctx, hcall, rfl⟩ := finalXof_ok hfinal
      obtain ⟨hout, hfinalised⟩ := laws.finalXof_digest habsorbed hxof hcall
      refine ⟨hout, fun hagain => ?_⟩
      obtain ⟨-, -, again, hcalled, -⟩ := finalXof_ok (Prod.ext hagain rfl)
      exact laws.finalXof_again hfinalised hlength (congrArg Prod.fst hcalled)

/-- The call is fine, and what it reports to be in the buffer is the result. -/
structure Returns (reply : Reply Output) (result : Bytes) : Prop where
  status_ok : reply.status = .ok
  received : ∃ length, reply.outputs.length = some length ∧
    reply.outputs.buffer.contents.take length = result

/-- A copy that is fine leaves the whole result. -/
theorem eq_of_returns_copyBytesToOutput {src result : Bytes} {output : Output}
    {outputName : ByteString}
    (hreturns : Returns (copyBytesToOutput src output outputName) result) :
    src = result := by
  obtain ⟨hstatus, length, hlength, hreceived⟩ := hreturns
  by_cases hempty : src = []
  · subst hempty
    obtain ⟨old, -, rfl⟩ := Option.map_eq_some_iff.mp hlength
    simpa [copyBytesToOutput] using hreceived
  · have hfull : src.isEmpty = false := by simpa using hempty
    simp only [copyBytesToOutput, hfull, Bool.false_eq_true, if_false] at hstatus hlength hreceived
    unfold copyToOutput at hstatus hlength hreceived
    split_ifs at hstatus hlength hreceived with haccepts
    · obtain ⟨old, -, rfl⟩ := Option.map_eq_some_iff.mp hlength
      exact (Buffer.take_contents_write haccepts).symm.trans hreceived
    · cases hstatus

theorem fillBytes_returns {markers : ErrorMarkers} {operation : Except ToolException Bytes}
    {outputName : ByteString} {output : Output} {result : Bytes}
    (hreturns : Returns (fillBytes markers operation outputName output) result) :
    operation = .ok result := by
  cases operation with
  | ok src => exact congrArg Except.ok (eq_of_returns_copyBytesToOutput hreturns)
  | error e => exact absurd hreturns.status_ok (mapException_ne rfl)

/-- Too small is the answer to a result. -/
theorem fillBytes_bufferTooSmall {markers : ErrorMarkers}
    {operation : Except ToolException Bytes} {outputName : ByteString} {output : Output}
    (hshort : (fillBytes markers operation outputName output).status = .bufferTooSmall) :
    ∃ src, operation = .ok src := by
  cases operation with
  | ok src => exact ⟨src, rfl⟩
  | error e => exact absurd hshort (mapException_ne rfl)

/-- After an answer that the buffer is too small, no call of the same
finalisation returns the digest. -/
theorem ctxFinal_retry (laws : DigestLaws evp) {algorithmName : CString} {md : EvpMd}
    {chunks : List Bytes} {ctx : Handle evp} {finalisation : Finalisation} {output : Output}
    (hmd : resolveDigest algorithmName.bytes = .ok md) (hfed : Fed evp algorithmName chunks ctx)
    (hshort : (finalisation.run ctx output).1.status = .bufferTooSmall) (retry : Output) :
    ¬ Returns (finalisation.run (finalisation.run ctx output).2 retry).1
      (finalisation.digestOf laws md chunks.flatten) := by
  obtain ⟨context, rfl, rfl, habsorbed⟩ := hfed.absorbed laws hmd
  simp only [Finalisation.run_eq, finaliseInto, runMethod] at hshort ⊢
  obtain ⟨out, hout⟩ := fillBytes_bufferTooSmall hshort
  obtain ⟨-, honce⟩ := method_once laws finalisation habsorbed (Prod.ext hout rfl)
  intro hreturns
  exact honce (fillBytes_returns hreturns)

def abcDigest : Bytes :=
  [0xba, 0x78, 0x16, 0xbf, 0x8f, 0x01, 0xcf, 0xea, 0x41, 0x41, 0x40, 0xde, 0x5d, 0xae, 0x22, 0x23,
    0xb0, 0x03, 0x61, 0xa3, 0x96, 0x17, 0x7a, 0x9c, 0xb4, 0x10, 0xff, 0x61, 0xf2, 0x00, 0x15, 0xad]

/-- A table with one digest, for which it answers as SHA-256 does. -/
def abcScheme : HashScheme where
  size _ := 32
  blockSize _ := 64
  isXof _ := false
  errors := []
  hash md length data :=
    ((if md = EvpMd.sha256 ∧ data = ascii "abc" then abcDigest else []) ++
      List.replicate length 0).take length

def sha256Name : CString := ⟨ascii "sha256", by decide⟩

/-- A context that has been fed `abc`. -/
def abcHandle : Handle abcScheme.evp :=
  some ⟨ascii "SHA256", .sha256, some ⟨.sha256, ascii "abc", false⟩⟩

theorem fed_abc : Fed abcScheme.evp sha256Name [ascii "abc"] abcHandle := by
  let fresh : Handle abcScheme.evp := some ⟨ascii "SHA256", .sha256, some ⟨.sha256, [], false⟩⟩
  let input := Buffer.ofBytes (ascii "abc")
  have hnew : (evphashdirectCtxNew (some sha256Name) (some (none : Handle abcScheme.evp))).status =
      .ok := by
    decide
  have hupdate : (evphashdirectCtxUpdate fresh input).status = .ok := by decide
  exact (Fed.new hnew rfl).update hupdate

theorem ctxFinal_retry_abc :
    ¬ Returns (Finalisation.digest.run (Finalisation.digest.run abcHandle (Output.probe 0)).2
      ⟨Buffer.ofBytes (List.replicate 32 0), some 32⟩).1 abcDigest := by
  have hmd : resolveDigest sha256Name.bytes = .ok .sha256 := by decide
  have hshort : (Finalisation.digest.run abcHandle (Output.probe 0)).1.status =
      .bufferTooSmall := by
    decide
  exact ctxFinal_retry abcScheme.laws hmd fed_abc hshort _

/-- The second call fails, and so no buffer gets the digest. -/
theorem ctxFinal_retry_lost :
    ¬ ∀ (evp : EvpDigestApi) (laws : DigestLaws evp) (algorithmName : CString) (md : EvpMd)
        (chunks : List Bytes) (ctx : Handle evp) (finalisation : Finalisation)
        (output retry : Output) (length : ℕ),
      resolveDigest algorithmName.bytes = .ok md → Fed evp algorithmName chunks ctx →
      (finalisation.run ctx output).1.status = .bufferTooSmall →
      (finalisation.run ctx output).1.outputs.length = some length →
      retry.buffer.HasLength length → retry.length.isSome →
      Returns (finalisation.run (finalisation.run ctx output).2 retry).1
        (finalisation.digestOf laws md chunks.flatten) := by
  intro hretry
  have hreturns := hretry abcScheme.evp abcScheme.laws sha256Name .sha256 [ascii "abc"] abcHandle
    .digest (Output.probe 0) ⟨Buffer.ofBytes (List.replicate 32 0), some 32⟩ 32 rfl fed_abc
    (by decide) (by decide +kernel) (Buffer.hasLength_ofBytes _) rfl
  exact absurd hreturns.status_ok (by decide)

end ShoppingWeb.Evp
