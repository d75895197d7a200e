import ShoppingWeb.Evp.FinalRetry

/-!
# Incremental hashing

A program makes calls on any number of contexts.  What a finalisation returns
is the digest, and so the one-shot digest, of everything fed to the context and
to those it was copied from.
-/

namespace ShoppingWeb.Evp

open ShoppingWeb.ByteText
open ShoppingWeb.CallerMemory
open ShoppingWeb.Shared
open ShoppingWeb.Program
open DirectDigestContext

variable {evp : EvpDigestApi}

/-- What happened to a context, and to those it was copied from. -/
structure History where
  algorithmName : Option CString
  /-- The data of the updates that were fine, in order. -/
  chunks : List Bytes
  /-- A finalisation got as far as EVP. -/
  finalised : Bool
  /-- An update got as far as EVP and failed there. -/
  faulted : Bool

structure Session (evp : EvpDigestApi) where
  context : DirectDigestContext evp
  history : History

/-- The calls on contexts.  A context is named by its place in the order in
which they were made, and a number that none has got is a null pointer. -/
inductive ContextCall (evp : EvpDigestApi) where
  | new (algorithmName : Option CString) (ctxOut : Option (Handle evp))
  | update (ctx : ℕ) (input : Buffer)
  | copy (src : ℕ) (dstOut : Option (Handle evp))
  | finalise (ctx : ℕ) (finalisation : Finalisation) (output : Output)

/-- The finalisations that are not refused before they get to EVP. -/
def Finalisation.reachesEvp (evp : EvpDigestApi) (md : EvpMd) : Finalisation → Bool
  | .digest => !evp.isXof md && decide (0 < evp.size md)
  | .xof outputLen => evp.isXof md && (outputLen != 0 || decide (0 < evp.size md))

namespace History

def new (algorithmName : Option CString) : History := ⟨algorithmName, [], false, false⟩

def update (history : History) (input : Buffer) : Status → History
  | .ok => { history with chunks := history.chunks ++ [input.contents] }
  | _ => { history with faulted := history.faulted || !ptrInvalidWhenLenNonzero input }

def finalise (history : History) (reached : Bool) : History :=
  { history with finalised := history.finalised || reached }

end History

namespace Session

def update (input : Buffer) (session : Session evp) : Session evp :=
  let reply := evphashdirectCtxUpdate (some session.context) input
  ⟨reply.outputs.getD session.context, session.history.update input reply.status⟩

def finalise (finalisation : Finalisation) (output : Output) (session : Session evp) :
    Session evp :=
  let after := finalisation.run (some session.context) output
  ⟨after.2.getD session.context,
    session.history.finalise (finalisation.reachesEvp evp session.context.md)⟩

end Session

namespace ContextCall

def step (sessions : List (Session evp)) : ContextCall evp → List (Session evp)
  | .new algorithmName ctxOut =>
      sessions ++ (evphashdirectCtxNew algorithmName ctxOut).outputs.join.toList.map
        fun context => ⟨context, History.new algorithmName⟩
  | .update ctx input => sessions.modify ctx (Session.update input)
  | .copy src dstOut =>
      match sessions[src]? with
      | none => sessions
      | some source =>
          sessions ++ (evphashdirectCtxCopy (some source.context) dstOut).outputs.join.toList.map
            fun context => ⟨context, source.history⟩
  | .finalise ctx finalisation output => sessions.modify ctx (Session.finalise finalisation output)

def run (calls : List (ContextCall evp)) : List (Session evp) := calls.foldl step []

/-- The context that a call works on. -/
def target : ContextCall evp → Option ℕ
  | .new _ _ => none
  | .update ctx _ => some ctx
  | .copy _ _ => none
  | .finalise ctx _ _ => some ctx

/-- A call leaves all contexts but its own alone, also the one it copies. -/
theorem step_frame {call : ContextCall evp} {sessions : List (Session evp)} {i : ℕ}
    {session : Session evp} (hsession : sessions[i]? = some session)
    (htarget : call.target ≠ some i) : (call.step sessions)[i]? = some session := by
  have hlength : i < sessions.length := (List.getElem?_eq_some_iff.mp hsession).1
  cases call with
  | new algorithmName ctxOut =>
      rw [step, List.getElem?_append_left hlength]
      exact hsession
  | update ctx input =>
      have hother : ctx ≠ i := fun heq => htarget (congrArg some heq)
      rw [step, List.getElem?_modify_ne _ _ hother]
      exact hsession
  | copy src dstOut =>
      simp only [step]
      split
      · exact hsession
      · rw [List.getElem?_append_left hlength]
        exact hsession
  | finalise ctx finalisation output =>
      have hother : ctx ≠ i := fun heq => htarget (congrArg some heq)
      rw [step, List.getElem?_modify_ne _ _ hother]
      exact hsession

end ContextCall

/-- An update that fails in EVP leaves the context with what it had. -/
def DigestLaws.FailedUpdateKeeps (laws : DigestLaws evp) : Prop :=
  ∀ md data chunk ctx errors after, laws.Absorbed md data ctx →
    evp.update chunk ctx = (.error errors, after) → laws.Absorbed md data after

/-- The context can still be fed and finalised. -/
def History.Usable (laws : DigestLaws evp) (history : History) : Prop :=
  history.finalised = false ∧ (history.faulted = false ∨ laws.FailedUpdateKeeps)

/-- The context holds what its history says. -/
structure Session.Simulates (laws : DigestLaws evp) (session : Session evp) : Prop where
  resolved : ∃ name, session.history.algorithmName = some name ∧
    resolveDigest name.bytes = .ok session.context.md
  absorbed : session.history.Usable laws →
    laws.Absorbed session.context.md session.history.chunks.flatten session.context.ctx

theorem requireString_ok {s : Option CString} {name bytes : ByteString}
    (hname : requireString s name = .ok bytes) :
    ∃ string, s = some string ∧ string.bytes = bytes := by
  cases s with
  | none => cases hname
  | some string =>
      simp only [requireString] at hname
      split at hname
      · cases hname
      · exact ⟨string, rfl, Except.ok.inj hname⟩

theorem storeHandle_join {outName : ByteString}
    {made : Except ToolException (DirectDigestContext evp)} {place : Option (Handle evp)}
    {context : DirectDigestContext evp}
    (hstored : (storeHandle outName made place).outputs.join = some context) :
    made = .ok context := by
  cases place with
  | none => cases hstored
  | some old =>
      cases made with
      | ok made => exact congrArg Except.ok (Option.some.inj hstored)
      | error e => cases hstored

theorem simulates_new (laws : DigestLaws evp) {algorithmName : Option CString}
    {ctxOut : Option (Handle evp)} {context : DirectDigestContext evp}
    (hnew : (evphashdirectCtxNew algorithmName ctxOut).outputs.join = some context) :
    Session.Simulates laws ⟨context, History.new algorithmName⟩ := by
  obtain ⟨bytes, hname, hcontext⟩ := except_bind_ok.mp (storeHandle_join hnew)
  obtain ⟨name, hsome, rfl⟩ := requireString_ok hname
  obtain ⟨hresolved, raw, hinit⟩ := newContext_ok hcontext
  constructor
  · exact ⟨name, hsome, hresolved⟩
  · intro _
    exact laws.init_absorbed hinit

theorem simulates_copy {laws : DigestLaws evp} {source : Session evp}
    {dstOut : Option (Handle evp)} {context : DirectDigestContext evp}
    (hsource : source.Simulates laws)
    (hcopy : (evphashdirectCtxCopy (some source.context) dstOut).outputs.join = some context) :
    Session.Simulates laws ⟨context, source.history⟩ := by
  obtain ⟨raw, ctx, hcopied, rfl⟩ := clone_ok (storeHandle_join hcopy)
  constructor
  · exact hsource.resolved
  · intro husable
    exact laws.copy_absorbed (hsource.absorbed husable) hcopied

theorem ctxUpdate_outputs (context : DirectDigestContext evp) (input : Buffer) :
    (evphashdirectCtxUpdate (some context) input).outputs = some (update input context).2 := by
  simp only [evphashdirectCtxUpdate, runMethod]
  split
  · rfl
  · rfl

theorem update_md (input : Buffer) (context : DirectDigestContext evp) :
    (update input context).2.md = context.md := by
  unfold update
  split_ifs
  · rfl
  · rfl
  · rfl

/-- An update that throws is refused for a null pointer, or fails in EVP. -/
theorem update_error {input : Buffer} {context after : DirectDigestContext evp}
    {e : ToolException} (hupdate : update input context = (.error e, after)) :
    (ptrInvalidWhenLenNonzero input = true ∧ after = context) ∨
      (ptrInvalidWhenLenNonzero input = false ∧ ∃ errors ctx,
        evp.update input.contents context.ctx = (.error errors, ctx) ∧
          after = { context with ctx }) := by
  unfold update at hupdate
  split_ifs at hupdate with hnull hempty
  · left
    constructor
    · simp [ptrInvalidWhenLenNonzero, hnull]
    · exact (Prod.mk.inj hupdate).2.symm
  · cases hupdate
  · right
    obtain ⟨hvalue, hafter⟩ := Prod.mk.inj hupdate
    constructor
    · simpa [ptrInvalidWhenLenNonzero] using hnull
    · cases hcall : (evp.update input.contents context.ctx).1 with
      | ok done =>
          rw [hcall] at hvalue
          cases hvalue
      | error errors => exact ⟨errors, _, Prod.ext hcall rfl, hafter.symm⟩

theorem History.update_ne_ok {history : History} {input : Buffer} {status : Status}
    (hstatus : status ≠ .ok) : history.update input status =
      { history with faulted := history.faulted || !ptrInvalidWhenLenNonzero input } := by
  cases status with
  | ok => exact absurd rfl hstatus
  | _ => rfl

theorem simulates_update_ok {laws : DigestLaws evp} {session : Session evp} {input : Buffer}
    (hsession : session.Simulates laws)
    (hstatus : (evphashdirectCtxUpdate (some session.context) input).status = .ok) :
    (session.update input).Simulates laws := by
  obtain ⟨_, after, hsome, hupdate, hout⟩ := evphashdirectCtxUpdate_ok hstatus
  obtain rfl := Option.some.inj hsome
  have hafter : session.update input = ⟨after, session.history.update input .ok⟩ := by
    rw [Session.update, hout, hstatus]
    rfl
  have hmd : after.md = session.context.md := by
    calc
      after.md = (update input session.context).2.md := by rw [hupdate]
      _ = session.context.md := update_md input session.context
  obtain ⟨name, hname, hresolved⟩ := hsession.resolved
  rw [hafter]
  constructor
  · exact ⟨name, hname, by rw [hmd]; exact hresolved⟩
  · intro husable
    have habsorbed := (update_absorbs laws (hsession.absorbed husable) hupdate).2
    rw [hmd]
    simpa [History.update] using habsorbed

theorem simulates_update_error {laws : DigestLaws evp} {session : Session evp} {input : Buffer}
    (hsession : session.Simulates laws)
    (hstatus : (evphashdirectCtxUpdate (some session.context) input).status ≠ .ok) :
    (session.update input).Simulates laws := by
  have hafter : session.update input = ⟨(update input session.context).2,
      { session.history with
        faulted := session.history.faulted || !ptrInvalidWhenLenNonzero input }⟩ := by
    rw [Session.update, ctxUpdate_outputs, History.update_ne_ok hstatus]
    rfl
  obtain ⟨name, hname, hresolved⟩ := hsession.resolved
  rw [hafter]
  constructor
  · exact ⟨name, hname, by rw [update_md]; exact hresolved⟩
  · intro ⟨hlive, hfaulted⟩
    change (session.history.faulted || !ptrInvalidWhenLenNonzero input) = false ∨ _ at hfaulted
    change laws.Absorbed (update input session.context).2.md session.history.chunks.flatten
      (update input session.context).2.ctx
    rw [update_md]
    cases houtcome : (update input session.context).1 with
    | ok done =>
        have hok : (evphashdirectCtxUpdate (some session.context) input).status = .ok := by
          simp [evphashdirectCtxUpdate, runMethod, houtcome, succeed]
        exact absurd hok hstatus
    | error e =>
        have hthrown : update input session.context =
            (.error e, (update input session.context).2) := Prod.ext houtcome rfl
        rcases update_error hthrown with ⟨hnull, hsame⟩ | ⟨hsent, errors, ctx, hcall, hsame⟩
        · rw [hsame]
          simp only [hnull, Bool.not_true, Bool.or_false] at hfaulted
          exact hsession.absorbed ⟨hlive, hfaulted⟩
        · rw [hsame]
          simp only [hsent, Bool.not_false, Bool.or_true, Bool.true_eq_false, false_or] at hfaulted
          have hbefore := hsession.absorbed ⟨hlive, Or.inr hfaulted⟩
          exact hfaulted _ _ _ _ _ _ hbefore hcall

theorem simulates_update {laws : DigestLaws evp} {session : Session evp} (input : Buffer)
    (hsession : session.Simulates laws) : (session.update input).Simulates laws := by
  by_cases hstatus : (evphashdirectCtxUpdate (some session.context) input).status = .ok
  · exact simulates_update_ok hsession hstatus
  · exact simulates_update_error hsession hstatus

theorem Finalisation.method_md (finalisation : Finalisation) (context : DirectDigestContext evp) :
    (finalisation.method context).2.md = context.md := by
  cases finalisation with
  | digest =>
      simp only [method, final]
      split_ifs
      · rfl
      · rfl
      · rfl
  | xof outputLen =>
      simp only [method, finalXof]
      split_ifs
      · rfl
      · rfl
      · rfl

/-- A finalisation that does not get to EVP is refused, and the context is as
it was. -/
theorem Finalisation.method_refused {finalisation : Finalisation}
    {context : DirectDigestContext evp}
    (hrefused : finalisation.reachesEvp evp context.md = false) :
    (finalisation.method context).2 = context := by
  cases finalisation with
  | digest =>
      simp only [method, final]
      split_ifs with hxof hsize
      · rfl
      · rfl
      · simp [reachesEvp, hxof, hsize] at hrefused
  | xof outputLen =>
      simp only [method, finalXof]
      split_ifs with hxof hsize
      · rfl
      · rfl
      · have hlength : outputLen = 0 → ¬ evp.size context.md ≤ 0 := fun hzero hle =>
          hsize ⟨hzero, hle⟩
        simp [reachesEvp, hxof] at hrefused
        exact absurd hrefused.2 (hlength hrefused.1)

theorem simulates_finalise {laws : DigestLaws evp} {session : Session evp}
    (finalisation : Finalisation) (output : Output) (hsession : session.Simulates laws) :
    (session.finalise finalisation output).Simulates laws := by
  have hafter : session.finalise finalisation output =
      ⟨(finalisation.method session.context).2,
        session.history.finalise (finalisation.reachesEvp evp session.context.md)⟩ := by
    rw [Session.finalise, Finalisation.run_eq]
    rfl
  obtain ⟨name, hname, hresolved⟩ := hsession.resolved
  rw [hafter]
  constructor
  · exact ⟨name, hname, by rw [Finalisation.method_md]; exact hresolved⟩
  · rintro ⟨hlive, hfaulted⟩
    obtain ⟨hbefore, hrefused⟩ := Bool.or_eq_false_iff.mp hlive
    rw [Finalisation.method_refused hrefused]
    exact hsession.absorbed ⟨hbefore, hfaulted⟩

theorem mem_modify {Item : Type} {change : Item → Item} {items : List Item} {i : ℕ} {item : Item}
    (hitem : item ∈ items.modify i change) : item ∈ items ∨ ∃ old ∈ items, item = change old := by
  obtain ⟨j, hj⟩ := List.mem_iff_getElem?.mp hitem
  rw [List.getElem?_modify] at hj
  obtain ⟨old, hold, hchanged⟩ := Option.map_eq_some_iff.mp hj
  split at hchanged
  · exact Or.inr ⟨old, List.mem_of_getElem? hold, hchanged.symm⟩
  · exact Or.inl (hchanged ▸ List.mem_of_getElem? hold)

theorem ContextCall.step_simulates {laws : DigestLaws evp} {sessions : List (Session evp)}
    (call : ContextCall evp) (hsessions : ∀ session ∈ sessions, session.Simulates laws) :
    ∀ session ∈ call.step sessions, session.Simulates laws := by
  intro session hsession
  cases call with
  | new algorithmName ctxOut =>
      rcases List.mem_append.mp hsession with hold | hnew
      · exact hsessions session hold
      · obtain ⟨context, hcontext, rfl⟩ := List.mem_map.mp hnew
        exact simulates_new laws (Option.mem_toList.mp hcontext)
  | update ctx input =>
      rcases mem_modify hsession with hold | ⟨old, hold, rfl⟩
      · exact hsessions session hold
      · exact simulates_update input (hsessions old hold)
  | copy src dstOut =>
      simp only [step] at hsession
      split at hsession
      · exact hsessions session hsession
      · rename_i source hsource
        rcases List.mem_append.mp hsession with hold | hnew
        · exact hsessions session hold
        · obtain ⟨context, hcontext, rfl⟩ := List.mem_map.mp hnew
          have hmem := List.mem_of_getElem? hsource
          exact simulates_copy (hsessions source hmem) (Option.mem_toList.mp hcontext)
  | finalise ctx finalisation output =>
      rcases mem_modify hsession with hold | ⟨old, hold, rfl⟩
      · exact hsessions session hold
      · exact simulates_finalise finalisation output (hsessions old hold)

theorem ContextCall.run_simulates (laws : DigestLaws evp) (calls : List (ContextCall evp)) :
    ∀ session ∈ run calls, session.Simulates laws := by
  have hrun : ∀ sessions : List (Session evp),
      (∀ session ∈ sessions, session.Simulates laws) →
        ∀ session ∈ calls.foldl step sessions, session.Simulates laws := by
    induction calls with
    | nil => exact fun _ hsessions => hsessions
    | cons call calls ih =>
        intro sessions hsessions
        exact ih (call.step sessions) (call.step_simulates hsessions)
  exact hrun [] fun _ hnone => absurd hnone List.not_mem_nil

/-! ## What a finalisation returns -/

/-- The caller has the result in its buffer, and its length if it asked. -/
structure Delivers (reply : Reply Output) (result : Bytes) : Prop where
  status_ok : reply.status = .ok
  length_eq : ∀ length ∈ reply.outputs.length, length = result.length
  received : reply.outputs.buffer.contents.take result.length = result

theorem delivers_copyBytesToOutput {src : Bytes} {output : Output} {outputName : ByteString}
    (hstatus : (copyBytesToOutput src output outputName).status = .ok) :
    Delivers (copyBytesToOutput src output outputName) src := by
  constructor
  · exact hstatus
  · intro length hlength
    unfold copyBytesToOutput copyToOutput at hlength
    split_ifs at hlength
    all_goals
      obtain ⟨old, -, rfl⟩ := Option.map_eq_some_iff.mp hlength
      rfl
  · by_cases hempty : src = []
    · subst hempty
      rfl
    · have hfull : src.isEmpty = false := by simpa using hempty
      simp only [copyBytesToOutput, hfull, Bool.false_eq_true, if_false] at hstatus ⊢
      unfold copyToOutput at hstatus ⊢
      split_ifs at hstatus ⊢ with haccepts
      · exact Buffer.take_contents_write haccepts
      · cases hstatus

/-- A finalisation that is fine delivers what the method gave. -/
theorem finalisation_ok {finalisation : Finalisation} {context : DirectDigestContext evp}
    {output : Output}
    (hstatus : (finalisation.run (some context) output).1.status = .ok) :
    ∃ result, (finalisation.method context).1 = .ok result ∧
      Delivers (finalisation.run (some context) output).1 result := by
  rw [Finalisation.run_eq] at hstatus ⊢
  simp only [finaliseInto, runMethod] at hstatus ⊢
  cases houtcome : (finalisation.method context).1 with
  | error e =>
      rw [houtcome] at hstatus
      exact absurd hstatus (mapException_ne rfl)
  | ok result =>
      rw [houtcome] at hstatus
      exact ⟨result, rfl, delivers_copyBytesToOutput hstatus⟩

/-- The output length that the one-shot call is given for the same digest. -/
def Finalisation.outputLen : Finalisation → ℕ
  | .digest => 0
  | .xof outputLen => outputLen

/-- The one-shot call finalises a context that has been fed all of the input. -/
theorem digest_ok (laws : DigestLaws evp) {algorithmName : ByteString} {md : EvpMd}
    {input expected : Bytes} {finalisation : Finalisation}
    (hmd : resolveDigest algorithmName = .ok md)
    (hxof : evp.isXof md = true ↔ ∃ outputLen, finalisation = .xof outputLen)
    (hdigest : digest evp algorithmName input finalisation.outputLen = .ok expected) :
    expected = finalisation.digestOf laws md input := by
  simp only [digest, except_bind_ok] at hdigest
  obtain ⟨context, hnew, done, hupdate, hfinal⟩ := hdigest
  obtain ⟨hresolved, raw, hinit⟩ := newContext_ok hnew
  obtain rfl : context.md = md := Except.ok.inj (hresolved.symm.trans hmd)
  obtain ⟨fed, hfed⟩ : ∃ fed, update (Buffer.ofBytes input) context = (.ok ⟨⟩, fed) :=
    ⟨_, Prod.ext hupdate rfl⟩
  have hreturned : finalise finalisation.outputLen fed = .ok expected := by
    have hafter : (update (Buffer.ofBytes input) context).2 = fed := congrArg Prod.snd hfed
    rw [← hafter]
    exact hfinal
  obtain ⟨hsame, habsorbed⟩ := update_absorbs laws (laws.init_absorbed hinit) hfed
  have hinput : (Buffer.ofBytes input).contents = input := List.take_length
  rw [List.nil_append, hinput] at habsorbed
  rw [← hsame] at habsorbed hxof ⊢
  cases finalisation with
  | digest =>
      have hplain : evp.isXof fed.md = false := by
        apply Bool.eq_false_iff.mpr
        intro htrue
        obtain ⟨outputLen, hother⟩ := hxof.mp htrue
        cases hother
      simp only [finalise, info, hplain, Bool.false_eq_true, if_false, except_bind_ok]
        at hreturned
      obtain ⟨-, -, hreturned⟩ := hreturned
      exact (method_once laws .digest habsorbed (Prod.ext hreturned rfl)).1
  | xof outputLen =>
      have hxofMd : evp.isXof fed.md = true := hxof.mpr ⟨outputLen, rfl⟩
      simp only [finalise, info, hxofMd, if_true] at hreturned
      exact (method_once laws (.xof outputLen) habsorbed (Prod.ext hreturned rfl)).1

/-- A finalisation that gives a digest is the one for its kind of digest. -/
theorem method_kind {finalisation : Finalisation} {context : DirectDigestContext evp}
    {result : Bytes} (hmethod : (finalisation.method context).1 = .ok result) :
    evp.isXof context.md = true ↔ ∃ outputLen, finalisation = .xof outputLen := by
  cases finalisation with
  | digest =>
      have hplain := (final_ok (Prod.ext hmethod rfl)).1
      rw [hplain]
      constructor
      · exact fun htrue => Bool.noConfusion htrue
      · rintro ⟨outputLen, hother⟩
        cases hother
  | xof outputLen =>
      have hxof := (finalXof_ok (Prod.ext hmethod rfl)).1
      exact iff_of_true hxof ⟨outputLen, rfl⟩

/-- The result of a finalisation: the digest of what its history says was fed,
and the answer of the one-shot call for it. -/
structure IsDigestOf (laws : DigestLaws evp) (history : History) (finalisation : Finalisation)
    (result : Bytes) : Prop where
  specified : ∃ name md, history.algorithmName = some name ∧
    resolveDigest name.bytes = .ok md ∧
    result = finalisation.digestOf laws md history.chunks.flatten
  oneShot : ∀ expected,
    digestOperation evp history.algorithmName (Buffer.ofBytes history.chunks.flatten)
      finalisation.outputLen = .ok expected → result = expected

theorem isDigestOf_method {laws : DigestLaws evp} {session : Session evp}
    {finalisation : Finalisation} {result : Bytes} (hsession : session.Simulates laws)
    (husable : session.history.Usable laws)
    (hmethod : (finalisation.method session.context).1 = .ok result) :
    IsDigestOf laws session.history finalisation result := by
  obtain ⟨name, hname, hresolved⟩ := hsession.resolved
  have hresult : result =
      finalisation.digestOf laws session.context.md session.history.chunks.flatten :=
    (method_once laws finalisation (hsession.absorbed husable) (Prod.ext hmethod rfl)).1
  constructor
  · exact ⟨name, session.context.md, hname, hresolved, hresult⟩
  · intro expected honeShot
    rw [hname] at honeShot
    simp only [digestOperation, makeBytes, except_bind_ok] at honeShot
    obtain ⟨bytes, hbytes, input, ⟨-, -, hinput⟩, hdigest⟩ := honeShot
    obtain ⟨_, hsome, rfl⟩ := requireString_ok hbytes
    obtain rfl := Option.some.inj hsome
    obtain rfl : session.history.chunks.flatten = input :=
      List.take_length.symm.trans (Except.ok.inj hinput)
    calc
      result = finalisation.digestOf laws session.context.md session.history.chunks.flatten :=
        hresult
      _ = expected := (digest_ok laws hresolved (method_kind hmethod) hdigest).symm

/-- In every program, a call leaves the other contexts alone, and a
finalisation that is fine returns the digest of the context's history. -/
theorem incremental_refines_oneShot (laws : DigestLaws evp) (calls : List (ContextCall evp))
    {i : ℕ} {session : Session evp} (hsession : (ContextCall.run calls)[i]? = some session) :
    (∀ call : ContextCall evp, call.target ≠ some i →
      (call.step (ContextCall.run calls))[i]? = some session) ∧
    (session.history.Usable laws → ∀ (finalisation : Finalisation) (output : Output),
      (finalisation.run (some session.context) output).1.status = .ok →
        ∃ result, Delivers (finalisation.run (some session.context) output).1 result ∧
          IsDigestOf laws session.history finalisation result) := by
  constructor
  · intro call
    exact ContextCall.step_frame hsession
  · intro husable finalisation output hstatus
    have hsimulates := ContextCall.run_simulates laws calls session (List.mem_of_getElem? hsession)
    obtain ⟨result, hmethod, hdelivers⟩ := finalisation_ok hstatus
    exact ⟨result, hdelivers, isDigestOf_method hsimulates husable hmethod⟩

/-- Two contexts share `ab` and part; an update of one of them is refused. -/
def sharedPast : List (ContextCall abcScheme.evp) :=
  [.new (some sha256Name) (some none), .update 0 (Buffer.ofBytes (ascii "ab")),
    .copy 0 (some none), .update 1 (Buffer.null 4), .update 0 (Buffer.ofBytes (ascii "x")),
    .update 1 (Buffer.ofBytes []), .update 1 (Buffer.ofBytes (ascii "c"))]

theorem incremental_refines_oneShot_sharedPast :
    ∃ session result, (ContextCall.run sharedPast)[1]? = some session ∧
      Delivers (Finalisation.digest.run (some session.context)
        ⟨Buffer.ofBytes (List.replicate 32 0), some 0⟩).1 result ∧ result = abcDigest := by
  let history : History :=
    ⟨some sha256Name, [ascii "ab", [], ascii "c"], false, false⟩
  let session : Session abcScheme.evp :=
    ⟨⟨ascii "SHA256", .sha256, some ⟨.sha256, ascii "abc", false⟩⟩, history⟩
  have hsession : (ContextCall.run sharedPast)[1]? = some session := by rfl
  have hrefines := incremental_refines_oneShot abcScheme.laws sharedPast hsession
  have husable : session.history.Usable abcScheme.laws := ⟨rfl, Or.inl rfl⟩
  have hstatus : (Finalisation.digest.run (some session.context)
      ⟨Buffer.ofBytes (List.replicate 32 0), some 0⟩).1.status = .ok := by
    decide
  obtain ⟨result, hdelivers, hdigest⟩ := hrefines.2 husable .digest _ hstatus
  have honeShot : digestOperation abcScheme.evp (some sha256Name)
      (Buffer.ofBytes (ascii "abc")) 0 = .ok abcDigest := by
    decide
  exact ⟨session, result, hsession, hdelivers, hdigest.oneShot abcDigest honeShot⟩

end ShoppingWeb.Evp
