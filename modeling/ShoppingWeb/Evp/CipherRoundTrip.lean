import ShoppingWeb.Evp.CipherMachine

/-!
# The round trip of the modes without authentication

`encrypt` and `decrypt`, run on the state machine, compute the two directions
of one relation between plaintexts and ciphertexts.  Each takes what the other
gives, as long as the padded ciphertext still has a length that fits an `int`.
-/

namespace ShoppingWeb.Evp

open ShoppingWeb.ByteText
open ShoppingWeb.Padding
open ShoppingWeb.Program
open ShoppingWeb.Shared
open CipherScheme

variable {scheme : CipherScheme} {cipher : EvpCipher} {key : Bytes} {iv : Option Bytes}
  {encrypting padding : Bool}

namespace CipherScheme

/-- The plaintext as the mode gets it. -/
def messageOf (cipher : EvpCipher) (padding : Bool) (plaintext : Bytes) : Bytes :=
  if padding = true ∧ cipher.mode.blockLength ≠ 1 then pad cipher.mode.blockLength plaintext
  else plaintext

/-- The ciphertext is the plaintext's. -/
def Encrypts (scheme : CipherScheme) (cipher : EvpCipher) (key : Bytes) (iv : Option Bytes)
    (padding : Bool) (plaintext ciphertext : Bytes) : Prop :=
  if cipher.mode.isBlockwise then
    cipher.mode.blockLength ∣ (messageOf cipher padding plaintext).length ∧
      scheme.transform true cipher key iv (messageOf cipher padding plaintext) = ciphertext
  else if plaintext = [] then ciphertext = []
  else scheme.process true cipher key iv plaintext = some ciphertext

/-- What goes in and what comes out in a direction. -/
def Answers (scheme : CipherScheme) (encrypting : Bool) (cipher : EvpCipher) (key : Bytes)
    (iv : Option Bytes) (padding : Bool) (input output : Bytes) : Prop :=
  if encrypting then scheme.Encrypts cipher key iv padding input output
  else scheme.Encrypts cipher key iv padding output input

end CipherScheme

theorem blockLength_blockwise {mode : AesMode} (hmode : mode.isBlockwise = true) :
    mode.blockLength = 1 ∨ mode.blockLength = 16 := by
  cases mode <;> simp_all [AesMode.isBlockwise, AesMode.blockLength]

theorem blockLength_pos (mode : AesMode) : 0 < mode.blockLength := by
  cases mode <;> decide

theorem blockLength_lt (mode : AesMode) : mode.blockLength < 256 := by
  cases mode <;> decide

theorem dvd_released (ctx : CipherCtx) (length : ℕ) :
    ctx.cipher.mode.blockLength ∣ ctx.released length := by
  unfold CipherCtx.released
  split
  · exact Nat.dvd_mul_left _ _
  · exact Nat.dvd_mul_left _ _

theorem released_le (ctx : CipherCtx) (length : ℕ) : ctx.released length ≤ length := by
  unfold CipherCtx.released
  split
  · exact (Nat.div_mul_le_self _ _).trans (Nat.sub_le _ _)
  · exact Nat.div_mul_le_self _ _

/-- Whole blocks come out as they would from a longer input. -/
theorem take_outputOf (ctx : CipherCtx) (input : Bytes) {count : ℕ}
    (hcount : ctx.cipher.mode.blockLength ∣ count) :
    (scheme.outputOf ctx key input).take count = scheme.outputOf ctx key (input.take count) :=
  scheme.take_transform _ _ _ _ _ _ hcount

@[simp]
theorem length_outputOf (ctx : CipherCtx) (input : Bytes) :
    (scheme.outputOf ctx key input).length = input.length :=
  scheme.length_transform _ _ _ _ _

/-- A context that takes data. -/
structure TakesInput (ctx : CipherCtx) (encrypting : Bool) (key : Bytes) : Prop where
  key_eq : ctx.key = some key
  encrypting_eq : ctx.encrypting = encrypting
  unfinished : ctx.finished = false

theorem withKey_ready {Value : Type} {ctx : CipherCtx}
    {call : CipherCtx → Bytes → Except ErrorStack Value}
    (hready : TakesInput ctx encrypting key) :
    scheme.withKey encrypting call (some ctx) = call ctx key := by
  simp [withKey, hready.key_eq, hready.encrypting_eq, hready.unfinished]

/-- A context that waits for its first input. -/
def readyCtx (cipher : EvpCipher) (encrypting : Bool) (key : Bytes) (iv : Option Bytes)
    (padding : Bool) : CipherCtx where
  cipher
  encrypting
  key := some key
  iv
  padding
  input := []
  written := 0
  finished := false

/-- The context after an input has been passed on. -/
def fedCtx (ctx : CipherCtx) (input : Bytes) : CipherCtx :=
  { ctx with input, written := ctx.released input.length }

theorem fedCtx_nil {ctx : CipherCtx} (hinput : ctx.input = []) (hwritten : ctx.written = 0) :
    fedCtx ctx [] = ctx := by
  have hnone : ctx.released 0 = 0 := Nat.le_zero.mp (released_le ctx 0)
  calc
    fedCtx ctx [] = { ctx with input := [], written := 0 } := by simp [fedCtx, hnone]
    _ = ctx := by simp [← hinput, ← hwritten]

/-- The whole blocks of an input go through, an empty one has none. -/
theorem evpUpdate_blockwise {ctx : CipherCtx} (hmode : ctx.cipher.mode.isBlockwise = true)
    (hready : TakesInput ctx encrypting key) (hinput : ctx.input = []) (hwritten : ctx.written = 0)
    {input : Bytes} {label : ByteString} {written : Bytes × Option CipherCtx} :
    evpUpdate scheme.evp input label encrypting (some ctx) = .ok written ↔
      input.length ≤ INT_MAX ∧
        (scheme.outputOf ctx key (input.take (ctx.released input.length)),
          some (fedCtx ctx input)) = written := by
  have hlength := released_le ctx input.length
  by_cases hempty : input = []
  · subst hempty
    have hnothing : scheme.outputOf ctx key [] = [] :=
      List.length_eq_zero_iff.mp (length_outputOf ctx [])
    simp [evpUpdate, fedCtx_nil hinput hwritten, hnothing]
  · have hfull : input.isEmpty = false := by simpa using hempty
    have hupdate : scheme.update encrypting input (some ctx) =
        .ok (scheme.outputOf ctx key (input.take (ctx.released input.length)),
          some (fedCtx ctx input)) := by
      rw [update, withKey_ready hready]
      simp [hmode, hinput, hwritten, fedCtx, hlength]
    simp [evpUpdate, hfull, except_bind_ok, hupdate]

/-- The other modes take their input at once, if there is any. -/
theorem evpUpdate_oneShot {ctx : CipherCtx} (hmode : ctx.cipher.mode.isBlockwise = false)
    (hready : TakesInput ctx encrypting key) {input : Bytes} {label : ByteString}
    {written : Bytes × Option CipherCtx} :
    evpUpdate scheme.evp input label encrypting (some ctx) = .ok written ↔
      input.length ≤ INT_MAX ∧ ∃ output,
        (if input = [] then output = []
          else scheme.process encrypting ctx.cipher key ctx.iv input = some output) ∧
        (output, some ctx) = written := by
  by_cases hempty : input = []
  · simp [evpUpdate, hempty]
  · have hfull : input.isEmpty = false := by simpa using hempty
    simp only [evpUpdate, hfull, Bool.false_eq_true, if_false, except_bind_ok,
      checkedIntSize_eq_ok, check1_eq_ok, hempty, update, withKey_ready hready, hmode]
    cases hprocess : scheme.process encrypting ctx.cipher key ctx.iv input with
    | none => simp [fail]
    | some output => simp

/-! ## The last block -/

/-- An encryption pads what is left of its input. -/
theorem lastOutput_encrypting {ctx : CipherCtx} (hpads : ctx.pads = true)
    (hencrypting : ctx.encrypting = true) (input : Bytes) :
    scheme.lastOutput (fedCtx ctx input) key =
      some ((scheme.outputOf ctx key (pad ctx.cipher.mode.blockLength input)).drop
        (ctx.released input.length)) := by
  have hwhole : ctx.cipher.mode.blockLength ∣
      (input.take (ctx.released input.length)).length := by
    rw [List.length_take, min_eq_left (released_le ctx input.length)]
    exact dvd_released ctx input.length
  have hpads' : (fedCtx ctx input).pads = true := hpads
  have hencrypting' : (fedCtx ctx input).encrypting = true := hencrypting
  have hinput : input.take (ctx.released input.length) ++
      pad ctx.cipher.mode.blockLength (input.drop (ctx.released input.length)) =
        pad ctx.cipher.mode.blockLength input := by
    rw [← pad_append hwhole, List.take_append_drop]
  rw [lastOutput, hpads', if_neg Bool.noConfusion, if_pos hencrypting']
  exact congrArg (fun message => some ((scheme.outputOf ctx key message).drop _)) hinput

/-- A decryption that will take padding off keeps exactly one of its blocks
back. -/
theorem sub_released {ctx : CipherCtx} (hpads : ctx.pads = true)
    (hencrypting : ctx.encrypting = false) {length : ℕ} (hlength : 0 < length)
    (hdvd : ctx.cipher.mode.blockLength ∣ length) :
    length - ctx.released length = ctx.cipher.mode.blockLength := by
  have hpos := blockLength_pos ctx.cipher.mode
  obtain ⟨count, rfl⟩ := hdvd
  obtain ⟨count, rfl⟩ := Nat.exists_eq_add_one_of_ne_zero (Nat.pos_of_mul_pos_left hlength).ne'
  have hquotient : (ctx.cipher.mode.blockLength * (count + 1) - 1) /
      ctx.cipher.mode.blockLength = count := by
    apply Nat.div_eq_of_lt_le
    · rw [Nat.mul_comm, Nat.mul_succ]
      omega
    · rw [Nat.mul_comm (count + 1)]
      omega
  rw [CipherCtx.released, if_pos ⟨hpads, hencrypting⟩, hquotient, Nat.mul_succ, Nat.mul_comm count]
  omega

theorem lastOutput_decrypting {ctx : CipherCtx} (hpads : ctx.pads = true)
    (hencrypting : ctx.encrypting = false) {input last : Bytes} :
    scheme.lastOutput (fedCtx ctx input) key = some last ↔
      ctx.cipher.mode.blockLength ∣ input.length ∧
        pad ctx.cipher.mode.blockLength last =
          (scheme.outputOf ctx key input).drop (ctx.released input.length) := by
  have hpos := blockLength_pos ctx.cipher.mode
  have hpads' : (fedCtx ctx input).pads = true := hpads
  have hencrypting' : (fedCtx ctx input).encrypting = false := hencrypting
  have hlength : ((scheme.outputOf ctx key input).drop (ctx.released input.length)).length =
      input.length - ctx.released input.length := by
    rw [List.length_drop, length_outputOf]
  rw [lastOutput, hpads', if_neg Bool.noConfusion, hencrypting', if_neg Bool.noConfusion]
  simp only [Option.ite_none_right_eq_some]
  constructor
  · rintro ⟨hrest, hlast⟩
    have hrest' : input.length - ctx.released input.length = ctx.cipher.mode.blockLength := by
      simpa [fedCtx] using hrest
    have hdvd : ctx.cipher.mode.blockLength ∣ input.length := by
      rw [← Nat.sub_add_cancel (released_le ctx input.length), hrest']
      exact Nat.dvd_add (Nat.dvd_refl _) (dvd_released ctx input.length)
    refine ⟨hdvd, (unpad_eq_some_iff hpos (blockLength_lt _) ?_).mp hlast⟩
    rw [hlength, hrest']
  · rintro ⟨hdvd, hpad⟩
    have hrest : input.length - ctx.released input.length = ctx.cipher.mode.blockLength := by
      apply sub_released hpads hencrypting _ hdvd
      have hsize := congrArg List.length hpad
      rw [hlength, length_pad] at hsize
      have hfill := fill_pos hpos last.length
      omega
    refine ⟨by simpa [fedCtx] using hrest, (unpad_eq_some_iff hpos (blockLength_lt _) ?_).mpr hpad⟩
    change _ ∣ ((scheme.outputOf ctx key input).drop (ctx.released input.length)).length
    rw [hlength, hrest]

theorem lastOutput_unpadded {ctx : CipherCtx} (hpads : ctx.pads = false) {input last : Bytes} :
    scheme.lastOutput (fedCtx ctx input) key = some last ↔
      ctx.cipher.mode.blockLength ∣ input.length ∧ last = [] := by
  have hpads' : (fedCtx ctx input).pads = false := hpads
  have hreleased : ctx.released input.length =
      input.length / ctx.cipher.mode.blockLength * ctx.cipher.mode.blockLength :=
    if_neg fun hboth => Bool.noConfusion (hpads.symm.trans hboth.1)
  have hrest : input.drop (ctx.released input.length) = [] ↔
      ctx.cipher.mode.blockLength ∣ input.length := by
    rw [List.drop_eq_nil_iff, hreleased, Nat.dvd_iff_div_mul_eq]
    exact ⟨fun hle => le_antisymm (Nat.div_mul_le_self _ _) hle, fun heq => heq.ge⟩
  have hlast : scheme.lastOutput (fedCtx ctx input) key =
      if input.drop (ctx.released input.length) = [] then some [] else none :=
    if_pos hpads'
  rw [hlast, Option.ite_none_right_eq_some, hrest, Option.some.injEq, eq_comm]

theorem encrypts_iff_transform (hmode : cipher.mode.isBlockwise = true)
    {plaintext ciphertext : Bytes} :
    scheme.Encrypts cipher key iv padding plaintext ciphertext ↔
      cipher.mode.blockLength ∣ (messageOf cipher padding plaintext).length ∧
        scheme.transform true cipher key iv (messageOf cipher padding plaintext) = ciphertext := by
  rw [Encrypts, if_pos hmode]

theorem encrypts_iff_transform_back (hmode : cipher.mode.isBlockwise = true)
    {plaintext ciphertext : Bytes} :
    scheme.Encrypts cipher key iv padding plaintext ciphertext ↔
      cipher.mode.blockLength ∣ ciphertext.length ∧
        scheme.transform false cipher key iv ciphertext = messageOf cipher padding plaintext := by
  rw [encrypts_iff_transform hmode]
  constructor
  · rintro ⟨hdvd, hciphertext⟩
    refine ⟨?_, (scheme.transform_eq_iff _ _ _ _ _ hdvd).mp hciphertext⟩
    rwa [← hciphertext, scheme.length_transform]
  · rintro ⟨hdvd, hmessage⟩
    have hdvd' : cipher.mode.blockLength ∣ (messageOf cipher padding plaintext).length := by
      rwa [← hmessage, scheme.length_transform]
    exact ⟨hdvd', (scheme.transform_eq_iff _ _ _ _ _ hdvd').mpr hmessage⟩

theorem messageOf_pads {ctx : CipherCtx} (hpads : ctx.pads = true) (plaintext : Bytes) :
    messageOf ctx.cipher ctx.padding plaintext = pad ctx.cipher.mode.blockLength plaintext :=
  if_pos (of_decide_eq_true hpads)

theorem messageOf_unpadded {ctx : CipherCtx} (hpads : ctx.pads = false) (plaintext : Bytes) :
    messageOf ctx.cipher ctx.padding plaintext = plaintext :=
  if_neg (of_decide_eq_false hpads)

section Outputs

variable {ctx : CipherCtx} {input output : Bytes}

/-- What the updates and the last block of a blockwise mode come to. -/
def Outputs (scheme : CipherScheme) (ctx : CipherCtx) (key input output : Bytes) : Prop :=
  ∃ last, scheme.lastOutput (fedCtx ctx input) key = some last ∧
    scheme.outputOf ctx key (input.take (ctx.released input.length)) ++ last = output

theorem outputs_unpadded (hpads : ctx.pads = false) :
    Outputs scheme ctx key input output ↔
      ctx.cipher.mode.blockLength ∣ input.length ∧ scheme.outputOf ctx key input = output := by
  have hwhole (hdvd : ctx.cipher.mode.blockLength ∣ input.length) :
      input.take (ctx.released input.length) = input := by
    apply List.take_of_length_le
    rw [CipherCtx.released, if_neg (by simp [hpads]), Nat.div_mul_cancel hdvd]
  simp only [Outputs, lastOutput_unpadded hpads]
  constructor
  · rintro ⟨_, ⟨hdvd, rfl⟩, houtput⟩
    rw [hwhole hdvd, List.append_nil] at houtput
    exact ⟨hdvd, houtput⟩
  · rintro ⟨hdvd, houtput⟩
    refine ⟨[], ⟨hdvd, rfl⟩, ?_⟩
    rw [hwhole hdvd, List.append_nil, houtput]

theorem outputs_encrypting (hpads : ctx.pads = true) (hencrypting : ctx.encrypting = true) :
    Outputs scheme ctx key input output ↔
      scheme.outputOf ctx key (pad ctx.cipher.mode.blockLength input) = output := by
  have hfirst : (scheme.outputOf ctx key (pad ctx.cipher.mode.blockLength input)).take
      (ctx.released input.length) =
        scheme.outputOf ctx key (input.take (ctx.released input.length)) := by
    rw [take_outputOf ctx _ (dvd_released ctx input.length),
      take_pad _ (released_le ctx input.length)]
  simp only [Outputs, lastOutput_encrypting hpads hencrypting, Option.some.injEq, exists_eq_left']
  rw [← hfirst, List.take_append_drop]

theorem outputs_decrypting (hpads : ctx.pads = true) (hencrypting : ctx.encrypting = false) :
    Outputs scheme ctx key input output ↔
      ctx.cipher.mode.blockLength ∣ input.length ∧
        scheme.outputOf ctx key input = pad ctx.cipher.mode.blockLength output := by
  have hpos := blockLength_pos ctx.cipher.mode
  have hle := released_le ctx input.length
  have hdvdReleased := dvd_released ctx input.length
  have hfirst : (scheme.outputOf ctx key input).take (ctx.released input.length) =
      scheme.outputOf ctx key (input.take (ctx.released input.length)) :=
    take_outputOf ctx input hdvdReleased
  simp only [Outputs, lastOutput_decrypting hpads hencrypting]
  constructor
  · rintro ⟨last, ⟨hdvd, hlast⟩, rfl⟩
    refine ⟨hdvd, ?_⟩
    have hwhole : ctx.cipher.mode.blockLength ∣
        (scheme.outputOf ctx key (input.take (ctx.released input.length))).length := by
      rwa [length_outputOf, List.length_take, min_eq_left hle]
    rw [pad_append hwhole, hlast, ← hfirst, List.take_append_drop]
  · rintro ⟨hdvd, hpad⟩
    have hsize := congrArg List.length hpad
    rw [length_outputOf, length_pad] at hsize
    have hkept : ctx.released input.length ≤ output.length := by
      have hfill := fill_le ctx.cipher.mode.blockLength output.length
      have hnonempty : 0 < input.length := by
        have hsome := fill_pos hpos output.length
        omega
      have hblock := sub_released hpads hencrypting hnonempty hdvd
      omega
    have htaken : (output.take (ctx.released input.length)).length =
        ctx.released input.length := by
      rw [List.length_take, min_eq_left hkept]
    refine ⟨output.drop (ctx.released input.length), ⟨hdvd, ?_⟩, ?_⟩
    · conv_rhs => rw [hpad, ← List.take_append_drop (ctx.released input.length) output]
      rw [pad_append (by rwa [htaken]), List.drop_left' htaken]
    · rw [← hfirst, hpad, take_pad _ hkept, List.take_append_drop]

/-- Both directions compute the relation. -/
theorem outputs_iff_answers (hmode : ctx.cipher.mode.isBlockwise = true) :
    Outputs scheme ctx key input output ↔
      scheme.Answers ctx.encrypting ctx.cipher key ctx.iv ctx.padding input output := by
  have hpos := blockLength_pos ctx.cipher.mode
  cases hencrypting : ctx.encrypting <;> cases hpads : ctx.pads
  case false.false =>
    rw [outputs_unpadded hpads, Answers, if_neg Bool.noConfusion,
      encrypts_iff_transform_back hmode, messageOf_unpadded hpads, outputOf, hencrypting]
  case false.true =>
    rw [outputs_decrypting hpads hencrypting, Answers, if_neg Bool.noConfusion,
      encrypts_iff_transform_back hmode, messageOf_pads hpads, outputOf, hencrypting]
  case true.false =>
    rw [outputs_unpadded hpads, Answers, if_pos rfl, encrypts_iff_transform hmode,
      messageOf_unpadded hpads, outputOf, hencrypting]
  case true.true =>
    rw [outputs_encrypting hpads hencrypting, Answers, if_pos rfl, encrypts_iff_transform hmode,
      messageOf_pads hpads, outputOf, hencrypting]
    exact (and_iff_right (dvd_length_pad hpos input)).symm

end Outputs

/-! ## A pass over the data -/

theorem final_blockwise {ctx : CipherCtx} (hready : TakesInput ctx encrypting key)
    (hmode : ctx.cipher.mode.isBlockwise = true) {final : Bytes × Option CipherCtx} :
    scheme.final encrypting (some ctx) = .ok final ↔
      ∃ last, scheme.lastOutput ctx key = some last ∧
        (last, some { ctx with finished := true }) = final := by
  rw [CipherScheme.final, withKey_ready hready]
  simp only [hmode, if_true]
  cases scheme.lastOutput ctx key with
  | none => simp [fail]
  | some last => simp

theorem final_oneShot {ctx : CipherCtx} (hmode : ctx.cipher.mode.isBlockwise = false)
    (hready : TakesInput ctx encrypting key) :
    scheme.final encrypting (some ctx) = .ok ([], some { ctx with finished := true }) := by
  rw [CipherScheme.final, withKey_ready hready]
  simp [hmode]

/-- The modes that take their input at once turn nothing into nothing. -/
theorem answers_oneShot (hmode : cipher.mode.isBlockwise = false) {input output : Bytes} :
    scheme.Answers encrypting cipher key iv padding input output ↔
      if input = [] then output = []
      else scheme.process encrypting cipher key iv input = some output := by
  cases encrypting with
  | true => rw [Answers, if_pos rfl, Encrypts, hmode, if_neg Bool.noConfusion]
  | false =>
      rw [Answers, if_neg Bool.noConfusion, Encrypts, hmode, if_neg Bool.noConfusion]
      by_cases hinput : input = [] <;> by_cases houtput : output = []
      · simp [hinput, houtput]
      · simp only [hinput, houtput, if_true, if_false, iff_false]
        intro hprocess
        exact (scheme.process_output _ _ _ _ _ _ houtput hprocess).1 rfl
      · simp only [hinput, houtput, if_true, if_false, false_iff]
        intro hprocess
        exact (scheme.process_output _ _ _ _ _ _ hinput hprocess).1 rfl
      · rw [if_neg hinput, if_neg houtput]
        exact scheme.process_eq_iff _ _ _ _ _ houtput hinput

/-- One update and the final call compute the relation. -/
theorem pass_ok_iff {input output : Bytes} {label : ByteString} :
    (∃ written, evpUpdate scheme.evp input label encrypting
        (some (readyCtx cipher encrypting key iv padding)) = .ok written ∧
      ∃ final, scheme.final encrypting written.2 = .ok final ∧ written.1 ++ final.1 = output) ↔
      input.length ≤ INT_MAX ∧ scheme.Answers encrypting cipher key iv padding input output := by
  have hready : TakesInput (readyCtx cipher encrypting key iv padding) encrypting key :=
    ⟨rfl, rfl, rfl⟩
  cases hmode : cipher.mode.isBlockwise with
  | false =>
      have hmode' : (readyCtx cipher encrypting key iv padding).cipher.mode.isBlockwise = false :=
        hmode
      simp only [evpUpdate_oneShot hmode' hready, answers_oneShot hmode]
      constructor
      · rintro ⟨_, ⟨hsize, first, hfirst, rfl⟩, final, hfinal, rfl⟩
        rw [final_oneShot hmode' hready] at hfinal
        obtain rfl := Except.ok.inj hfinal
        rw [List.append_nil]
        exact ⟨hsize, hfirst⟩
      · rintro ⟨hsize, houtput⟩
        exact ⟨_, ⟨hsize, output, houtput, rfl⟩, _, final_oneShot hmode' hready,
          List.append_nil output⟩
  | true =>
      have hmode' : (readyCtx cipher encrypting key iv padding).cipher.mode.isBlockwise = true :=
        hmode
      have hfed : TakesInput (fedCtx (readyCtx cipher encrypting key iv padding) input)
          encrypting key := ⟨rfl, rfl, rfl⟩
      simp only [evpUpdate_blockwise hmode' hready rfl rfl]
      constructor
      · rintro ⟨_, ⟨hsize, rfl⟩, _, hfinal, houtput⟩
        obtain ⟨last, hlast, rfl⟩ := (final_blockwise hfed hmode').mp hfinal
        exact ⟨hsize, (outputs_iff_answers hmode').mp ⟨last, hlast, houtput⟩⟩
      · rintro ⟨hsize, hanswers⟩
        obtain ⟨last, hlast, houtput⟩ := (outputs_iff_answers hmode').mpr hanswers
        exact ⟨_, ⟨hsize, rfl⟩, _, (final_blockwise hfed hmode').mpr ⟨last, hlast, rfl⟩, houtput⟩

/-- An IV that was not given is a null pointer. -/
def ivPointer (iv : Bytes) : Option Bytes := if iv.isEmpty then none else some iv

/-- A call in a direction gets as far as its data. -/
structure AcceptsCall (scheme : CipherScheme) (encrypting : Bool) (cipherName key iv : Bytes)
    (cipher : EvpCipher) : Prop where
  normalized : normalizeCipherName cipherName = .ok cipher.name
  resolved : resolveCipher cipher.name = .ok cipher
  classical : isAead cipher.name = false
  keyLength : requireKeyLen scheme.evp cipher key = .ok ()
  ivLength : requireIvLen scheme.evp cipher iv cipher.name = .ok ()
  mode : scheme.acceptsMode cipher.mode = true
  key : scheme.acceptsKey encrypting cipher key = true

/-- What both functions do, but for the texts of their errors. -/
def classicalCall (evp : EvpCipherApi) (encrypting : Bool) (aead initFailed finalFailed label
    cipherName key iv input : Bytes) (padding : Bool) : Except ToolException Bytes := do
  let canonical ← normalizeCipherName cipherName
  rejectWhen (isAead canonical) aead
  let cipher ← resolveCipher canonical
  requireKeyLen evp cipher key
  requireIvLen evp cipher iv canonical
  let ctx ← makeCtx evp
  let ctx ← check1 initFailed
    (evp.init encrypting (some cipher) (some key) (if iv.isEmpty then none else some iv) ctx)
  let ctx ← check1 (ascii "EVP_CIPHER_CTX_set_padding failed") (evp.setPadding padding ctx)
  let written ← evpUpdate evp input label encrypting ctx
  let final ← check1 finalFailed (evp.final encrypting written.2)
  .ok (written.1 ++ final.1)

theorem init_ok_iff {ctx : Option CipherCtx} :
    scheme.init encrypting (some cipher) (some key) iv none = .ok ctx ↔
      (scheme.acceptsMode cipher.mode = true ∧ scheme.acceptsKey encrypting cipher key = true) ∧
        some (readyCtx cipher encrypting key iv true) = ctx := by
  have hbegin : begin cipher encrypting (some key) iv none =
      readyCtx cipher encrypting key iv true := by
    cases iv <;> rfl
  have hinit : scheme.init encrypting (some cipher) (some key) iv none =
      if scheme.acceptsInit cipher encrypting (some key) then
        .ok (some (readyCtx cipher encrypting key iv true))
      else scheme.fail := by
    rw [← hbegin]
    rfl
  have haccepts : scheme.acceptsInit cipher encrypting (some key) = true ↔
      scheme.acceptsMode cipher.mode = true ∧ scheme.acceptsKey encrypting cipher key = true := by
    simp [acceptsInit]
  rw [hinit, ← haccepts]
  split
  · rename_i htrue
    simp [htrue]
  · rename_i hfalse
    simp [hfalse, fail]

theorem classicalCall_ok_iff
    {aead initFailed finalFailed label cipherName iv input output : Bytes} :
    classicalCall scheme.evp encrypting aead initFailed finalFailed label cipherName key iv input
        padding = .ok output ↔
      ∃ cipher, AcceptsCall scheme encrypting cipherName key iv cipher ∧
        input.length ≤ INT_MAX ∧
        scheme.Answers encrypting cipher key (ivPointer iv) padding input output := by
  simp only [classicalCall, except_bind_ok, rejectWhen_eq_ok, makeCtx, check1_eq_ok,
    Except.ok.injEq, exists_eq_left']
  constructor
  · rintro ⟨canonical, hname, _, haead, cipher, hcipher, _, hkey, _, hiv, ctx, hinit, padded,
      hpadding, hpass⟩
    obtain rfl := name_of_resolveCipher hname hcipher
    obtain ⟨⟨hmode, haccepts⟩, rfl⟩ := init_ok_iff.mp hinit
    obtain rfl := Except.ok.inj hpadding
    exact ⟨cipher, ⟨hname, hcipher, by simpa using haead, hkey, hiv, hmode, haccepts⟩,
      pass_ok_iff.mp hpass⟩
  · rintro ⟨cipher, hcall, hpass⟩
    exact ⟨_, hcall.normalized, ⟨⟩, by simp [hcall.classical], _, hcall.resolved, ⟨⟩,
      hcall.keyLength, ⟨⟩, hcall.ivLength, _, init_ok_iff.mpr ⟨⟨hcall.mode, hcall.key⟩, rfl⟩, _,
      rfl, pass_ok_iff.mpr hpass⟩

theorem encrypt_ok_iff {cipherName iv plaintext ciphertext : Bytes} :
    encrypt scheme.evp cipherName key iv plaintext padding = .ok ciphertext ↔
      ∃ cipher, AcceptsCall scheme true cipherName key iv cipher ∧
        plaintext.length ≤ INT_MAX ∧
        scheme.Encrypts cipher key (ivPointer iv) padding plaintext ciphertext :=
  classicalCall_ok_iff

theorem decrypt_ok_iff {cipherName iv plaintext ciphertext : Bytes} :
    decrypt scheme.evp cipherName key iv ciphertext padding = .ok plaintext ↔
      ∃ cipher, AcceptsCall scheme false cipherName key iv cipher ∧
        ciphertext.length ≤ INT_MAX ∧
        scheme.Encrypts cipher key (ivPointer iv) padding plaintext ciphertext :=
  classicalCall_ok_iff

/-! ## The round trip -/

/-- A ciphertext is at least as long as its plaintext where that can reach the
largest length. -/
theorem length_of_encrypts {plaintext ciphertext : Bytes}
    (hencrypts : scheme.Encrypts cipher key iv padding plaintext ciphertext)
    (hsize : ciphertext.length ≤ INT_MAX) : plaintext.length ≤ INT_MAX := by
  cases hmode : cipher.mode.isBlockwise with
  | true =>
      have hmessage : (messageOf cipher padding plaintext).length = ciphertext.length := by
        obtain ⟨-, hciphertext⟩ := (encrypts_iff_transform hmode).mp hencrypts
        rw [← hciphertext, scheme.length_transform]
      have hlonger : plaintext.length ≤ (messageOf cipher padding plaintext).length := by
        unfold messageOf
        split
        · simp
        · exact le_rfl
      exact hlonger.trans (hmessage.trans_le hsize)
  | false =>
      have hback := (@answers_oneShot scheme _ _ _ false _ hmode _ _).mp hencrypts
      split at hback
      · rw [hback]
        exact Nat.zero_le _
      · rename_i hfull
        exact (scheme.process_output _ _ _ _ _ _ hfull hback).2

/-- Padding adds a block at most, and the other modes give out what fits. -/
theorem length_le_of_encrypts {plaintext ciphertext : Bytes}
    (hencrypts : scheme.Encrypts cipher key iv padding plaintext ciphertext)
    (hsize : plaintext.length + 16 ≤ INT_MAX) : ciphertext.length ≤ INT_MAX := by
  cases hmode : cipher.mode.isBlockwise with
  | true =>
      obtain ⟨-, rfl⟩ := (encrypts_iff_transform hmode).mp hencrypts
      have hfill := fill_le cipher.mode.blockLength plaintext.length
      have hblock : cipher.mode.blockLength ≤ 16 := by
        rcases blockLength_blockwise hmode with hone | hsixteen
        · omega
        · omega
      rw [scheme.length_transform, messageOf]
      split
      · rw [length_pad]
        omega
      · omega
  | false =>
      have hforth := (@answers_oneShot scheme _ _ _ true _ hmode _ _).mp hencrypts
      split at hforth
      · rw [hforth]
        exact Nat.zero_le _
      · rename_i hfull
        exact (scheme.process_output _ _ _ _ _ _ hfull hforth).2

/-- The key is one that the named cipher takes for encryption too. -/
def EncryptsUnder (scheme : CipherScheme) (cipherName key : Bytes) : Prop :=
  ∃ canonical cipher, normalizeCipherName cipherName = .ok canonical ∧
    resolveCipher canonical = .ok cipher ∧ scheme.acceptsKey true cipher key = true

theorem acceptsCall_encrypting_iff {cipherName iv : Bytes} :
    AcceptsCall scheme true cipherName key iv cipher ↔
      AcceptsCall scheme false cipherName key iv cipher ∧
        EncryptsUnder scheme cipherName key := by
  constructor
  · intro hcall
    exact ⟨{ hcall with key := scheme.acceptsKey_decrypt _ _ hcall.key },
      _, cipher, hcall.normalized, hcall.resolved, hcall.key⟩
  · rintro ⟨hcall, canonical, other, hname, hother, hkey⟩
    obtain rfl := Except.ok.inj (hname.symm.trans hcall.normalized)
    obtain rfl := Except.ok.inj (hother.symm.trans hcall.resolved)
    exact { hcall with key := hkey }

/-- What one function gives the other takes back. -/
theorem encrypt_ok_iff_decrypt_ok {cipherName iv plaintext ciphertext : Bytes} :
    encrypt scheme.evp cipherName key iv plaintext padding = .ok ciphertext ∧
        ciphertext.length ≤ INT_MAX ↔
      decrypt scheme.evp cipherName key iv ciphertext padding = .ok plaintext ∧
        EncryptsUnder scheme cipherName key := by
  rw [encrypt_ok_iff, decrypt_ok_iff]
  constructor
  · rintro ⟨⟨cipher, hcall, -, hencrypts⟩, hsize⟩
    obtain ⟨hdecrypts, hunder⟩ := acceptsCall_encrypting_iff.mp hcall
    exact ⟨⟨cipher, hdecrypts, hsize, hencrypts⟩, hunder⟩
  · rintro ⟨⟨cipher, hdecrypts, hsize, hencrypts⟩, hunder⟩
    exact ⟨⟨cipher, acceptsCall_encrypting_iff.mpr ⟨hdecrypts, hunder⟩,
      length_of_encrypts hencrypts hsize, hencrypts⟩, hsize⟩

end ShoppingWeb.Evp
