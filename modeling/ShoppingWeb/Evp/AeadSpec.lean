import ShoppingWeb.Evp.AeadMachine

/-!
# What the AEAD functions compute

The tool's functions, run on the state machine.  Encryption and decryption end
in the same configuration, although they set the tag length by different calls;
each function then returns what the scheme gives for its arguments.
-/

namespace ShoppingWeb.Evp

open ShoppingWeb.ByteText
open ShoppingWeb.Shared
open ShoppingWeb.Program
open AeadScheme

variable {scheme : AeadScheme} {cipher : EvpCipher} {canonical : ByteString}
  {key nonce aad : Bytes} {encrypting : Bool}

/-- The nonce, the additional data and the payload have lengths that both the
tool and the scheme take. -/
structure AcceptsInput (scheme : AeadScheme) (cipher : EvpCipher) (nonce aad payload : Bytes) :
    Prop where
  nonce_ne_nil : nonce ≠ []
  ocbNonce : cipher.mode = .ocb → nonce.length ≤ 15
  nonceSize : nonce.length ≤ INT_MAX
  ivLength : scheme.acceptsIvLength cipher nonce.length = true
  aadSize : aad.length ≤ INT_MAX
  payloadSize : payload.length ≤ INT_MAX

/-- The tag lengths of a mode. -/
def TagLengthAllowed (mode : AesMode) (length : ℕ) : Prop :=
  1 ≤ length ∧ length ≤ 16 ∧ (mode = .ccm → 4 ≤ length ∧ length % 2 = 0)

theorem acceptsTagLength_of_allowed {mode : AesMode} {length : ℕ}
    (hallowed : TagLengthAllowed mode length) : acceptsTagLength mode length = true := by
  obtain ⟨hone, hsixteen, hccm⟩ := hallowed
  unfold acceptsTagLength
  split
  · simp [hccm rfl, hsixteen]
  · simpa using hsixteen
  · simp [hone, hsixteen]

/-- A context that takes data. -/
structure Ready (ctx : AeadCtx) (encrypting : Bool) (key nonce : Bytes) : Prop where
  key_eq : ctx.key = some key
  nonce_eq : ctx.nonce = some nonce
  encrypting_eq : ctx.encrypting = encrypting
  unfinished : ctx.finished = false

theorem withKeys_ready {Value : Type} {ctx : AeadCtx}
    {call : AeadCtx → Bytes → Bytes → Except ErrorStack Value}
    (hready : Ready ctx encrypting key nonce) :
    scheme.withKeys encrypting call (some ctx) = call ctx key nonce := by
  simp [withKeys, withCipher, hready.key_eq, hready.nonce_eq, hready.encrypting_eq,
    hready.unfinished]

/-- The context after a payload; an empty one has not reached it. -/
def feed (ctx : AeadCtx) (payload : Bytes) : AeadCtx :=
  { ctx with payload, hasPayload := !payload.isEmpty }

theorem feed_nil {ctx : AeadCtx} (hpayload : ctx.payload = []) (hfirst : ctx.hasPayload = false) :
    feed ctx [] = ctx := by
  obtain ⟨⟩ := ctx
  simp_all [feed]

theorem ready_begin {ctx : AeadCtx} (hlength : ctx.ivLength = nonce.length) :
    Ready (begin encrypting (some key) (some nonce) ctx) encrypting key nonce :=
  ⟨rfl, by simp [begin, hlength], rfl, rfl⟩

theorem init_cipher (haead : cipher.mode.isAead = true) :
    scheme.init encrypting (some cipher) none none none =
      .ok (some (begin encrypting none none (scheme.fresh cipher))) := by
  rw [AeadScheme.init]
  exact if_pos haead

theorem setTagLength_ok {tagLen : ℕ} {context : ByteString} {ctx : AeadCtx}
    {after : Option AeadCtx} (hmode : ctx.cipher.mode ≠ .gcm) (hpayload : ctx.hasPayload = false) :
    setTagLength scheme.evp tagLen context (some ctx) = .ok after ↔
      tagLen ≤ INT_MAX ∧ acceptsTagLength ctx.cipher.mode tagLen = true ∧
        some { ctx with tagLength := tagLen } = after := by
  simp [setTagLength, except_bind_ok, AeadScheme.setTag, withCipher, hmode,
    hpayload]

theorem setAeadTag_ok {tag : Bytes} {ctx : AeadCtx} {after : Option AeadCtx}
    (hdirection : ctx.encrypting = false) :
    setAeadTag scheme.evp tag (some ctx) = .ok after ↔
      (tag.length ≠ 0 ∧ tag.length ≤ 16) ∧ tag.length ≤ INT_MAX ∧
        acceptsTagLength ctx.cipher.mode tag.length = true ∧
        (ctx.cipher.mode = .ocb → tag.length = ctx.tagLength) ∧
        some { ctx with tagLength := tag.length, expectedTag := some tag } = after := by
  simp [setAeadTag, except_bind_ok, AeadScheme.setTag, withCipher, hdirection,
    and_assoc]

theorem getAeadTag_ok {tagLen : ℕ} {tag : Bytes} {ctx : AeadCtx} (hkey : ctx.key = some key)
    (hnonce : ctx.nonce = some nonce) (hencrypting : ctx.encrypting = true)
    (hfinished : ctx.finished = true) :
    getAeadTag scheme.evp tagLen (some ctx) = .ok tag ↔
      (tagLen ≠ 0 ∧ tagLen ≤ 16) ∧ tagLen ≤ INT_MAX ∧
        acceptsTagLength ctx.cipher.mode tagLen = true ∧
        (ctx.cipher.mode ≠ .gcm → tagLen = ctx.tagLength) ∧
        (ctx.cipher.mode = .ccm → ctx.hasPayload = true ∨ scheme.tagsEmptyCcm = true) ∧
        scheme.tagOf ctx.cipher tagLen key nonce ctx.aad ctx.payload = tag := by
  simp [getAeadTag, except_bind_ok, AeadScheme.getTag, withCipher, hkey, hnonce,
    hencrypting, hfinished, and_assoc]

theorem setAeadIvLen_ok {ctx : AeadCtx} {after : Option AeadCtx} :
    setAeadIvLen scheme.evp nonce canonical (some ctx) = .ok after ↔
      nonce ≠ [] ∧ (isOcb canonical = true → nonce.length ≤ 15) ∧ nonce.length ≤ INT_MAX ∧
        scheme.acceptsIvLength ctx.cipher nonce.length = true ∧
        some { ctx with ivLength := nonce.length, nonce := none } = after := by
  simp [setAeadIvLen, except_bind_ok, AeadScheme.setIvLength, withCipher]

theorem evpUpdateAad_ok {ctx : AeadCtx} {after : Option AeadCtx}
    (hready : Ready ctx encrypting key nonce) (hpayload : ctx.hasPayload = false)
    (hannounced : ctx.cipher.mode = .ccm → ctx.announced.isSome = true) :
    evpUpdateAad scheme.evp aad encrypting (some ctx) = .ok after ↔
      aad.length ≤ INT_MAX ∧ some { ctx with aad := ctx.aad ++ aad } = after := by
  by_cases hempty : aad = []
  · simp [evpUpdateAad, hempty]
  · simp [evpUpdateAad, hempty, except_bind_ok, AeadScheme.updateAad, withKeys_ready hready,
      hpayload]
    tauto

theorem evpUpdateAad_begin {ctx : AeadCtx} {after : Option AeadCtx}
    (hmode : ctx.cipher.mode ≠ .ccm) (hlength : ctx.ivLength = nonce.length) :
    evpUpdateAad scheme.evp aad encrypting
        (some (begin encrypting (some key) (some nonce) ctx)) = .ok after ↔
      aad.length ≤ INT_MAX ∧
        some { begin encrypting (some key) (some nonce) ctx with aad } = after :=
  evpUpdateAad_ok (ready_begin hlength) rfl fun hccm => absurd hccm hmode

/-- An update of GCM or OCB gives out a first part of the output. -/
theorem evpUpdate_ok {ctx : AeadCtx} {payload : Bytes} {label : ByteString}
    {written : Bytes × Option AeadCtx} (hready : Ready ctx encrypting key nonce)
    (hmode : ctx.cipher.mode ≠ .ccm) (hpayload : ctx.payload = [])
    (hfirst : ctx.hasPayload = false) :
    evpUpdate scheme.evp payload label encrypting (some ctx) = .ok written ↔
      payload.length ≤ INT_MAX ∧
        ((scheme.outputOf ctx key nonce payload).take (scheme.releasedBefore (feed ctx payload)),
          some (feed ctx payload)) = written := by
  by_cases hempty : payload = []
  · simp [evpUpdate, hempty, feed_nil hpayload hfirst, releasedBefore, hfirst]
  · have hfull : payload.isEmpty = false := by simpa using hempty
    simp [evpUpdate, except_bind_ok, AeadScheme.update, withKeys_ready hready, hmode, hpayload,
      hfirst, releasedBefore, feed, hfull]

/-- The final call of GCM or OCB gives out the rest. -/
theorem final_eq {ctx : AeadCtx} (hready : Ready ctx encrypting key nonce)
    (hmode : ctx.cipher.mode ≠ .ccm) :
    scheme.final encrypting (some ctx) =
      if encrypting = false → scheme.tagMatches ctx key nonce ctx.payload = true then
        .ok ((scheme.outputOf ctx key nonce ctx.payload).drop (scheme.releasedBefore ctx),
          some { ctx with finished := true })
      else scheme.fail := by
  simp [AeadScheme.final, withKeys_ready hready, hmode, hready.encrypting_eq]

theorem announceLength_ccm {ctx : AeadCtx} {length : ℕ} (hready : Ready ctx encrypting key nonce)
    (hmode : ctx.cipher.mode = .ccm) (hfirst : ctx.hasPayload = false) :
    scheme.announceLength encrypting length (some ctx) =
      .ok (some { ctx with announced := some length }) := by
  simp [AeadScheme.announceLength, withKeys_ready hready, hmode, hfirst]

/-- The update of CCM gives out everything, and fails when the tag is wrong. -/
theorem update_ccm {ctx : AeadCtx} {payload : Bytes} (hready : Ready ctx encrypting key nonce)
    (hmode : ctx.cipher.mode = .ccm) (hpayload : ctx.payload = []) (hfirst : ctx.hasPayload = false)
    (hannounced : ctx.announced = some payload.length) :
    scheme.update encrypting payload (some ctx) =
      if encrypting = false → scheme.tagMatches ctx key nonce payload = true then
        .ok (scheme.outputOf ctx key nonce payload, some { ctx with payload, hasPayload := true })
      else scheme.fail := by
  simp [AeadScheme.update, withKeys_ready hready, hmode, hpayload, hfirst, hannounced,
    hready.encrypting_eq]

theorem final_ccm {ctx : AeadCtx} (hready : Ready ctx encrypting key nonce)
    (hmode : ctx.cipher.mode = .ccm) :
    scheme.final encrypting (some ctx) = .ok ([], some { ctx with finished := true }) := by
  simp [AeadScheme.final, withKeys_ready hready, hmode]

/-! ## GCM and OCB -/

/-- A context with key, nonce and additional data, before the payload. -/
def messageCtx (cipher : EvpCipher) (encrypting : Bool) (tagLength : ℕ) (key nonce aad : Bytes) :
    AeadCtx where
  cipher
  encrypting
  ivLength := nonce.length
  tagLength
  key := some key
  nonce := some nonce
  announced := none
  aad
  payload := []
  hasPayload := false
  expectedTag := none
  finished := false

theorem ready_messageCtx (tagLength : ℕ) :
    Ready (messageCtx cipher encrypting tagLength key nonce aad) encrypting key nonce :=
  ⟨rfl, rfl, rfl, rfl⟩

section GcmOcb

variable (hmode : cipher.mode = .gcm ∨ cipher.mode = .ocb)
include hmode

theorem ne_ccm : cipher.mode ≠ .ccm := by
  rcases hmode with hmode | hmode
  · simp [hmode]
  · simp [hmode]

theorem isAead_gcmOcb : cipher.mode.isAead = true := by
  rcases hmode with hmode | hmode
  · simp [AesMode.isAead, hmode]
  · simp [AesMode.isAead, hmode]

theorem setOcbTagLength_ok {condition : Prop} [Decidable condition] {tagLen : ℕ}
    {after : Option AeadCtx} (hcondition : condition → cipher.mode = .ocb) :
    setOcbTagLength scheme.evp condition tagLen
        (some (begin encrypting none none (scheme.fresh cipher))) = .ok after ↔
      (condition → tagLen ≤ 16) ∧
        some { begin encrypting none none (scheme.fresh cipher) with
          tagLength := if condition then tagLen else 16 } = after := by
  by_cases hset : condition
  · have hocb := hcondition hset
    have hnotGcm : cipher.mode ≠ .gcm := by simp [hocb]
    have hsize : tagLen ≤ 16 → tagLen ≤ INT_MAX := fun hle => hle.trans (by decide)
    have haccepts : acceptsTagLength cipher.mode tagLen = true ↔ tagLen ≤ 16 := by
      simp [acceptsTagLength, hocb]
    rw [setOcbTagLength, if_pos hset, setTagLength_ok hnotGcm rfl]
    simp only [hset, if_true, true_implies]
    constructor
    · rintro ⟨-, haccepted, hafter⟩
      exact ⟨haccepts.mp haccepted, hafter⟩
    · rintro ⟨hle, hafter⟩
      exact ⟨hsize hle, haccepts.mpr hle, hafter⟩
  · have htagLength : (scheme.fresh cipher).tagLength = 16 := if_neg (ne_ccm hmode)
    rw [setOcbTagLength, if_neg hset]
    simp [hset, begin, htagLength]

/-- Both directions are set up alike; the tag length is 16 unless it is set. -/
theorem setup_ok {condition : Prop} [Decidable condition] {tagLen : ℕ} {after : Option AeadCtx}
    (hcondition : condition → cipher.mode = .ocb) :
    (∃ sized, setOcbTagLength scheme.evp condition tagLen
        (some (begin encrypting none none (scheme.fresh cipher))) = .ok sized ∧
      ∃ unkeyed, setAeadIvLen scheme.evp nonce cipher.name sized = .ok unkeyed ∧
        ∃ keyed, scheme.init encrypting none (some key) (some nonce) unkeyed = .ok keyed ∧
          evpUpdateAad scheme.evp aad encrypting keyed = .ok after) ↔
      (condition → tagLen ≤ 16) ∧ AcceptsInput scheme cipher nonce aad [] ∧
        some (messageCtx cipher encrypting (if condition then tagLen else 16) key nonce aad) =
          after := by
  constructor
  · rintro ⟨_, hsized, _, hunkeyed, _, hkeyed, haad⟩
    obtain ⟨hlength, rfl⟩ := (setOcbTagLength_ok hmode hcondition).mp hsized
    obtain ⟨hne, hocb, hsize, hiv, rfl⟩ := setAeadIvLen_ok.mp hunkeyed
    obtain rfl := Except.ok.inj hkeyed
    obtain ⟨haadSize, rfl⟩ := (evpUpdateAad_begin (by exact ne_ccm hmode) rfl).mp haad
    refine ⟨hlength, ⟨hne, fun hmode => hocb ((isOcb_name cipher).mpr hmode), hsize, hiv, haadSize,
      Nat.zero_le _⟩, ?_⟩
    simp [messageCtx, begin, fresh]
  · rintro ⟨hlength, haccepts, rfl⟩
    refine ⟨_, (setOcbTagLength_ok hmode hcondition).mpr ⟨hlength, rfl⟩, _,
      setAeadIvLen_ok.mpr ⟨haccepts.nonce_ne_nil, ?_, haccepts.nonceSize, haccepts.ivLength, rfl⟩,
      _, rfl, ?_⟩
    · intro hocb
      exact haccepts.ocbNonce ((isOcb_name cipher).mp hocb)
    · apply (evpUpdateAad_begin (by exact ne_ccm hmode) rfl).mpr
      refine ⟨haccepts.aadSize, ?_⟩
      simp [messageCtx, begin, fresh]

theorem tagParameter_congr {first second : ℕ} (hsame : cipher.mode = .ocb → first = second) :
    tagParameter cipher first = tagParameter cipher second := by
  rw [tagParameter, tagParameter]
  rcases hmode with hgcm | hocb
  · rw [if_pos hgcm, if_pos hgcm]
  · rw [hsame hocb]

/-- An update and the final call together give out the whole ciphertext. -/
theorem encryptGcmOcb_ok_iff {plaintext : Bytes} {tagLen : ℕ} {result : AeadEncryptResult} :
    encryptGcmOcb scheme.evp cipher cipher.name key nonce aad plaintext tagLen = .ok result ↔
      TagLengthAllowed cipher.mode tagLen ∧ AcceptsInput scheme cipher nonce aad plaintext ∧
        ⟨scheme.ciphertextOf cipher tagLen key nonce plaintext,
          scheme.tagOf cipher tagLen key nonce aad plaintext⟩ = result := by
  let tagLength := if isOcb cipher.name = true then tagLen else 16
  let ctx := messageCtx cipher true tagLength key nonce aad
  have hready : Ready ctx true key nonce := ready_messageCtx _
  have hfed : Ready (feed ctx plaintext) true key nonce := ⟨rfl, rfl, rfl, rfl⟩
  have houtput : scheme.outputOf ctx key nonce plaintext =
      scheme.ciphertextOf cipher tagLen key nonce plaintext := by
    have hsame : tagParameter cipher tagLength = tagParameter cipher tagLen :=
      tagParameter_congr hmode fun hocb => if_pos ((isOcb_name cipher).mpr hocb)
    simp only [outputOf, ctx, messageCtx, if_true, ciphertextOf, hsame]
  simp only [encryptGcmOcb, except_bind_ok, rejectWhen_eq_ok, makeCtx, check1_eq_ok,
    Except.ok.injEq, exists_eq_left', init_cipher (isAead_gcmOcb hmode)]
  constructor
  · rintro ⟨_, hlength, _, hsized, _, hunkeyed, _, hkeyed, _, haad, written, hwritten, final,
      hfinal, tag, htag, rfl⟩
    obtain ⟨-, haccepts, rfl⟩ :=
      (setup_ok hmode (isOcb_name cipher).mp).mp ⟨_, hsized, _, hunkeyed, _, hkeyed, haad⟩
    obtain ⟨hsize, rfl⟩ := (evpUpdate_ok hready (ne_ccm hmode) rfl rfl).mp hwritten
    rw [final_eq hfed (ne_ccm hmode), ite_fail_eq_ok] at hfinal
    obtain rfl := Except.ok.inj hfinal.2
    obtain ⟨-, -, -, -, -, rfl⟩ := (getAeadTag_ok rfl rfl rfl rfl).mp htag
    refine ⟨⟨by omega, by omega, fun hccm => absurd hccm (ne_ccm hmode)⟩,
      { haccepts with payloadSize := hsize }, ?_⟩
    rw [← houtput]
    congr 1
    exact (List.take_append_drop _ _).symm
  · rintro ⟨hallowed, haccepts, rfl⟩
    have hsixteen := hallowed.2.1
    have hone := hallowed.1
    obtain ⟨_, hsized, _, hunkeyed, _, hkeyed, haad⟩ := (setup_ok hmode (isOcb_name cipher).mp).mpr
      ⟨fun _ => hsixteen, { haccepts with payloadSize := Nat.zero_le _ }, rfl⟩
    refine ⟨⟨⟩, by omega, _, hsized, _, hunkeyed, _, hkeyed, _, haad, _,
      (evpUpdate_ok hready (ne_ccm hmode) rfl rfl).mpr ⟨haccepts.payloadSize, rfl⟩, _,
      (final_eq hfed (ne_ccm hmode)).trans (if_pos fun hfalse => Bool.noConfusion hfalse), _,
      (getAeadTag_ok rfl rfl rfl rfl).mpr ⟨by omega, hsixteen.trans (by decide),
        acceptsTagLength_of_allowed hallowed, ?_, fun hccm => absurd hccm (ne_ccm hmode), rfl⟩, ?_⟩
    · intro hnotGcm
      exact (if_pos ((isOcb_name cipher).mpr (hmode.resolve_left hnotGcm))).symm
    · rw [← houtput]
      congr 1
      exact List.take_append_drop _ _

/-- What the scheme answers to a tag. -/
def verified (scheme : AeadScheme) (cipher : EvpCipher) (key nonce aad ciphertext tag : Bytes) :
    AeadDecryptResult :=
  let plaintext := scheme.plaintextOf cipher tag.length key nonce ciphertext
  if tag = scheme.tagOf cipher tag.length key nonce aad plaintext then ⟨plaintext, true⟩
  else ⟨[], false⟩

/-- With the tag set after the payload, the final call gives out the rest of
the plaintext for the right tag only. -/
theorem finishDecryption_eq {ctx : AeadCtx} {ciphertext tag : Bytes}
    (hready : Ready ctx false key nonce) (hcipher : ctx.cipher = cipher) (haad : ctx.aad = aad)
    (htagLength : cipher.mode = .ocb → tag.length = ctx.tagLength) :
    finishDecryption scheme.evp
        ((scheme.outputOf ctx key nonce ciphertext).take
          (scheme.releasedBefore (feed ctx ciphertext)))
        (some { feed ctx ciphertext with tagLength := tag.length, expectedTag := some tag }) =
      verified scheme cipher key nonce aad ciphertext tag := by
  subst hcipher haad
  let tagged : AeadCtx :=
    { feed ctx ciphertext with tagLength := tag.length, expectedTag := some tag }
  have htagged : Ready tagged false key nonce :=
    ⟨hready.key_eq, hready.nonce_eq, hready.encrypting_eq, hready.unfinished⟩
  have houtput : scheme.outputOf ctx key nonce ciphertext =
      scheme.plaintextOf ctx.cipher tag.length key nonce ciphertext := by
    have hsame : tagParameter ctx.cipher ctx.tagLength = tagParameter ctx.cipher tag.length :=
      tagParameter_congr hmode fun hocb => (htagLength hocb).symm
    simp only [outputOf, hready.encrypting_eq, Bool.false_eq_true, if_false, plaintextOf, hsame]
  have hmatch : scheme.tagMatches tagged key nonce ciphertext = true ↔
      tag = scheme.tagOf ctx.cipher tag.length key nonce ctx.aad
        (scheme.plaintextOf ctx.cipher tag.length key nonce ciphertext) := by
    simp [tagMatches, tagged, feed]
  rw [verified]
  split
  · rename_i hright
    have hfinal : scheme.final false (some tagged) = _ :=
      (final_eq htagged (ne_ccm hmode)).trans (if_pos fun _ => hmatch.mpr hright)
    have hrest : scheme.outputOf tagged key nonce tagged.payload =
        scheme.plaintextOf ctx.cipher tag.length key nonce ciphertext := by
      simp [outputOf, tagged, feed, hready.encrypting_eq]
    have hreleased : scheme.releasedBefore tagged =
        scheme.releasedBefore (feed ctx ciphertext) := rfl
    simp only [finishDecryption, tagged, hfinal, hrest, hreleased, List.take_append_drop, houtput]
  · rename_i hwrong
    have hfinal : scheme.final false (some tagged) = scheme.fail :=
      (final_eq htagged (ne_ccm hmode)).trans (if_neg fun hright => hwrong (hmatch.mp (hright rfl)))
    simp only [finishDecryption, tagged, hfinal, fail]

/-- The tag length set early and the tag set late agree. -/
theorem decryptGcmOcb_ok_iff {ciphertext tag : Bytes} {result : AeadDecryptResult} :
    decryptGcmOcb scheme.evp cipher cipher.name key nonce aad ciphertext tag = .ok result ↔
      TagLengthAllowed cipher.mode tag.length ∧ AcceptsInput scheme cipher nonce aad ciphertext ∧
        verified scheme cipher key nonce aad ciphertext tag = result := by
  let condition : Prop := isOcb cipher.name = true ∧ tag.length ≠ 16
  let tagLength := if condition then tag.length else 16
  let ctx := messageCtx cipher false tagLength key nonce aad
  have htagLength : cipher.mode = .ocb → tag.length = tagLength := by
    intro hocb
    by_cases hsixteen : tag.length = 16
    · simp [tagLength, condition, hsixteen]
    · simp [tagLength, condition, hsixteen, (isOcb_name cipher).mpr hocb]
  have hcondition : condition → cipher.mode = .ocb := fun hset => (isOcb_name cipher).mp hset.1
  have hready : Ready ctx false key nonce := ready_messageCtx _
  simp only [decryptGcmOcb, except_bind_ok, makeCtx, check1_eq_ok, Except.ok.injEq,
    exists_eq_left', init_cipher (isAead_gcmOcb hmode)]
  constructor
  · rintro ⟨_, hsized, _, hunkeyed, _, hkeyed, _, haad, written, hwritten, _, htag, hresult⟩
    obtain ⟨-, haccepts, rfl⟩ :=
      (setup_ok hmode hcondition).mp ⟨_, hsized, _, hunkeyed, _, hkeyed, haad⟩
    obtain ⟨hsize, rfl⟩ := (evpUpdate_ok hready (ne_ccm hmode) rfl rfl).mp hwritten
    obtain ⟨hlength, -, -, -, rfl⟩ := (setAeadTag_ok rfl).mp htag
    refine ⟨⟨by omega, hlength.2, fun hccm => absurd hccm (ne_ccm hmode)⟩,
      { haccepts with payloadSize := hsize }, ?_⟩
    exact (finishDecryption_eq hmode hready rfl rfl htagLength).symm.trans hresult
  · rintro ⟨hallowed, haccepts, rfl⟩
    obtain ⟨_, hsized, _, hunkeyed, _, hkeyed, haad⟩ := (setup_ok hmode hcondition).mpr
      ⟨fun _ => hallowed.2.1, { haccepts with payloadSize := Nat.zero_le _ }, rfl⟩
    refine ⟨_, hsized, _, hunkeyed, _, hkeyed, _, haad, _,
      (evpUpdate_ok hready (ne_ccm hmode) rfl rfl).mpr ⟨haccepts.payloadSize, rfl⟩, _,
      (setAeadTag_ok rfl).mpr ⟨⟨by have := hallowed.1; omega, hallowed.2.1⟩,
        hallowed.2.1.trans (by decide), acceptsTagLength_of_allowed hallowed, htagLength, rfl⟩, ?_⟩
    exact finishDecryption_eq hmode hready rfl rfl htagLength

end GcmOcb

/-! ## CCM -/

/-- A context with key, nonce, announced length and additional data. -/
def announcedCtx (ctx : AeadCtx) (encrypting : Bool) (length : ℕ) (key nonce aad : Bytes) :
    AeadCtx :=
  { begin encrypting (some key) (some nonce) ctx with announced := some length, aad }

theorem ready_announcedCtx {ctx : AeadCtx} (hlength : ctx.ivLength = nonce.length) (length : ℕ) :
    Ready (announcedCtx ctx encrypting length key nonce aad) encrypting key nonce :=
  ⟨rfl, by simp [announcedCtx, begin, hlength], rfl, rfl⟩

section Ccm

variable (hmode : cipher.mode = .ccm)
include hmode

theorem announcedCtx_ok {ctx : AeadCtx} {length : ℕ} {after : Option AeadCtx}
    (hcipher : ctx.cipher = cipher) (hlength : ctx.ivLength = nonce.length) :
    (∃ announced, scheme.announceLength encrypting length
        (some (begin encrypting (some key) (some nonce) ctx)) = .ok announced ∧
      evpUpdateAad scheme.evp aad encrypting announced = .ok after) ↔
      aad.length ≤ INT_MAX ∧ some (announcedCtx ctx encrypting length key nonce aad) = after := by
  have hccm : (begin encrypting (some key) (some nonce) ctx).cipher.mode = .ccm := by
    rw [← hmode, ← hcipher]
    rfl
  have hready : Ready { begin encrypting (some key) (some nonce) ctx with
      announced := some length } encrypting key nonce :=
    ⟨rfl, by simp [begin, hlength], rfl, rfl⟩
  rw [announceLength_ccm (ready_begin hlength) hccm rfl]
  simp only [Except.ok.injEq, exists_eq_left', evpUpdateAad_ok hready rfl fun _ => rfl]
  rfl

theorem tagLengthAllowed_ccm {length : ℕ} :
    acceptsTagLength cipher.mode length = true ↔ TagLengthAllowed cipher.mode length := by
  constructor
  · intro haccepted
    have hccm : 4 ≤ length ∧ length ≤ 16 ∧ length % 2 = 0 := by
      simpa [acceptsTagLength, hmode] using haccepted
    exact ⟨by omega, hccm.2.1, fun _ => ⟨hccm.1, hccm.2.2⟩⟩
  · exact acceptsTagLength_of_allowed

theorem setTagLength_ccm {tagLen : ℕ} {context : ByteString} {ctx : AeadCtx}
    {after : Option AeadCtx} (hcipher : ctx.cipher = cipher) (hpayload : ctx.hasPayload = false) :
    setTagLength scheme.evp tagLen context (some ctx) = .ok after ↔
      TagLengthAllowed cipher.mode tagLen ∧ some { ctx with tagLength := tagLen } = after := by
  subst hcipher
  have hnotGcm : ctx.cipher.mode ≠ .gcm := by simp [hmode]
  rw [setTagLength_ok hnotGcm hpayload, tagLengthAllowed_ccm hmode]
  constructor
  · exact And.right
  · intro hset
    exact ⟨hset.1.2.1.trans (by decide), hset⟩

theorem setAeadTag_ccm {tag : Bytes} {ctx : AeadCtx} {after : Option AeadCtx}
    (hcipher : ctx.cipher = cipher) (hdirection : ctx.encrypting = false) :
    setAeadTag scheme.evp tag (some ctx) = .ok after ↔
      TagLengthAllowed cipher.mode tag.length ∧
        some { ctx with tagLength := tag.length, expectedTag := some tag } = after := by
  subst hcipher
  rw [setAeadTag_ok hdirection, tagLengthAllowed_ccm hmode]
  constructor
  · rintro ⟨-, -, hallowed, -, hafter⟩
    exact ⟨hallowed, hafter⟩
  · rintro ⟨hallowed, hafter⟩
    have hsixteen := hallowed.2.1
    refine ⟨⟨Nat.ne_of_gt hallowed.1, hsixteen⟩, hsixteen.trans (by decide), hallowed, ?_, hafter⟩
    intro hocb
    exact absurd (hmode.symm.trans hocb) AesMode.noConfusion

/-- A context with a nonce length, before the tag length is set. -/
def untaggedCtx (scheme : AeadScheme) (cipher : EvpCipher) (encrypting : Bool) (nonce : Bytes) :
    AeadCtx :=
  { begin encrypting none none (scheme.fresh cipher) with
    ivLength := nonce.length, nonce := none }

/-- Both directions are set up alike, once the tag length is set in the way of
the direction. -/
theorem ccmSetup_ok {payload : Bytes} {sized : AeadCtx} {allowed : Prop} {after : Option AeadCtx}
    {sizeTag : Option AeadCtx → Except ToolException (Option AeadCtx)}
    (hsizeTag : ∀ tagged, sizeTag (some (untaggedCtx scheme cipher encrypting nonce)) =
      .ok tagged ↔ allowed ∧ some sized = tagged)
    (hcipher : sized.cipher = cipher) (hlength : sized.ivLength = nonce.length) :
    (∃ untagged, setAeadIvLen scheme.evp nonce (ascii "AES-CCM")
        (some (begin encrypting none none (scheme.fresh cipher))) = .ok untagged ∧
      ∃ tagged, sizeTag untagged = .ok tagged ∧
        ∃ keyed, scheme.init encrypting none (some key) (some nonce) tagged = .ok keyed ∧
          ∃ length, (payload.length ≤ INT_MAX ∧ payload.length = length) ∧
            ∃ announced, scheme.announceLength encrypting length keyed = .ok announced ∧
              evpUpdateAad scheme.evp aad encrypting announced = .ok after) ↔
      allowed ∧ AcceptsInput scheme cipher nonce aad payload ∧
        some (announcedCtx sized encrypting payload.length key nonce aad) = after := by
  have hnotOcb : isOcb (ascii "AES-CCM") = false := by decide
  constructor
  · rintro ⟨_, huntagged, _, htagged, _, hkeyed, _, ⟨hsize, rfl⟩, hannounced⟩
    obtain ⟨hne, -, hnonce, hivLength, rfl⟩ := setAeadIvLen_ok.mp huntagged
    obtain ⟨hallowed, rfl⟩ := (hsizeTag _).mp htagged
    obtain rfl := Except.ok.inj hkeyed
    obtain ⟨haadSize, rfl⟩ := (announcedCtx_ok hmode hcipher hlength).mp hannounced
    refine ⟨hallowed, ⟨hne, ?_, hnonce, hivLength, haadSize, hsize⟩, rfl⟩
    intro hocb
    exact absurd (hmode.symm.trans hocb) AesMode.noConfusion
  · rintro ⟨hallowed, haccepts, rfl⟩
    refine ⟨_, setAeadIvLen_ok.mpr ⟨haccepts.nonce_ne_nil, by simp [hnotOcb],
      haccepts.nonceSize, haccepts.ivLength, rfl⟩, _, (hsizeTag _).mpr ⟨hallowed, rfl⟩, _, rfl, _,
      ⟨haccepts.payloadSize, rfl⟩, ?_⟩
    exact (announcedCtx_ok hmode hcipher hlength).mpr ⟨haccepts.aadSize, rfl⟩

/-- CCM passes a payload on if there is one. -/
theorem encryptCcmPayload_ok {ctx : AeadCtx} {plaintext : Bytes} {written : Bytes × Option AeadCtx}
    (hready : Ready ctx true key nonce) (hcipher : ctx.cipher = cipher)
    (hpayload : ctx.payload = []) (hfirst : ctx.hasPayload = false)
    (hannounced : ctx.announced = some plaintext.length) :
    encryptCcmPayload scheme.evp plaintext (some ctx) = .ok written ↔
      plaintext.length ≤ INT_MAX ∧
        (scheme.ciphertextOf cipher ctx.tagLength key nonce plaintext, some (feed ctx plaintext)) =
          written := by
  subst hcipher
  by_cases hempty : plaintext = []
  · have hnothing : scheme.ciphertextOf ctx.cipher ctx.tagLength key nonce [] = [] :=
      List.length_eq_zero_iff.mp (scheme.length_encrypt _ _ _ _ _)
    simp [encryptCcmPayload, hempty, hnothing, feed_nil hpayload hfirst]
  · have hfull : plaintext.isEmpty = false := by simpa using hempty
    have houtput : scheme.outputOf ctx key nonce plaintext =
        scheme.ciphertextOf ctx.cipher ctx.tagLength key nonce plaintext :=
      if_pos hready.encrypting_eq
    simp [encryptCcmPayload, except_bind_ok, hfull, feed, houtput,
      update_ccm hready hmode hpayload hfirst hannounced]

theorem encryptCcm_ok_iff {plaintext : Bytes} {tagLen : ℕ} {result : AeadEncryptResult} :
    encryptCcm scheme.evp cipher key nonce aad plaintext tagLen = .ok result ↔
      TagLengthAllowed cipher.mode tagLen ∧ AcceptsInput scheme cipher nonce aad plaintext ∧
        (plaintext = [] → scheme.tagsEmptyCcm = true) ∧
        ⟨scheme.ciphertextOf cipher tagLen key nonce plaintext,
          scheme.tagOf cipher tagLen key nonce aad plaintext⟩ = result := by
  have haead : cipher.mode.isAead = true := by simp [AesMode.isAead, hmode]
  let untagged := untaggedCtx scheme cipher true nonce
  let ctx := announcedCtx { untagged with tagLength := tagLen } true plaintext.length key nonce aad
  have hready : Ready ctx true key nonce := ready_announcedCtx rfl _
  have hfed : Ready (feed ctx plaintext) true key nonce :=
    ⟨rfl, hready.nonce_eq, rfl, rfl⟩
  have hsizeTag (tagged : Option AeadCtx) :
      setTagLength scheme.evp tagLen (ascii "CCM tag length setup failed") (some untagged) =
        .ok tagged ↔
        TagLengthAllowed cipher.mode tagLen ∧ some { untagged with tagLength := tagLen } = tagged :=
    setTagLength_ccm hmode rfl rfl
  simp only [encryptCcm, except_bind_ok, rejectWhen_eq_ok, makeCtx, check1_eq_ok,
    Except.ok.injEq, exists_eq_left', init_cipher haead, checkedIntSize_eq_ok]
  constructor
  · rintro ⟨_, -, _, huntagged, _, htagged, _, hkeyed, _, hsize, _, hannounced, _, haad,
      written, hwritten, final, hfinal, tag, htag, rfl⟩
    obtain ⟨hallowed, haccepts, rfl⟩ := (ccmSetup_ok hmode hsizeTag rfl rfl).mp
      ⟨_, huntagged, _, htagged, _, hkeyed, _, hsize, _, hannounced, haad⟩
    obtain ⟨-, rfl⟩ := (encryptCcmPayload_ok hmode hready rfl rfl rfl rfl).mp hwritten
    rw [final_ccm hfed hmode] at hfinal
    obtain rfl := Except.ok.inj hfinal
    obtain ⟨-, -, -, -, hempty, rfl⟩ :=
      (getAeadTag_ok rfl (by exact hfed.nonce_eq) rfl rfl).mp htag
    refine ⟨hallowed, haccepts, ?_, rfl⟩
    rintro rfl
    exact (hempty hmode).resolve_left Bool.noConfusion
  · rintro ⟨hallowed, haccepts, hempty, rfl⟩
    have hfour := hallowed.2.2 hmode
    have hsixteen := hallowed.2.1
    obtain ⟨_, huntagged, _, htagged, _, hkeyed, _, hsize, _, hannounced, haad⟩ :=
      (ccmSetup_ok hmode hsizeTag rfl rfl).mpr ⟨hallowed, haccepts, rfl⟩
    refine ⟨⟨⟩, by omega, _, huntagged, _, htagged, _, hkeyed, _, hsize, _, hannounced, _, haad, _,
      (encryptCcmPayload_ok hmode hready rfl rfl rfl rfl).mpr ⟨haccepts.payloadSize, rfl⟩, _,
      final_ccm hfed hmode, _, (getAeadTag_ok rfl (by exact hfed.nonce_eq) rfl rfl).mpr
        ⟨by omega, hsixteen.trans (by decide), acceptsTagLength_of_allowed hallowed, fun _ => rfl,
          ?_, rfl⟩, rfl⟩
    intro _
    by_cases hnil : plaintext = []
    · exact Or.inr (hempty hnil)
    · left
      simpa [feed] using hnil

/-- The payload of CCM is verified if there is one. -/
theorem decryptCcmPayload_eq {ctx : AeadCtx} {ciphertext tag : Bytes}
    (hready : Ready ctx false key nonce) (hcipher : ctx.cipher = cipher)
    (haad : ctx.aad = aad) (htagLength : ctx.tagLength = tag.length)
    (hexpected : ctx.expectedTag = some tag)
    (hpayload : ctx.payload = []) (hfirst : ctx.hasPayload = false)
    (hannounced : ctx.announced = some ciphertext.length)
    (hsize : ciphertext.length ≤ INT_MAX) :
    decryptCcmPayload scheme.evp ciphertext (some ctx) =
      .ok (if ciphertext = [] then ⟨[], true⟩
        else verified scheme cipher key nonce aad ciphertext tag) := by
  subst hcipher haad
  by_cases hempty : ciphertext = []
  · simp [decryptCcmPayload, hempty]
  · have hmatch : scheme.tagMatches ctx key nonce ciphertext = true ↔
        tag = scheme.tagOf ctx.cipher tag.length key nonce ctx.aad
          (scheme.plaintextOf ctx.cipher tag.length key nonce ciphertext) := by
      simp [tagMatches, hexpected, htagLength]
    have houtput : scheme.outputOf ctx key nonce ciphertext =
        scheme.plaintextOf ctx.cipher tag.length key nonce ciphertext := by
      simp [outputOf, hready.encrypting_eq, htagLength]
    have hfull : ciphertext.isEmpty = false := by simpa using hempty
    have hsized : checkedIntSize ciphertext.length (ascii "ciphertext") =
        .ok ciphertext.length := checkedIntSize_eq_ok.mpr ⟨hsize, rfl⟩
    have hupdate : scheme.update false ciphertext (some ctx) = _ :=
      update_ccm hready hmode hpayload hfirst hannounced
    rw [if_neg hempty, verified]
    split
    · rename_i hright
      rw [if_pos fun _ => hmatch.mpr hright] at hupdate
      simp only [decryptCcmPayload, hfull, Bool.false_eq_true, if_false, hsized, bind, Except.bind,
        hupdate, houtput]
    · rename_i hwrong
      rw [if_neg fun hright => hwrong (hmatch.mp (hright rfl))] at hupdate
      simp only [decryptCcmPayload, hfull, Bool.false_eq_true, if_false, hsized, bind, Except.bind,
        hupdate, fail]

theorem decryptCcm_ok_iff {ciphertext tag : Bytes} {result : AeadDecryptResult} :
    decryptCcm scheme.evp cipher key nonce aad ciphertext tag = .ok result ↔
      TagLengthAllowed cipher.mode tag.length ∧ AcceptsInput scheme cipher nonce aad ciphertext ∧
        (if ciphertext = [] then ⟨[], true⟩
          else verified scheme cipher key nonce aad ciphertext tag) = result := by
  have haead : cipher.mode.isAead = true := by simp [AesMode.isAead, hmode]
  let untagged := untaggedCtx scheme cipher false nonce
  let tagged : AeadCtx := { untagged with tagLength := tag.length, expectedTag := some tag }
  let ctx := announcedCtx tagged false ciphertext.length key nonce aad
  have hready : Ready ctx false key nonce := ready_announcedCtx rfl _
  have hsizeTag (after : Option AeadCtx) : setAeadTag scheme.evp tag (some untagged) = .ok after ↔
      TagLengthAllowed cipher.mode tag.length ∧ some tagged = after :=
    setAeadTag_ccm hmode rfl rfl
  have hanswer (hsize : ciphertext.length ≤ INT_MAX) :
      decryptCcmPayload scheme.evp ciphertext (some ctx) =
        .ok (if ciphertext = [] then ⟨[], true⟩
          else verified scheme cipher key nonce aad ciphertext tag) :=
    decryptCcmPayload_eq hmode hready rfl rfl rfl rfl rfl rfl rfl hsize
  simp only [decryptCcm, except_bind_ok, rejectWhen_eq_ok, makeCtx, check1_eq_ok,
    Except.ok.injEq, exists_eq_left', init_cipher haead, checkedIntSize_eq_ok]
  constructor
  · rintro ⟨_, -, _, huntagged, _, htagged, _, hkeyed, _, hsize, _, hannounced, _, haad, hresult⟩
    obtain ⟨hallowed, haccepts, rfl⟩ := (ccmSetup_ok hmode hsizeTag rfl rfl).mp
      ⟨_, huntagged, _, htagged, _, hkeyed, _, hsize, _, hannounced, haad⟩
    exact ⟨hallowed, haccepts,
      Except.ok.inj ((hanswer haccepts.payloadSize).symm.trans hresult)⟩
  · rintro ⟨hallowed, haccepts, rfl⟩
    have hfour := hallowed.2.2 hmode
    have hsixteen := hallowed.2.1
    obtain ⟨_, huntagged, _, htagged, _, hkeyed, _, hsize, _, hannounced, haad⟩ :=
      (ccmSetup_ok hmode hsizeTag rfl rfl).mpr ⟨hallowed, haccepts, rfl⟩
    exact ⟨⟨⟩, by omega, _, huntagged, _, htagged, _, hkeyed, _, hsize, _, hannounced, _, haad,
      hanswer haccepts.payloadSize⟩

end Ccm

/-! ## The public functions -/

/-- The name is a spelling of an AEAD cipher, and the key has its length. -/
structure AcceptsCipher (scheme : AeadScheme) (cipherName key : Bytes) (cipher : EvpCipher) :
    Prop where
  normalized : normalizeCipherName cipherName = .ok cipher.name
  resolved : resolveCipher cipher.name = .ok cipher
  aead : cipher.mode.isAead = true
  keyLength_pos : 0 < scheme.keyLength cipher
  keyLength_eq : (key.length : ℤ) = scheme.keyLength cipher

theorem isAead_name (cipher : EvpCipher) : isAead cipher.name = cipher.mode.isAead := by
  rw [Bool.eq_iff_iff]
  simp [isAead, AesMode.isAead, isGcm_name, isCcm_name, isOcb_name, or_assoc]

theorem gcmOcb_of_aead (haead : cipher.mode.isAead = true) (hccm : cipher.mode ≠ .ccm) :
    cipher.mode = .gcm ∨ cipher.mode = .ocb := by
  simpa [AesMode.isAead, hccm] using haead

theorem requireKeyLen_ok {done : Unit} :
    requireKeyLen scheme.evp cipher key = .ok done ↔
      0 < scheme.keyLength cipher ∧ (key.length : ℤ) = scheme.keyLength cipher := by
  simp [requireKeyLen, except_bind_ok]

/-- What the public functions do before they look at the mode. -/
theorem acceptsCipher_iff {Result : Type} {cipherName message : Bytes} {result : Result}
    {next : EvpCipher → ByteString → Except ToolException Result} :
    (do
        let canonical ← normalizeCipherName cipherName
        rejectWhen (!isAead canonical) message
        let cipher ← resolveCipher canonical
        requireKeyLen scheme.evp cipher key
        next cipher canonical) = .ok result ↔
      ∃ cipher, AcceptsCipher scheme cipherName key cipher ∧
        next cipher cipher.name = .ok result := by
  simp only [except_bind_ok, rejectWhen_eq_ok, requireKeyLen_ok]
  constructor
  · rintro ⟨canonical, hname, _, haead, cipher, hcipher, _, ⟨hpos, hlength⟩, hnext⟩
    obtain rfl := name_of_resolveCipher hname hcipher
    rw [isAead_name] at haead
    exact ⟨cipher, ⟨hname, hcipher, by simpa using haead, hpos, hlength⟩, hnext⟩
  · rintro ⟨cipher, haccepts, hnext⟩
    refine ⟨cipher.name, haccepts.normalized, ⟨⟩, ?_, cipher, haccepts.resolved, ⟨⟩,
      ⟨haccepts.keyLength_pos, haccepts.keyLength_eq⟩, hnext⟩
    simp [isAead_name, haccepts.aead]

theorem aeadEncrypt_ok_iff {cipherName plaintext : Bytes} {tagLen : ℕ}
    {result : AeadEncryptResult} :
    aeadEncrypt scheme.evp cipherName key nonce aad plaintext tagLen = .ok result ↔
      ∃ cipher, AcceptsCipher scheme cipherName key cipher ∧
        TagLengthAllowed cipher.mode tagLen ∧ AcceptsInput scheme cipher nonce aad plaintext ∧
        (cipher.mode = .ccm → plaintext = [] → scheme.tagsEmptyCcm = true) ∧
        ⟨scheme.ciphertextOf cipher tagLen key nonce plaintext,
          scheme.tagOf cipher tagLen key nonce aad plaintext⟩ = result := by
  rw [aeadEncrypt, acceptsCipher_iff]
  apply exists_congr
  intro cipher
  apply and_congr_right
  intro haccepts
  by_cases hccm : cipher.mode = .ccm
  · rw [if_pos ((isCcm_name cipher).mpr hccm), encryptCcm_ok_iff hccm]
    simp only [hccm, true_implies]
  · rw [if_neg fun hname => hccm ((isCcm_name cipher).mp hname),
      encryptGcmOcb_ok_iff (gcmOcb_of_aead haccepts.aead hccm)]
    simp only [hccm, false_implies, true_and]

/-- The tag is checked, unless CCM gets an empty ciphertext. -/
theorem aeadDecrypt_ok_iff {cipherName ciphertext tag : Bytes} {result : AeadDecryptResult} :
    aeadDecrypt scheme.evp cipherName key nonce aad ciphertext tag = .ok result ↔
      ∃ cipher, AcceptsCipher scheme cipherName key cipher ∧
        TagLengthAllowed cipher.mode tag.length ∧ AcceptsInput scheme cipher nonce aad ciphertext ∧
        (if cipher.mode = .ccm ∧ ciphertext = [] then ⟨[], true⟩
          else verified scheme cipher key nonce aad ciphertext tag) = result := by
  rw [aeadDecrypt, acceptsCipher_iff]
  apply exists_congr
  intro cipher
  apply and_congr_right
  intro haccepts
  by_cases hccm : cipher.mode = .ccm
  · rw [if_pos ((isCcm_name cipher).mpr hccm), decryptCcm_ok_iff hccm]
    simp only [hccm, true_and]
  · rw [if_neg fun hname => hccm ((isCcm_name cipher).mp hname),
      decryptGcmOcb_ok_iff (gcmOcb_of_aead haccepts.aead hccm)]
    simp only [hccm, false_and, if_false]

end ShoppingWeb.Evp
