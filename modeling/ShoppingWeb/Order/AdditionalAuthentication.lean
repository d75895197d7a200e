import ShoppingWeb.Lib.TransitionSystem
import ShoppingWeb.Order.ApprovalCache

/-!
# The additional-authentication state machine

Every pending authentication that is stored gets a serial number, and every
code that is presented is logged with the serial number it was presented for.
A token may be stored anew, with a new serial number.  The log then says what
each pending authentication has led to, while the gateway itself only keeps a
counter and forgets the entries it removes.
-/

namespace ShoppingWeb.PaymentSecurityGateway

open ShoppingWeb.Utf16
open ShoppingWeb.Shared
open ShoppingWeb.TransitionSystem

section Calls

variable (sha256 : Bytes → Bytes) (lookups : CatalogLookups) (clock : CallClock)
  (context : TransactionContext) (state : GatewayState)

/-- A validation stores the entry whose token it answers, without failed
attempts, or touches none. -/
theorem pendingAuthentications_validatePaymentTransition :
    let answer := validatePaymentTransition sha256 lookups clock context state
    (answer.1.authenticationToken = none ∧
      answer.2.pendingAuthentications = state.pendingAuthentications) ∨
    ∃ pending, answer.1.authenticationToken = some pending.token ∧ pending.failedAttempts = 0 ∧
      answer.2.pendingAuthentications =
        Function.update state.pendingAuthentications pending.token (some pending) := by
  rw [validatePaymentTransition]
  cases validApproval state clock.checkedAt context with
  | some approval => exact Or.inl ⟨rfl, rfl⟩
  | none =>
      cases haction : (TransactionSecurityService.validateTransaction sha256 lookups
          context).action with
      | requireAdditionalAuth =>
          simp only [processSecurityDecision, haction, handleAdditionalAuthRequired,
            Bool.false_eq_true, if_false]
          let decision := TransactionSecurityService.validateTransaction sha256 lookups context
          let authToken := generateAuthenticationToken clock.tokenAt context
          let pending : PendingAuthentication :=
            { token := authToken
              userId := context.userId
              orderId := context.orderId
              authMethod := determineRequiredAuthMethod decision context
              createdAt := clock.stampedAt
              expiresAt := plusSeconds clock.expiryFrom 300
              failedAttempts := 0
              transactionContext := context
              riskDecision := decision }
          exact Or.inr ⟨pending, rfl, rfl, rfl⟩
      | _ =>
          left
          simp only [processSecurityDecision, haction]
          exact ⟨rfl, rfl⟩

/-- Without a pending authentication nothing happens. -/
theorem verifyAdditionalAuthentication_absent {authToken : JString}
    (habsent : state.pendingAuthentications authToken = none) (authCode : Option JString) :
    (verifyAdditionalAuthentication clock authToken authCode state).1.approved = false ∧
      (verifyAdditionalAuthentication clock authToken authCode state).2 = state := by
  rw [verifyAdditionalAuthentication, habsent]
  exact ⟨rfl, rfl⟩

/-- A code presented in time is accepted and uses the entry up; or it is
refused, and the entry goes away or counts one more failure, below three. -/
theorem verifyAdditionalAuthentication_present {authToken : JString}
    {pending : PendingAuthentication}
    (hpending : state.pendingAuthentications authToken = some pending)
    (authCode : Option JString) :
    let answer := verifyAdditionalAuthentication clock authToken authCode state
    (answer.1.approved = true ∧ clock.checkedAt ≤ pending.expiresAt ∧
      verifyAuthenticationCode pending.authMethod authCode = true ∧
      answer.2.pendingAuthentications =
        Function.update state.pendingAuthentications authToken none) ∨
    (answer.1.approved = false ∧ answer.2.pendingAuthentications =
        Function.update state.pendingAuthentications authToken none) ∨
    (answer.1.approved = false ∧ pending.failedAttempts + 1 < 3 ∧
      verifyAuthenticationCode pending.authMethod authCode = false ∧
      answer.2.pendingAuthentications =
        Function.update state.pendingAuthentications authToken
          (some { pending with failedAttempts := pending.failedAttempts + 1 })) := by
  rw [verifyAdditionalAuthentication, hpending]
  simp only
  split_ifs with hexpired hcode hfailed
  · exact Or.inr (Or.inl ⟨rfl, rfl⟩)
  · exact Or.inr (Or.inl ⟨rfl, rfl⟩)
  · exact Or.inr (Or.inr ⟨rfl, Int32.not_le.mp hfailed, by simpa using hcode, rfl⟩)
  · exact Or.inl ⟨rfl, not_lt.mp hexpired, by simpa using hcode, rfl⟩

/-- A verification touches the pending authentication of its token only. -/
theorem pendingAuthentications_verify_of_ne {authToken other : JString}
    (hother : other ≠ authToken) (authCode : Option JString) :
    (verifyAdditionalAuthentication clock authToken authCode state).2.pendingAuthentications
        other = state.pendingAuthentications other := by
  cases hpending : state.pendingAuthentications authToken with
  | none => rw [(verifyAdditionalAuthentication_absent clock state hpending authCode).2]
  | some pending =>
      rcases verifyAdditionalAuthentication_present clock state hpending authCode with
        ⟨-, -, -, hanswer⟩ | ⟨-, hanswer⟩ | ⟨-, -, -, hanswer⟩
      · rw [hanswer, Function.update_of_ne hother]
      · rw [hanswer, Function.update_of_ne hother]
      · rw [hanswer, Function.update_of_ne hother]

end Calls

/-- A presented code, with the serial number of the pending authentication
found under its token. -/
structure AuthAttempt where
  serial : Option ℕ
  wrongCode : Bool
  approved : Bool
  checkedAt : Instant

/-- How many wrong codes were presented for a pending authentication. -/
def wrongCodes (serial : ℕ) (attempts : List AuthAttempt) : ℕ :=
  attempts.countP fun attempt => attempt.serial == some serial && attempt.wrongCode

/-- How many approvals a pending authentication led to. -/
def approvals (serial : ℕ) (attempts : List AuthAttempt) : ℕ :=
  attempts.countP fun attempt => attempt.serial == some serial && attempt.approved

/-- The gateway, the entries as they were stored, by serial number, the serial
number last stored under each token, and the presented codes, newest first. -/
structure AuthHistory where
  gateway : GatewayState
  stored : List PendingAuthentication
  serialOf : JString → ℕ
  attempts : List AuthAttempt
  now : Instant

namespace AuthHistory

def initial (start : Instant) : AuthHistory := ⟨.empty, [], fun _ => 0, [], start⟩

/-- The entry a validation has stored. -/
def newlyStored (answer : PaymentGateResult × GatewayState) : Option PendingAuthentication :=
  answer.1.authenticationToken.bind answer.2.pendingAuthentications

def afterValidation (history : AuthHistory) (clock : CallClock)
    (answer : PaymentGateResult × GatewayState) : AuthHistory :=
  match newlyStored answer with
  | none => { history with gateway := answer.2, now := clock.expiryFrom }
  | some pending =>
      { history with
        gateway := answer.2
        stored := history.stored ++ [pending]
        serialOf := Function.update history.serialOf pending.token history.stored.length
        now := clock.expiryFrom }

def attempt (history : AuthHistory) (clock : CallClock) (authToken : JString)
    (authCode : Option JString) (approved : Bool) : AuthAttempt where
  serial := (history.gateway.pendingAuthentications authToken).map fun _ =>
    history.serialOf authToken
  wrongCode := (history.gateway.pendingAuthentications authToken).any fun pending =>
    !verifyAuthenticationCode pending.authMethod authCode
  approved := approved
  checkedAt := clock.checkedAt

def afterVerification (history : AuthHistory) (clock : CallClock) (authToken : JString)
    (authCode : Option JString) : AuthHistory :=
  let answer := verifyAdditionalAuthentication clock authToken authCode history.gateway
  { history with
    gateway := answer.2
    attempts := history.attempt clock authToken authCode answer.1.approved :: history.attempts
    now := clock.expiryFrom }

end AuthHistory

/-- One call.  The clock never goes back. -/
def authStep (sha256 : Bytes → Bytes) (history : AuthHistory) (event : GateEvent) :
    Option AuthHistory :=
  if history.now ≤ event.clock.checkedAt then
    match event with
    | .validate lookups clock context =>
        some (history.afterValidation clock
          (validatePaymentTransition sha256 lookups clock context history.gateway))
    | .verify clock authToken authCode =>
        some (history.afterVerification clock authToken authCode)
  else none

/-! ## The invariant -/

/-- Nothing was presented for serial numbers that have not been given out. -/
def AttemptsBelow (count : ℕ) (attempts : List AuthAttempt) : Prop :=
  ∀ attempt ∈ attempts, ∀ serial, attempt.serial = some serial → serial < count

/-- An approval uses a stored entry that has led to none before, after fewer
than three wrong codes and not after its expiry. -/
def ApprovesInTime (stored : List PendingAuthentication) (attempt : AuthAttempt)
    (earlier : List AuthAttempt) : Prop :=
  ∃ serial pending, attempt.serial = some serial ∧ stored[serial]? = some pending ∧
    approvals serial earlier = 0 ∧ wrongCodes serial earlier < 3 ∧
    attempt.checkedAt ≤ pending.expiresAt

def EveryApprovalInTime (stored : List PendingAuthentication) (attempts : List AuthAttempt) :
    Prop :=
  ∀ later attempt earlier, attempts = later ++ attempt :: earlier →
    attempt.approved = true → ApprovesInTime stored attempt earlier

/-- The entry kept under a token is the stored one, with its wrong codes
counted; it has led to no approval yet. -/
structure Tracks (history : AuthHistory) (authToken : JString)
    (pending : PendingAuthentication) : Prop where
  token_eq : pending.token = authToken
  stored_eq : ∃ original, history.stored[history.serialOf authToken]? = some original ∧
    { original with failedAttempts := pending.failedAttempts } = pending
  counted : pending.failedAttempts =
    Int32.ofNat (wrongCodes (history.serialOf authToken) history.attempts)
  wrongCodes_lt : wrongCodes (history.serialOf authToken) history.attempts < 3
  unapproved : approvals (history.serialOf authToken) history.attempts = 0

structure Tracked (history : AuthHistory) : Prop where
  live : ∀ authToken pending,
    history.gateway.pendingAuthentications authToken = some pending →
      Tracks history authToken pending
  below : AttemptsBelow history.stored.length history.attempts
  inTime : EveryApprovalInTime history.stored history.attempts

theorem tracked_initial (start : Instant) : Tracked (.initial start) where
  live _ _ hpending := by cases hpending
  below _ hattempt := absurd hattempt List.not_mem_nil
  inTime later attempt earlier hsplit := by
    simp [AuthHistory.initial] at hsplit

theorem wrongCodes_cons (serial : ℕ) (attempt : AuthAttempt) (attempts : List AuthAttempt) :
    wrongCodes serial (attempt :: attempts) = wrongCodes serial attempts +
      if attempt.serial = some serial ∧ attempt.wrongCode = true then 1 else 0 := by
  simp [wrongCodes, List.countP_cons]

theorem approvals_cons (serial : ℕ) (attempt : AuthAttempt) (attempts : List AuthAttempt) :
    approvals serial (attempt :: attempts) = approvals serial attempts +
      if attempt.serial = some serial ∧ attempt.approved = true then 1 else 0 := by
  simp [approvals, List.countP_cons]

/-- An attempt for something else does not count. -/
theorem counts_cons_of_ne {serial : ℕ} {attempt : AuthAttempt}
    (hserial : attempt.serial ≠ some serial) (attempts : List AuthAttempt) :
    wrongCodes serial (attempt :: attempts) = wrongCodes serial attempts ∧
      approvals serial (attempt :: attempts) = approvals serial attempts := by
  rw [wrongCodes_cons, approvals_cons]
  simp [hserial]

/-- A new serial number starts without attempts. -/
theorem counts_of_below {attempts : List AuthAttempt} {count : ℕ}
    (hbelow : AttemptsBelow count attempts) :
    wrongCodes count attempts = 0 ∧ approvals count attempts = 0 := by
  have hother : ∀ attempt ∈ attempts, attempt.serial ≠ some count := by
    intro attempt hattempt hserial
    exact absurd (hbelow attempt hattempt count hserial) (lt_irrefl count)
  constructor
  · apply List.countP_eq_zero.mpr
    intro attempt hattempt
    simp [hother attempt hattempt]
  · apply List.countP_eq_zero.mpr
    intro attempt hattempt
    simp [hother attempt hattempt]

theorem AttemptsBelow.mono {attempts : List AuthAttempt} {count larger : ℕ}
    (hle : count ≤ larger) (hbelow : AttemptsBelow count attempts) :
    AttemptsBelow larger attempts :=
  fun attempt hattempt serial hserial => (hbelow attempt hattempt serial hserial).trans_le hle

/-- Storing more entries does not change what was in time. -/
theorem EveryApprovalInTime.append {stored : List PendingAuthentication}
    {attempts : List AuthAttempt} (hinTime : EveryApprovalInTime stored attempts)
    (more : List PendingAuthentication) : EveryApprovalInTime (stored ++ more) attempts := by
  intro later attempt earlier hsplit happroved
  obtain ⟨serial, pending, hserial, hstored, hrest⟩ :=
    hinTime later attempt earlier hsplit happroved
  have hlt : serial < stored.length := (List.getElem?_eq_some_iff.mp hstored).1
  exact ⟨serial, pending, hserial, by rw [List.getElem?_append_left hlt, hstored], hrest⟩

theorem everyApprovalInTime_cons {stored : List PendingAuthentication}
    {attempts : List AuthAttempt} {attempt : AuthAttempt}
    (hinTime : EveryApprovalInTime stored attempts)
    (hattempt : attempt.approved = true → ApprovesInTime stored attempt attempts) :
    EveryApprovalInTime stored (attempt :: attempts) := by
  intro later other earlier hsplit happroved
  cases later with
  | nil =>
      obtain ⟨rfl, rfl⟩ := List.cons.inj hsplit
      exact hattempt happroved
  | cons first later =>
      exact hinTime later other earlier (List.cons.inj hsplit).2 happroved

/-- An entry stays tracked while its serial number, its stored form and its
counts stay. -/
theorem Tracks.frame {history next : AuthHistory} {authToken : JString}
    {pending : PendingAuthentication} (htracks : Tracks history authToken pending)
    (hserial : next.serialOf authToken = history.serialOf authToken)
    (hstored : history.stored <+: next.stored)
    (hcounts : wrongCodes (history.serialOf authToken) next.attempts =
        wrongCodes (history.serialOf authToken) history.attempts ∧
      approvals (history.serialOf authToken) next.attempts =
        approvals (history.serialOf authToken) history.attempts) :
    Tracks next authToken pending := by
  obtain ⟨hwrong, happrovals⟩ := hcounts
  constructor
  · exact htracks.token_eq
  · obtain ⟨original, horiginal, hpending⟩ := htracks.stored_eq
    obtain ⟨more, hmore⟩ := hstored
    have hlt := (List.getElem?_eq_some_iff.mp horiginal).1
    exact ⟨original, by rw [hserial, ← hmore, List.getElem?_append_left hlt, horiginal], hpending⟩
  · rw [hserial, hwrong]
    exact htracks.counted
  · rw [hserial, hwrong]
    exact htracks.wrongCodes_lt
  · rw [hserial, happrovals]
    exact htracks.unapproved

/-- Entries under different tokens have different serial numbers. -/
theorem Tracks.serial_ne {history : AuthHistory} {left right : JString}
    {leftPending rightPending : PendingAuthentication}
    (hleft : Tracks history left leftPending) (hright : Tracks history right rightPending)
    (hne : left ≠ right) : history.serialOf left ≠ history.serialOf right := by
  intro hserial
  obtain ⟨leftOriginal, hleftStored, hleftEq⟩ := hleft.stored_eq
  obtain ⟨rightOriginal, hrightStored, hrightEq⟩ := hright.stored_eq
  have hsame : leftOriginal = rightOriginal := by
    rw [hserial, hrightStored] at hleftStored
    exact (Option.some.inj hleftStored).symm
  apply hne
  calc
    left = leftPending.token := hleft.token_eq.symm
    _ = leftOriginal.token := by rw [← hleftEq]
    _ = rightOriginal.token := by rw [hsame]
    _ = rightPending.token := by rw [← hrightEq]
    _ = right := hright.token_eq

theorem tracked_afterValidation {history : AuthHistory} {clock : CallClock}
    {answer : PaymentGateResult × GatewayState} (htracked : Tracked history)
    (hanswer : (answer.1.authenticationToken = none ∧
        answer.2.pendingAuthentications = history.gateway.pendingAuthentications) ∨
      ∃ pending, answer.1.authenticationToken = some pending.token ∧
        pending.failedAttempts = 0 ∧ answer.2.pendingAuthentications =
          Function.update history.gateway.pendingAuthentications pending.token (some pending)) :
    Tracked (history.afterValidation clock answer) := by
  rcases hanswer with ⟨hnone, hsame⟩ | ⟨stored, hsome, hzero, hput⟩
  · have hnew : AuthHistory.newlyStored answer = none := by
      rw [AuthHistory.newlyStored, hnone]
      rfl
    simp only [AuthHistory.afterValidation, hnew]
    constructor
    · intro authToken pending hpending
      exact (htracked.live authToken pending (by rwa [hsame] at hpending)).frame rfl
        (List.prefix_refl _) ⟨rfl, rfl⟩
    · exact htracked.below
    · exact htracked.inTime
  · have hnew : AuthHistory.newlyStored answer = some stored := by
      rw [AuthHistory.newlyStored, hsome, Option.bind_some, hput, Function.update_self]
    simp only [AuthHistory.afterValidation, hnew]
    obtain ⟨hwrong, happrovals⟩ := counts_of_below htracked.below
    constructor
    · intro authToken pending hpending
      by_cases htoken : authToken = stored.token
      · subst htoken
        simp only [hput, Function.update_self, Option.some.injEq] at hpending
        subst hpending
        constructor
        · rfl
        · exact ⟨stored, by simp, rfl⟩
        · simp only [Function.update_self, hwrong, hzero]
          rfl
        · simp only [Function.update_self, hwrong]
          omega
        · simp only [Function.update_self, happrovals]
      · simp only [hput, Function.update_of_ne htoken] at hpending
        exact (htracked.live authToken pending hpending).frame
          (Function.update_of_ne htoken _ _) (List.prefix_append _ _) ⟨rfl, rfl⟩
    · apply htracked.below.mono
      simp
    · exact htracked.inTime.append [stored]

/-- Presenting a code for a pending authentication. -/
theorem attempt_of_pending {history : AuthHistory} {clock : CallClock} {authToken : JString}
    {pending : PendingAuthentication}
    (hpending : history.gateway.pendingAuthentications authToken = some pending)
    (authCode : Option JString) (approved : Bool) :
    history.attempt clock authToken authCode approved =
      ⟨some (history.serialOf authToken), !verifyAuthenticationCode pending.authMethod authCode,
        approved, clock.checkedAt⟩ := by
  simp [AuthHistory.attempt, hpending]

theorem attempt_of_absent {history : AuthHistory} {clock : CallClock} {authToken : JString}
    (habsent : history.gateway.pendingAuthentications authToken = none)
    (authCode : Option JString) (approved : Bool) :
    history.attempt clock authToken authCode approved =
      ⟨none, false, approved, clock.checkedAt⟩ := by
  simp [AuthHistory.attempt, habsent]

theorem attemptsBelow_cons {history : AuthHistory} (htracked : Tracked history)
    (clock : CallClock) (authToken : JString) (authCode : Option JString) (approved : Bool) :
    AttemptsBelow history.stored.length
      (history.attempt clock authToken authCode approved :: history.attempts) := by
  intro attempt hattempt serial hserial
  rcases List.mem_cons.mp hattempt with rfl | hold
  · cases hpending : history.gateway.pendingAuthentications authToken with
    | none =>
        rw [attempt_of_absent hpending] at hserial
        cases hserial
    | some pending =>
        rw [attempt_of_pending hpending] at hserial
        obtain ⟨original, horiginal, -⟩ := (htracked.live authToken pending hpending).stored_eq
        obtain rfl := Option.some.inj hserial
        exact (List.getElem?_eq_some_iff.mp horiginal).1
  · exact htracked.below attempt hold serial hserial

/-- Counting one failure more, below the limit. -/
theorem failedAttempts_succ {count : ℕ} (hcount : count < 3) :
    Int32.ofNat count + 1 = Int32.ofNat (count + 1) ∧
      (Int32.ofNat count + 1 < 3 → count + 1 < 3) := by
  interval_cases count <;> decide

/-- A verification concerns the entry of its token only: the others keep their
serial numbers and counts. -/
theorem tracks_afterVerification_of_ne {history : AuthHistory} (htracked : Tracked history)
    (clock : CallClock) {authToken other : JString} (authCode : Option JString)
    (hother : other ≠ authToken) {pending : PendingAuthentication}
    (hpending : history.gateway.pendingAuthentications other = some pending) :
    Tracks (history.afterVerification clock authToken authCode) other pending := by
  have htracks := htracked.live other pending hpending
  refine htracks.frame rfl (List.prefix_refl _) (counts_cons_of_ne ?_ _)
  intro hserial
  cases hpresent : history.gateway.pendingAuthentications authToken with
  | none =>
      rw [attempt_of_absent hpresent] at hserial
      cases hserial
  | some present =>
      rw [attempt_of_pending hpresent] at hserial
      apply (htracked.live authToken present hpresent).serial_ne htracks hother.symm
      exact Option.some.inj hserial

/-- What remains to be shown of a verification: its own entry is tracked, and
an approval comes in time. -/
theorem tracked_afterVerification_of {history : AuthHistory} (htracked : Tracked history)
    (clock : CallClock) (authToken : JString) (authCode : Option JString)
    (hown : ∀ pending,
      (verifyAdditionalAuthentication clock authToken authCode
        history.gateway).2.pendingAuthentications authToken = some pending →
      Tracks (history.afterVerification clock authToken authCode) authToken pending)
    (hinTime : (verifyAdditionalAuthentication clock authToken authCode
        history.gateway).1.approved = true →
      ApprovesInTime history.stored (history.attempt clock authToken authCode true)
        history.attempts) :
    Tracked (history.afterVerification clock authToken authCode) := by
  constructor
  · intro other pending hpending
    by_cases htoken : other = authToken
    · subst htoken
      exact hown pending hpending
    · have hkept := pendingAuthentications_verify_of_ne clock history.gateway htoken authCode
      exact tracks_afterVerification_of_ne htracked clock authCode htoken
        (hkept.symm.trans hpending)
  · exact attemptsBelow_cons htracked clock authToken authCode _
  · apply everyApprovalInTime_cons htracked.inTime
    intro happroved
    have hanswer : (verifyAdditionalAuthentication clock authToken authCode
      history.gateway).1.approved = true := happroved
    rw [hanswer]
    exact hinTime hanswer

/-- The entry after one more failure. -/
theorem tracks_failure {history : AuthHistory} {clock : CallClock} {authToken : JString}
    {authCode : Option JString} {pending : PendingAuthentication}
    (hpending : history.gateway.pendingAuthentications authToken = some pending)
    (htracks : Tracks history authToken pending)
    (hrefused : (verifyAdditionalAuthentication clock authToken authCode
      history.gateway).1.approved = false)
    (hlt : pending.failedAttempts + 1 < 3)
    (hcode : verifyAuthenticationCode pending.authMethod authCode = false) :
    Tracks (history.afterVerification clock authToken authCode) authToken
      { pending with failedAttempts := pending.failedAttempts + 1 } := by
  obtain ⟨hsucc, hlimit⟩ := failedAttempts_succ htracks.wrongCodes_lt
  rw [← htracks.counted] at hsucc hlimit
  have hwrong : wrongCodes (history.serialOf authToken)
      (history.afterVerification clock authToken authCode).attempts =
        wrongCodes (history.serialOf authToken) history.attempts + 1 := by
    simp [AuthHistory.afterVerification, attempt_of_pending hpending, wrongCodes_cons, hcode]
  constructor
  · exact htracks.token_eq
  · obtain ⟨original, horiginal, hsame⟩ := htracks.stored_eq
    exact ⟨original, horiginal, by rw [← hsame]⟩
  · exact hsucc.trans (congrArg Int32.ofNat hwrong.symm)
  · exact hwrong.trans_lt (hlimit hlt)
  · simp [AuthHistory.afterVerification, attempt_of_pending hpending, approvals_cons, hrefused,
      htracks.unapproved]

theorem tracked_afterVerification {history : AuthHistory} (htracked : Tracked history)
    (clock : CallClock) (authToken : JString) (authCode : Option JString) :
    Tracked (history.afterVerification clock authToken authCode) := by
  cases hpending : history.gateway.pendingAuthentications authToken with
  | none =>
      obtain ⟨hrefused, hsame⟩ :=
        verifyAdditionalAuthentication_absent clock history.gateway hpending authCode
      apply tracked_afterVerification_of htracked
      · intro pending hfound
        rw [hsame, hpending] at hfound
        cases hfound
      · intro happroved
        exact absurd (hrefused.symm.trans happroved) (by decide)
  | some pending =>
      have htracks := htracked.live authToken pending hpending
      rcases verifyAdditionalAuthentication_present clock history.gateway hpending authCode with
        ⟨-, hexpiry, -, hanswer⟩ | ⟨hrefused, hanswer⟩ | ⟨hrefused, hlt, hcode, hanswer⟩
      · apply tracked_afterVerification_of htracked
        · intro found hfound
          rw [hanswer, Function.update_self] at hfound
          cases hfound
        · intro _
          obtain ⟨original, horiginal, hsame⟩ := htracks.stored_eq
          have hexpires : pending.expiresAt = original.expiresAt := by rw [← hsame]
          rw [attempt_of_pending hpending]
          exact ⟨_, original, rfl, horiginal, htracks.unapproved, htracks.wrongCodes_lt,
            hexpiry.trans_eq hexpires⟩
      · apply tracked_afterVerification_of htracked
        · intro found hfound
          rw [hanswer, Function.update_self] at hfound
          cases hfound
        · intro happroved
          exact absurd (hrefused.symm.trans happroved) (by decide)
      · apply tracked_afterVerification_of htracked
        · intro found hfound
          rw [hanswer, Function.update_self] at hfound
          obtain rfl := Option.some.inj hfound
          exact tracks_failure hpending htracks hrefused hlt hcode
        · intro happroved
          exact absurd (hrefused.symm.trans happroved) (by decide)

variable {sha256 : Bytes → Bytes}

theorem tracked_authStep {history next : AuthHistory} {event : GateEvent}
    (htracked : Tracked history) (hstep : authStep sha256 history event = some next) :
    Tracked next := by
  simp only [authStep] at hstep
  split at hstep
  · cases event with
    | validate lookups clock context =>
        obtain rfl := Option.some.inj hstep
        exact tracked_afterValidation htracked
          (pendingAuthentications_validatePaymentTransition sha256 lookups clock context
            history.gateway)
    | verify clock authToken authCode =>
        obtain rfl := Option.some.inj hstep
        exact tracked_afterVerification htracked clock authToken authCode
  · cases hstep

/-! ## Safety -/

/-- No entry that was stored leads to two approvals. -/
theorem approvals_le_one {stored : List PendingAuthentication} {attempts : List AuthAttempt}
    (hinTime : EveryApprovalInTime stored attempts) (serial : ℕ) :
    approvals serial attempts ≤ 1 := by
  induction attempts with
  | nil => exact Nat.zero_le 1
  | cons attempt attempts ih =>
      have hrest : EveryApprovalInTime stored attempts := by
        intro later other earlier hsplit
        exact hinTime (attempt :: later) other earlier (by rw [hsplit, List.cons_append])
      rw [approvals_cons]
      split_ifs with hattempt
      · obtain ⟨hserial, happroved⟩ := hattempt
        obtain ⟨used, -, hused, -, hunapproved, -⟩ := hinTime [] attempt attempts rfl happroved
        obtain rfl : serial = used := Option.some.inj (hserial.symm.trans hused)
        rw [hunapproved]
      · exact ih hrest

/-- The safety of the state machine, in one state of a run. -/
structure SafeAuthentication (history : AuthHistory) : Prop where
  failedAttempts_le : ∀ authToken pending,
    history.gateway.pendingAuthentications authToken = some pending → pending.failedAttempts ≤ 2
  approvals_le : ∀ serial, approvals serial history.attempts ≤ 1
  approved_in_time : ∀ later attempt earlier,
    history.attempts = later ++ attempt :: earlier → attempt.approved = true →
      ∃ serial pending, attempt.serial = some serial ∧ history.stored[serial]? = some pending ∧
        wrongCodes serial earlier < 3 ∧ attempt.checkedAt ≤ pending.expiresAt
  refused_frame : ∀ clock authToken authCode,
    let answer := verifyAdditionalAuthentication clock authToken authCode history.gateway
    answer.1.approved = false →
      answer.2.approvedTransactions = history.gateway.approvedTransactions ∧
        ∀ other, other ≠ authToken → answer.2.pendingAuthentications other =
          history.gateway.pendingAuthentications other

/-- Every state that any sequence of calls leads to is safe. -/
theorem additionalAuthentication_safe (start : Instant) (events : List GateEvent)
    (history : AuthHistory)
    (hrun : run (authStep sha256) (.initial start) events = some history) :
    SafeAuthentication history := by
  have htracked : Tracked history :=
    run_invariant (fun _ _ _ => tracked_authStep) (tracked_initial start) hrun
  constructor
  · intro authToken pending hpending
    have htracks := htracked.live authToken pending hpending
    have hsmall : ∀ count < 3, Int32.ofNat count ≤ 2 := by decide
    rw [htracks.counted]
    exact hsmall _ htracks.wrongCodes_lt
  · exact approvals_le_one htracked.inTime
  · intro later attempt earlier hsplit happroved
    obtain ⟨serial, pending, hserial, hstored, -, hwrong, hexpiry⟩ :=
      htracked.inTime later attempt earlier hsplit happroved
    exact ⟨serial, pending, hserial, hstored, hwrong, hexpiry⟩
  · intro clock authToken authCode answer hrefused
    constructor
    · rcases verifyAdditionalAuthentication_cases clock history.gateway authToken authCode with
        ⟨-, hsame⟩ | ⟨_, -, happroved, -⟩
      · exact hsame
      · exact absurd (hrefused.symm.trans happroved) (by decide)
    · intro other hother
      exact pendingAuthentications_verify_of_ne clock history.gateway hother authCode

/-- A purchase that needs 3-D Secure, an empty code and then a right one. -/
def expensivePurchase : List GateEvent :=
  let context := { twoBooks with totalAmount := ⟨100000000, 0⟩ }
  let authToken := generateAuthenticationToken 1 context
  [.validate bookLookups (.still 1) context, .verify (.still 2) authToken (some []),
    .verify (.still 3) authToken (some (js "1"))]

/-- The purchase is approved at the second attempt, and the run is safe. -/
theorem expensivePurchase_safe :
    ∃ history,
      run (authStep fun message => message) (.initial 0) expensivePurchase = some history ∧
        approvals 0 history.attempts = 1 ∧ wrongCodes 0 history.attempts = 1 ∧
        SafeAuthentication history := by
  obtain ⟨history, hrun, hcheck⟩ := (Option.any_eq_true _ _).mp
    (show (run (authStep fun message => message) (.initial 0) expensivePurchase).any
      (fun history => approvals 0 history.attempts == 1 && wrongCodes 0 history.attempts == 1) =
        true by
        decide +kernel)
  simp only [Bool.and_eq_true, beq_iff_eq] at hcheck
  exact ⟨history, hrun, hcheck.1, hcheck.2,
    additionalAuthentication_safe 0 expensivePurchase history hrun⟩

end ShoppingWeb.PaymentSecurityGateway
