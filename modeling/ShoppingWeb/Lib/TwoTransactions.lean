import Mathlib.Logic.Function.Basic

/-!
# Two transactions

Two transactions of one database, each of which reads for a while, makes up its
writes, and then commits them all at once or throws.  Reads see what has been
committed.  Until the first commit both see the same store, and after it the
other transaction is alone: a run is determined by who commits first and how
far the other had got by then.
-/

namespace ShoppingWeb.TwoTransactions

variable {Store Work Write : Type}

/-- How far a transaction has got. -/
inductive Phase (Work Write : Type) where
  | reading (work : Work)
  | planned (write : Write)
  | returned
  | threw
  deriving DecidableEq, Repr

/-- The reads of a transaction, and commits, which can fail. -/
structure Database (Store Work Write : Type) where
  read : Store → Work → Phase Work Write
  commit : Store → Write → Option Store
  /-- A transaction returns by a commit. -/
  read_ne_returned : ∀ store work, read store work ≠ .returned

structure World (Store Work Write : Type) where
  store : Store
  phases : Bool → Phase Work Write

namespace Database

variable (database : Database Store Work Write)

/-- One step of a transaction. -/
def advance (store : Store) : Phase Work Write → Store × Phase Work Write
  | .reading work => (store, database.read store work)
  | .planned write =>
      match database.commit store write with
      | some after => (after, .returned)
      | none => (store, .threw)
  | .returned => (store, .returned)
  | .threw => (store, .threw)

def step (world : World Store Work Write) (thread : Bool) : World Store Work Write where
  store := (database.advance world.store (world.phases thread)).1
  phases := Function.update world.phases thread
    (database.advance world.store (world.phases thread)).2

def run (world : World Store Work Write) (schedule : List Bool) : World Store Work Write :=
  schedule.foldl database.step world

/-- The first to commit, and the phase of the other at that moment. -/
def firstCommit (world : World Store Work Write) :
    List Bool → Option (Bool × Phase Work Write)
  | [] => none
  | thread :: schedule =>
      match world.phases thread with
      | .planned _ => some (thread, world.phases !thread)
      | _ => firstCommit (database.step world thread) schedule

/-- What a transaction gets to by reading alone. -/
inductive Reads (store : Store) : Phase Work Write → Phase Work Write → Prop
  | refl (phase : Phase Work Write) : Reads store phase phase
  | read {work : Work} {phase : Phase Work Write}
      (hrest : Reads store (database.read store work) phase) : Reads store (.reading work) phase

/-- A transaction that runs to its end alone, and returns. -/
inductive Alone (store : Store) : Phase Work Write → Store → Prop
  | done : Alone store .returned store
  | read {work : Work} {final : Store} (hrest : Alone store (database.read store work) final) :
      Alone store (.reading work) final
  | commit {write : Write} {final : Store} (hcommit : database.commit store write = some final) :
      Alone store (.planned write) final

variable {world : World Store Work Write} {thread : Bool}

theorem phases_step_other :
    (database.step world thread).phases (!thread) = world.phases !thread := by
  apply Function.update_of_ne
  cases thread with
  | false => exact Bool.noConfusion
  | true => exact Bool.noConfusion

theorem step_reading {work : Work} (hphase : world.phases thread = .reading work) :
    (database.step world thread).store = world.store ∧
      (database.step world thread).phases thread = database.read world.store work := by
  simp [step, advance, hphase]

theorem step_commit {write : Write} {after : Store} (hphase : world.phases thread = .planned write)
    (hcommit : database.commit world.store write = some after) :
    (database.step world thread).store = after ∧
      (database.step world thread).phases thread = .returned := by
  simp [step, advance, hphase, hcommit]

theorem step_conflict {write : Write} (hphase : world.phases thread = .planned write)
    (hcommit : database.commit world.store write = none) :
    (database.step world thread).phases thread = .threw := by
  simp [step, advance, hphase, hcommit]

/-- A transaction at its end does nothing more. -/
theorem step_ended (hended : world.phases thread = .returned ∨ world.phases thread = .threw) :
    database.step world thread = world := by
  have hadvance : database.advance world.store (world.phases thread) =
      (world.store, world.phases thread) := by
    rcases hended with hphase | hphase
    · rw [hphase]
      rfl
    · rw [hphase]
      rfl
  simp [step, hadvance]

theorem phases_run_of_threw {schedule : List Bool} (hthrew : world.phases thread = .threw) :
    (database.run world schedule).phases thread = .threw := by
  induction schedule generalizing world with
  | nil => exact hthrew
  | cons next schedule ih =>
      apply ih
      by_cases hnext : next = thread
      · rw [hnext, database.step_ended (Or.inr hthrew)]
        exact hthrew
      · obtain rfl : thread = !next := Bool.eq_not.mpr (Ne.symm hnext)
        rw [database.phases_step_other]
        exact hthrew

variable {database}

/-- With the other at its end, a transaction that returns has run alone. -/
theorem alone_of_returned {schedule : List Bool} {final : World Store Work Write}
    (hother : world.phases thread = .returned) (hrun : database.run world schedule = final)
    (hreturned : final.phases (!thread) = .returned) :
    database.Alone world.store (world.phases !thread) final.store := by
  induction schedule generalizing world with
  | nil =>
      obtain rfl : world = final := hrun
      rw [hreturned]
      exact Alone.done
  | cons next schedule ih =>
      by_cases hnext : next = thread
      · rw [hnext, run, List.foldl_cons, database.step_ended (Or.inl hother)] at hrun
        exact ih hother hrun
      · obtain rfl : next = !thread := Bool.eq_not.mpr hnext
        have hstill : (database.step world !thread).phases thread = .returned := by
          have hkept : (database.step world !thread).phases (!(!thread)) =
              world.phases (!(!thread)) := database.phases_step_other
          rw [Bool.not_not] at hkept
          exact hkept.trans hother
        have hrest := ih hstill hrun
        cases hphase : world.phases !thread with
        | reading work =>
            obtain ⟨hstore, hread⟩ := database.step_reading hphase
            rw [hstore, hread] at hrest
            exact Alone.read hrest
        | planned write =>
            cases hcommit : database.commit world.store write with
            | none =>
                rw [database.step_conflict hphase hcommit] at hrest
                cases hrest
            | some after =>
                obtain ⟨hstore, hdone⟩ := database.step_commit hphase hcommit
                rw [hstore, hdone] at hrest
                cases hrest
                exact Alone.commit hcommit
        | returned =>
            rw [database.step_ended (Or.inl hphase), hphase] at hrest
            exact hrest
        | threw =>
            rw [database.step_ended (Or.inr hphase), hphase] at hrest
            exact hrest

theorem reads_of_step {work : Work} (hphase : world.phases thread = .reading work) {other : Bool}
    {phase : Phase Work Write}
    (hreads : database.Reads world.store ((database.step world thread).phases other) phase) :
    database.Reads world.store (world.phases other) phase := by
  by_cases hother : other = thread
  · subst hother
    rw [(database.step_reading hphase).2] at hreads
    rw [hphase]
    exact Reads.read hreads
  · obtain rfl : other = !thread := Bool.eq_not.mpr hother
    rw [database.phases_step_other] at hreads
    exact hreads

/-- A run in which both return: somebody commits first, after reads of the
initial store, and the other runs on alone from there. -/
structure FirstCommit (database : Database Store Work Write) (world : World Store Work Write)
    (schedule : List Bool) (final : Store) where
  thread : Bool
  write : Write
  other : Phase Work Write
  middle : Store
  first_eq : database.firstCommit world schedule = some (thread, other)
  planned : database.Reads world.store (world.phases thread) (.planned write)
  reached : database.Reads world.store (world.phases !thread) other
  committed : database.commit world.store write = some middle
  alone : database.Alone middle other final

theorem firstCommit_of_returned {schedule : List Bool} {final : World Store Work Write}
    (hactive : ∀ thread, world.phases thread ≠ .returned)
    (hrun : database.run world schedule = final)
    (hreturned : ∀ thread, final.phases thread = .returned) :
    Nonempty (FirstCommit database world schedule final.store) := by
  induction schedule generalizing world with
  | nil =>
      obtain rfl : world = final := hrun
      exact absurd (hreturned true) (hactive true)
  | cons thread schedule ih =>
      cases hphase : world.phases thread with
      | returned => exact absurd hphase (hactive thread)
      | threw =>
          have hthrew : (database.run world (thread :: schedule)).phases thread = .threw :=
            database.phases_run_of_threw hphase
          rw [hrun, hreturned] at hthrew
          cases hthrew
      | planned write =>
          cases hcommit : database.commit world.store write with
          | none =>
              have hrest : database.run (database.step world thread) schedule = final := hrun
              have hthrew : (database.run (database.step world thread) schedule).phases thread =
                  .threw := database.phases_run_of_threw (database.step_conflict hphase hcommit)
              rw [hrest, hreturned] at hthrew
              cases hthrew
          | some middle =>
              obtain ⟨hstore, hdone⟩ := database.step_commit hphase hcommit
              have halone := alone_of_returned hdone hrun (hreturned _)
              rw [hstore, database.phases_step_other] at halone
              refine ⟨⟨thread, write, world.phases !thread, middle, ?_, ?_, Reads.refl _, hcommit,
                halone⟩⟩
              · simp [firstCommit, hphase]
              · rw [hphase]
                exact Reads.refl _
      | reading work =>
          obtain ⟨hstore, hread⟩ := database.step_reading hphase
          have hactive' : ∀ other, (database.step world thread).phases other ≠ .returned := by
            intro other
            by_cases hother : other = thread
            · rw [hother, hread]
              exact database.read_ne_returned _ _
            · obtain rfl : other = !thread := Bool.eq_not.mpr hother
              rw [database.phases_step_other]
              exact hactive _
          obtain ⟨⟨first, write, other, middle, hfirst, hplanned, hreached, hcommit, halone⟩⟩ :=
            ih hactive' hrun
          rw [hstore] at hplanned hreached hcommit
          refine ⟨⟨first, write, other, middle, ?_, reads_of_step hphase hplanned,
            reads_of_step hphase hreached, hcommit, halone⟩⟩
          simpa [firstCommit, hphase] using hfirst

end Database

end ShoppingWeb.TwoTransactions
