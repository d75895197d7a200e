import Mathlib.Data.List.Basic

/-!
# Runs of a guarded transition system

A system is given by a partial step function: `step state event` is `none`
when the event is not enabled.  A run executes a list of events.  The rules
below lift what one step preserves to a whole run, under a guard that every
step of the run has to meet.
-/

namespace ShoppingWeb.TransitionSystem

variable {State Event : Type*}

/-- Execute events from left to right, stopping at one that is not enabled. -/
def run (step : State → Event → Option State) (state : State) :
    List Event → Option State
  | [] => some state
  | event :: events =>
      (step state event).bind fun next => run step next events

/-- Every step of the run meets `guard`, which sees the state before the step. -/
def Guarded (step : State → Event → Option State)
    (guard : State → Event → Prop) (state : State) : List Event → Prop
  | [] => True
  | event :: events =>
      guard state event ∧
        ∀ next, step state event = some next → Guarded step guard next events

@[simp]
theorem run_nil (step : State → Event → Option State) (state : State) :
    run step state [] = some state := rfl

theorem run_cons_eq_some {step : State → Event → Option State}
    {state final : State} {event : Event} {events : List Event} :
    run step state (event :: events) = some final ↔
      ∃ next, step state event = some next ∧ run step next events = some final := by
  simp [run, Option.bind_eq_some_iff]

/-- The invariant rule: what every guarded step preserves holds at the end of
every guarded run. -/
theorem run_preserves {step : State → Event → Option State}
    {guard : State → Event → Prop} {invariant : State → Prop}
    (hstep : ∀ state event next, invariant state → guard state event →
      step state event = some next → invariant next)
    {state final : State} {events : List Event} (hinitial : invariant state)
    (hguard : Guarded step guard state events)
    (hrun : run step state events = some final) : invariant final := by
  induction events generalizing state with
  | nil =>
      obtain rfl : state = final := by simpa using hrun
      exact hinitial
  | cons event events ih =>
      obtain ⟨next, hnext, hrest⟩ := run_cons_eq_some.mp hrun
      exact ih (hstep state event next hinitial hguard.1 hnext)
        (hguard.2 next hnext) hrest

/-- The invariant rule without a guard. -/
theorem run_invariant {step : State → Event → Option State} {invariant : State → Prop}
    (hstep : ∀ state event next, invariant state → step state event = some next →
      invariant next)
    {state final : State} {events : List Event} (hinitial : invariant state)
    (hrun : run step state events = some final) : invariant final := by
  induction events generalizing state with
  | nil =>
      obtain rfl : state = final := by simpa using hrun
      exact hinitial
  | cons event events ih =>
      obtain ⟨next, hnext, hrest⟩ := run_cons_eq_some.mp hrun
      exact ih (hstep state event next hinitial hnext) hrest

/-- A system that carries more than another one, and moves the common part as
the other does, has the same runs. -/
theorem run_map {Richer : Type*} {step : State → Event → Option State}
    {richerStep : Richer → Event → Option Richer} {forget : Richer → State}
    (hstep : ∀ richer event, (richerStep richer event).map forget = step (forget richer) event)
    (richer : Richer) (events : List Event) :
    (run richerStep richer events).map forget = run step (forget richer) events := by
  induction events generalizing richer with
  | nil => rfl
  | cons event events ih =>
      simp only [run, ← hstep]
      cases richerStep richer event with
      | none => rfl
      | some next => exact ih next

/-- A guarded run splits into guarded parts. -/
theorem guarded_append {step : State → Event → Option State}
    {guard : State → Event → Prop} {state middle : State}
    {first second : List Event}
    (hguard : Guarded step guard state (first ++ second))
    (hrun : run step state first = some middle) :
    Guarded step guard state first ∧ Guarded step guard middle second := by
  induction first generalizing state with
  | nil =>
      obtain rfl : state = middle := by simpa using hrun
      exact ⟨trivial, hguard⟩
  | cons event events ih =>
      obtain ⟨next, hnext, hrest⟩ := run_cons_eq_some.mp hrun
      refine ⟨⟨hguard.1, fun other hother => ?_⟩, (ih (hguard.2 next hnext) hrest).2⟩
      obtain rfl : next = other := Option.some.inj (hnext.symm.trans hother)
      exact (ih (hguard.2 next hnext) hrest).1

/-- Under an invariant that guarded steps keep, a guard gives what it implies. -/
theorem guarded_of_invariant {step : State → Event → Option State}
    {first second : State → Event → Prop} {invariant : State → Prop}
    (hinvariant : ∀ state event next, invariant state → first state event →
      step state event = some next → invariant next)
    (himp : ∀ state event, invariant state → first state event → second state event)
    {state : State} (hinitial : invariant state) {events : List Event}
    (hguard : Guarded step first state events) : Guarded step second state events := by
  induction events generalizing state with
  | nil => trivial
  | cons event events ih =>
      constructor
      · exact himp state event hinitial hguard.1
      · intro next hnext
        exact ih (hinvariant state event next hinitial hguard.1 hnext) (hguard.2 next hnext)

/-- What holds of all events of a run strengthens its guard. -/
theorem guarded_and_of_forall {step : State → Event → Option State}
    {guard : State → Event → Prop} {allowed : Event → Prop} {state : State}
    {events : List Event} (hallowed : ∀ event ∈ events, allowed event)
    (hguard : Guarded step guard state events) :
    Guarded step (fun state event => allowed event ∧ guard state event) state events := by
  induction events generalizing state with
  | nil => trivial
  | cons event events ih =>
      exact ⟨⟨hallowed event List.mem_cons_self, hguard.1⟩, fun next hnext =>
        ih (fun other hother => hallowed other (List.mem_cons_of_mem _ hother))
          (hguard.2 next hnext)⟩

/-- What holds of the state a run starts in and of every state it reaches. -/
def Throughout (step : State → Event → Option State) (holds : State → Prop) (state : State) :
    List Event → Prop
  | [] => holds state
  | event :: events =>
      holds state ∧ ∀ next, step state event = some next → Throughout step holds next events

theorem holds_of_throughout {step : State → Event → Option State} {holds : State → Prop}
    {state : State} {events : List Event} (hthroughout : Throughout step holds state events) :
    holds state := by
  cases events with
  | nil => exact hthroughout
  | cons _ _ => exact hthroughout.1

theorem holds_of_run {step : State → Event → Option State} {holds : State → Prop}
    {state final : State} {events : List Event} (hthroughout : Throughout step holds state events)
    (hrun : run step state events = some final) : holds final := by
  induction events generalizing state with
  | nil =>
      obtain rfl : state = final := by simpa using hrun
      exact hthroughout
  | cons event events ih =>
      obtain ⟨next, hnext, hrest⟩ := run_cons_eq_some.mp hrun
      exact ih (hthroughout.2 next hnext) hrest

/-- A guard that decides for every step whether the property survives it decides
for every run whether the property holds throughout. -/
theorem throughout_iff_guarded {step : State → Event → Option State}
    {guard : State → Event → Prop} {holds invariant : State → Prop}
    (hinvariant : ∀ state event next, invariant state → step state event = some next →
      invariant next)
    (hdecides : ∀ state event next, invariant state → holds state →
      step state event = some next → (holds next ↔ guard state event))
    (hdisabled : ∀ state event, step state event = none → guard state event)
    {state : State} (hinitial : invariant state) (hholds : holds state) (events : List Event) :
    Throughout step holds state events ↔ Guarded step guard state events := by
  induction events generalizing state with
  | nil => exact iff_of_true hholds trivial
  | cons event events ih =>
      cases hstep : step state event with
      | none => simp [Throughout, Guarded, hstep, hholds, hdisabled state event hstep]
      | some next =>
          have hnext := hinvariant state event next hinitial hstep
          have hguard := hdecides state event next hinitial hholds hstep
          simp only [Throughout, Guarded, hstep, Option.some.injEq, forall_eq', hholds, true_and]
          constructor
          · intro hrest
            have hafter := holds_of_throughout hrest
            exact ⟨hguard.mp hafter, (ih hnext hafter).mp hrest⟩
          · intro ⟨hhere, hrest⟩
            exact (ih hnext (hguard.mpr hhere)).mpr hrest

/-- With a decidable guard the condition on a concrete run can be evaluated. -/
def checkGuarded (step : State → Event → Option State)
    (guard : State → Event → Bool) (state : State) : List Event → Bool
  | [] => true
  | event :: events =>
      guard state event &&
        match step state event with
        | none => true
        | some next => checkGuarded step guard next events

theorem guarded_of_checkGuarded {step : State → Event → Option State}
    {guard : State → Event → Prop} {check : State → Event → Bool}
    (hcheck : ∀ state event, check state event = true → guard state event)
    {state : State} {events : List Event}
    (h : checkGuarded step check state events = true) :
    Guarded step guard state events := by
  induction events generalizing state with
  | nil => trivial
  | cons event events ih =>
      simp only [checkGuarded, Bool.and_eq_true] at h
      refine ⟨hcheck state event h.1, fun next hnext => ih ?_⟩
      simpa [hnext] using h.2

end ShoppingWeb.TransitionSystem
