import Mathlib.Logic.Basic

/-!
# Pairs of runs

Two runs of one system, seen by one observer.  Events the observer has no part
in may occur in one run only; the others are matched.  If such events keep a
similarity of states, and matched events keep it and look alike, then the
observer cannot tell the runs apart.
-/

namespace ShoppingWeb.PairedRuns

variable {State Event Output View : Type*}

/-- Every event of a run satisfies `holds` in the state it meets. -/
def EveryStep (respond : State → Event → Output × State) (holds : State → Event → Prop)
    (state : State) : List Event → Prop
  | [] => True
  | event :: events =>
      holds state event ∧ EveryStep respond holds (respond state event).2 events

/-- What an observer sees of a run, in order. -/
def observed (respond : State → Event → Output × State) (view : Event → Output → Option View)
    (state : State) : List Event → List View
  | [] => []
  | event :: events =>
      (view event (respond state event).1).toList ++
        observed respond view (respond state event).2 events

theorem observed_cons_unseen {respond : State → Event → Output × State}
    {view : Event → Output → Option View} {state : State} {event : Event}
    (hunseen : view event (respond state event).1 = none) (events : List Event) :
    observed respond view state (event :: events) =
      observed respond view (respond state event).2 events := by
  rw [observed, hunseen]
  rfl

/-- Two runs, aligned along their matched events. -/
inductive Paired (respond : State → Event → Output × State) (skips : State → Event → Prop)
    (matched : State → State → Event → Event → Prop) :
    State → List Event → State → List Event → Prop
  | nil {left right : State} : Paired respond skips matched left [] right []
  | skipLeft {left right : State} {event : Event} {events others : List Event}
      (hskips : skips left event)
      (hrest : Paired respond skips matched (respond left event).2 events right others) :
      Paired respond skips matched left (event :: events) right others
  | skipRight {left right : State} {event : Event} {events others : List Event}
      (hskips : skips right event)
      (hrest : Paired respond skips matched left events (respond right event).2 others) :
      Paired respond skips matched left events right (event :: others)
  | both {left right : State} {event other : Event} {events others : List Event}
      (hmatched : matched left right event other)
      (hrest : Paired respond skips matched (respond left event).2 events
        (respond right other).2 others) :
      Paired respond skips matched left (event :: events) right (other :: others)

/-- What has to be shown of single events. -/
structure Unwinding (respond : State → Event → Output × State) (skips : State → Event → Prop)
    (matched : State → State → Event → Event → Prop) (view : Event → Output → Option View)
    (similar : State → State → Prop) : Prop where
  skip_left : ∀ {left right event}, similar left right → skips left event →
    similar (respond left event).2 right
  skip_right : ∀ {left right event}, similar left right → skips right event →
    similar left (respond right event).2
  skip_unseen : ∀ {state event}, skips state event → view event (respond state event).1 = none
  both_similar : ∀ {left right event other}, similar left right →
    matched left right event other → similar (respond left event).2 (respond right other).2
  both_alike : ∀ {left right event other}, similar left right →
    matched left right event other →
    view event (respond left event).1 = view other (respond right other).1

section Runs

variable {respond : State → Event → Output × State} {skips : State → Event → Prop}
  {matched : State → State → Event → Event → Prop} {view : Event → Output → Option View}
  {similar : State → State → Prop} {left right : State} {events others : List Event}

/-- The observer sees the same in both runs. -/
theorem observed_eq (hunwinding : Unwinding respond skips matched view similar)
    (hpaired : Paired respond skips matched left events right others)
    (hsimilar : similar left right) :
    observed respond view left events = observed respond view right others := by
  induction hpaired with
  | nil => rfl
  | skipLeft hskips _ ih =>
      rw [observed_cons_unseen (hunwinding.skip_unseen hskips)]
      exact ih (hunwinding.skip_left hsimilar hskips)
  | skipRight hskips _ ih =>
      rw [observed_cons_unseen (hunwinding.skip_unseen hskips)]
      exact ih (hunwinding.skip_right hsimilar hskips)
  | both hmatched _ ih =>
      rw [observed, observed, hunwinding.both_alike hsimilar hmatched,
        ih (hunwinding.both_similar hsimilar hmatched)]

/-- What holds of every skipped and every matched event holds along both runs. -/
theorem everyStep_of_paired {holds : State → Event → Prop}
    (hunwinding : Unwinding respond skips matched view similar)
    (hskip : ∀ {state event}, skips state event → holds state event)
    (hboth : ∀ {left right event other}, similar left right → matched left right event other →
      holds left event ∧ holds right other)
    (hpaired : Paired respond skips matched left events right others)
    (hsimilar : similar left right) :
    EveryStep respond holds left events ∧ EveryStep respond holds right others := by
  induction hpaired with
  | nil => exact ⟨trivial, trivial⟩
  | skipLeft hskips _ ih =>
      obtain ⟨hleft, hright⟩ := ih (hunwinding.skip_left hsimilar hskips)
      exact ⟨⟨hskip hskips, hleft⟩, hright⟩
  | skipRight hskips _ ih =>
      obtain ⟨hleft, hright⟩ := ih (hunwinding.skip_right hsimilar hskips)
      exact ⟨hleft, hskip hskips, hright⟩
  | both hmatched _ ih =>
      obtain ⟨hleft, hright⟩ := ih (hunwinding.both_similar hsimilar hmatched)
      obtain ⟨hevent, hother⟩ := hboth hsimilar hmatched
      exact ⟨⟨hevent, hleft⟩, hother, hright⟩

end Runs

end ShoppingWeb.PairedRuns
