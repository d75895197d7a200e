import ShoppingWeb.Lib.Program

/-!
# Two executions of a program

Relational rules: from related states, two programs end in related states with
the same outcome.  Values may differ as far as a relation allows; errors agree.
-/

namespace ShoppingWeb.Program

variable {State Error Value Result Value' Result' : Type}

/-- Both executions return, with related values, or throw the same error. -/
def SameOutcome (same : Value → Value' → Prop) :
    Except Error Value → Except Error Value' → Prop
  | .ok value, .ok value' => same value value'
  | .error error, .error error' => error = error'
  | _, _ => False

/-- From related states the programs agree on the outcome and keep the
relation, however they end. -/
def Agree (related : State → State → Prop) (same : Value → Value' → Prop)
    (left : Program State Error Value) (right : Program State Error Value') : Prop :=
  ∀ first second, related first second →
    SameOutcome same (exec left first).1 (exec right second).1 ∧
      related (exec left first).2 (exec right second).2

section Rules

variable {related : State → State → Prop} {same : Value → Value' → Prop}
  {sameResult : Result → Result' → Prop}

theorem agree_pure {value : Value} {value' : Value'} (hsame : same value value') :
    Agree related same (pure value : Program State Error Value) (pure value') :=
  fun _ _ hrelated => ⟨hsame, hrelated⟩

theorem agree_throw (error : Error) :
    Agree related same (throw error : Program State Error Value) (throw error) :=
  fun _ _ hrelated => ⟨rfl, hrelated⟩

theorem agree_modify {change change' : State → State}
    (hchange : ∀ first second, related first second →
      related (change first) (change' second)) :
    Agree related (fun _ _ => True) (modify change : Program State Error PUnit)
      (modify change') :=
  fun first second hrelated => ⟨trivial, hchange first second hrelated⟩

theorem agree_bind {left : Program State Error Value} {right : Program State Error Value'}
    {next : Value → Program State Error Result} {next' : Value' → Program State Error Result'}
    (hfirst : Agree related same left right)
    (hnext : ∀ value value', same value value' →
      Agree related sameResult (next value) (next' value')) :
    Agree related sameResult (left >>= next) (right >>= next') := by
  intro first second hrelated
  obtain ⟨houtcome, hmiddle⟩ := hfirst first second hrelated
  rw [exec_bind, exec_bind]
  cases hleft : exec left first with
  | mk outcome middle =>
      cases hright : exec right second with
      | mk outcome' middle' =>
          rw [hleft, hright] at houtcome hmiddle
          cases outcome with
          | ok value =>
              cases outcome' with
              | ok value' => exact hnext value value' houtcome middle middle' hmiddle
              | error error => exact houtcome.elim
          | error error =>
              cases outcome' with
              | ok value' => exact houtcome.elim
              | error error' => exact ⟨houtcome, hmiddle⟩

/-- What follows a `get` may depend on the states, which are related. -/
theorem agree_get_bind {next next' : State → Program State Error Value}
    {same : Value → Value → Prop}
    (hnext : ∀ first second, related first second →
      SameOutcome same (exec (next first) first).1 (exec (next' second) second).1 ∧
        related (exec (next first) first).2 (exec (next' second) second).2) :
    Agree related same (get >>= next) (get >>= next') :=
  fun first second hrelated => hnext first second hrelated

theorem agree_each {Item : Type} {body body' : Item → Program State Error PUnit}
    (hbody : ∀ item, Agree related (fun _ _ => True) (body item) (body' item))
    (items : List Item) :
    Agree related (fun _ _ => True) (each body items) (each body' items) := by
  induction items with
  | nil => exact agree_pure trivial
  | cons item items ih => exact agree_bind (hbody item) fun _ _ _ => ih

theorem agree_remote {left : Program State Error Value} {right : Program State Error Value'}
    (hagree : Agree related same left right) (delivery : Delivery) (error : Error) :
    Agree related same (remote delivery error left) (remote delivery error right) := by
  cases delivery with
  | success => exact hagree
  | failsBefore => exact agree_throw error
  | replyLost => exact agree_bind hagree fun _ _ _ => agree_throw error

/-- Restoring the database must keep the relation as well. -/
theorem agree_transactional {left : Program State Error Value}
    {right : Program State Error Value'} {restore : State → State → State}
    (hagree : Agree related same left right) (commitFailure : Option Error)
    (hrestore : ∀ first second middle middle', related first second →
      related middle middle' → related (restore first middle) (restore second middle')) :
    Agree related same (transactional restore commitFailure left)
      (transactional restore commitFailure right) := by
  intro first second hrelated
  obtain ⟨houtcome, hmiddle⟩ := hagree first second hrelated
  have hrestored := hrestore first second _ _ hrelated hmiddle
  rw [exec_transactional, exec_transactional]
  cases hleft : exec left first with
  | mk outcome middle =>
      cases hright : exec right second with
      | mk outcome' middle' =>
          rw [hleft, hright] at houtcome hmiddle hrestored
          cases outcome with
          | ok value =>
              cases outcome' with
              | ok value' =>
                  cases commitFailure with
                  | none => exact ⟨houtcome, hmiddle⟩
                  | some error => exact ⟨rfl, hrestored⟩
              | error error => exact houtcome.elim
          | error error =>
              cases outcome' with
              | ok value' => exact houtcome.elim
              | error error' => exact ⟨houtcome, hrestored⟩

end Rules

end ShoppingWeb.Program
