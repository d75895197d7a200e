import Mathlib.Logic.Basic

/-!
# What a computation throws

`Throws allowed computed`: an exception of the computation is one of the allowed
ones.  One rule for each way to put computations together.
-/

namespace ShoppingWeb.Thrown

variable {Error Value Result : Type} {allowed : Error → Prop}

def Throws (allowed : Error → Prop) (computed : Except Error Value) : Prop :=
  ∀ error, computed = .error error → allowed error

theorem throws_ok (value : Value) : Throws allowed (.ok value : Except Error Value) := by
  intro error herror
  cases herror

theorem throws_error {error : Error} (hallowed : allowed error) :
    Throws allowed (.error error : Except Error Value) := by
  intro other hother
  obtain rfl := Except.error.inj hother
  exact hallowed

theorem throws_bind {computed : Except Error Value} {next : Value → Except Error Result}
    (hcomputed : Throws allowed computed)
    (hnext : ∀ value, computed = .ok value → Throws allowed (next value)) :
    Throws allowed (computed >>= next) := by
  cases computed with
  | error error => exact throws_error (hcomputed error rfl)
  | ok value => exact hnext value rfl

theorem throws_ite {condition : Prop} [Decidable condition] {first second : Except Error Value}
    (hfirst : condition → Throws allowed first)
    (hsecond : ¬ condition → Throws allowed second) :
    Throws allowed (if condition then first else second) := by
  split
  · rename_i hcondition
    exact hfirst hcondition
  · rename_i hcondition
    exact hsecond hcondition

end ShoppingWeb.Thrown
