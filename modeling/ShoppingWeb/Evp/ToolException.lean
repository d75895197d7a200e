import ShoppingWeb.Lib.ByteText
import ShoppingWeb.Lib.Program
import ShoppingWeb.Shared.TransactionContext

/-!
# Exceptions of the OpenSSL tools

The AES and the hash tool throw `std::invalid_argument` for what they reject
themselves, and `OpenSSLError` for a call that did not return 1.
-/

namespace ShoppingWeb.Evp

open ShoppingWeb.ByteText

inductive ToolException where
  | invalidArgument (message : ByteString)
  | openSslError (message : ByteString)
  deriving DecidableEq, Repr

/-- The errors in OpenSSL's queue, as `openssl_error_stack` prints them. -/
abbrev ErrorStack := ByteString

def openSslErrorOf (context : ByteString) (stack : ErrorStack) : ToolException :=
  .openSslError (if stack.isEmpty then context else context ++ ascii ": " ++ stack)

section Checks

variable {Value : Type}

/-- `check_1`: an OpenSSL call that fails is an `OpenSSLError`. -/
def check1 (context : ByteString) : Except ErrorStack Value → Except ToolException Value
  | .ok value => .ok value
  | .error stack => .error (openSslErrorOf context stack)

/-- `if (condition) throw std::invalid_argument(message);` -/
def rejectWhen (condition : Prop) [Decidable condition] (message : ByteString) :
    Except ToolException Unit :=
  if condition then .error (.invalidArgument message) else .ok ⟨⟩

def INT_MAX : ℕ := 2 ^ 31 - 1

/-- `checked_int_size`: every call takes lengths as `int`. -/
def checkedIntSize (size : ℕ) (label : ByteString) : Except ToolException ℕ :=
  if INT_MAX < size then
    .error (.invalidArgument (label ++ ascii " is too large for one EVP call"))
  else .ok size

@[simp]
theorem check1_eq_ok {context : ByteString} {outcome : Except ErrorStack Value} {value : Value} :
    check1 context outcome = .ok value ↔ outcome = .ok value := by
  cases outcome with
  | error stack => simp [check1]
  | ok result => simp [check1]

@[simp]
theorem rejectWhen_eq_ok {condition : Prop} [Decidable condition] {message : ByteString}
    {done : Unit} : rejectWhen condition message = .ok done ↔ ¬ condition := by
  rw [rejectWhen]
  split
  · rename_i hcondition
    simp [hcondition]
  · rename_i hcondition
    simp [hcondition]

@[simp]
theorem checkedIntSize_eq_ok {size result : ℕ} {label : ByteString} :
    checkedIntSize size label = .ok result ↔ size ≤ INT_MAX ∧ size = result := by
  rw [checkedIntSize]
  split
  · rename_i hlarge
    simp [hlarge]
  · rename_i hfits
    simp [Nat.le_of_not_lt hfits]

end Checks

end ShoppingWeb.Evp
