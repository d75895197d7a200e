import Mathlib.Data.List.Basic

/-!
# Ordered access rules

A list of rules of which the first one about a request decides who is admitted.
-/

namespace ShoppingWeb.AccessRules

variable {Request Caller : Type*}

structure AccessRule (Request Caller : Type*) where
  covers : Request → Bool
  admits : Caller → Bool

/-- Without a rule about the request nobody is admitted. -/
def admitted : List (AccessRule Request Caller) → Request → Caller → Bool
  | [], _, _ => false
  | rule :: rules, request, caller =>
      if rule.covers request then rule.admits caller else admitted rules request caller

variable {rule : AccessRule Request Caller} {rules : List (AccessRule Request Caller)}
  {request : Request} {caller : Caller}

theorem admitted_of_covers (hcovers : rule.covers request = true) :
    admitted (rule :: rules) request caller = rule.admits caller := if_pos hcovers

theorem admitted_of_not_covers (hcovers : rule.covers request = false) :
    admitted (rule :: rules) request caller = admitted rules request caller := by
  rw [admitted, hcovers]
  rfl

end ShoppingWeb.AccessRules
