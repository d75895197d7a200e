import Mathlib.Data.List.Basic

/-!
# Delimited fields

Two fields joined by a separator can be taken apart again when the separator
does not occur in one of them.  Without a separator a joined text determines
its fields only together with their lengths.
-/

namespace ShoppingWeb.Delimited

variable {A : Type*} [DecidableEq A]

/-- Cut at the first separator; everything is in the first part when there is
none. -/
def cutAt (separator : A) : List A → List A × List A
  | [] => ([], [])
  | head :: tail =>
      if head = separator then ([], tail)
      else (head :: (cutAt separator tail).1, (cutAt separator tail).2)

theorem cutAt_of_not_mem {separator : A} {text : List A} (htext : separator ∉ text) :
    cutAt separator text = (text, []) := by
  induction text with
  | nil => rfl
  | cons head tail ih =>
      have hhead : head ≠ separator := fun heq => htext (heq ▸ List.mem_cons_self)
      simp [cutAt, hhead, ih fun hmem => htext (List.mem_cons_of_mem _ hmem)]

theorem cutAt_append {separator : A} {left : List A} (hleft : separator ∉ left)
    (right : List A) : cutAt separator (left ++ separator :: right) = (left, right) := by
  induction left with
  | nil => simp [cutAt]
  | cons head tail ih =>
      have hhead : head ≠ separator := fun heq => hleft (heq ▸ List.mem_cons_self)
      simp [cutAt, hhead, ih fun hmem => hleft (List.mem_cons_of_mem _ hmem)]

/-- A first field without the separator is determined, and so is the rest. -/
theorem join_injective_of_left {separator : A} {left left' right right' : List A}
    (hleft : separator ∉ left) (hleft' : separator ∉ left')
    (heq : left ++ separator :: right = left' ++ separator :: right') :
    left = left' ∧ right = right' := by
  have hcut := congrArg (cutAt separator) heq
  rw [cutAt_append hleft, cutAt_append hleft'] at hcut
  exact Prod.mk.injEq .. ▸ hcut

/-- A last field without the separator is determined, and so is what precedes
it. -/
theorem join_injective_of_right {separator : A} {left left' right right' : List A}
    (hright : separator ∉ right) (hright' : separator ∉ right')
    (heq : left ++ separator :: right = left' ++ separator :: right') :
    left = left' ∧ right = right' := by
  have hreverse := congrArg List.reverse heq
  simp only [List.reverse_append, List.reverse_cons, List.append_assoc,
    List.singleton_append] at hreverse
  have hfields := join_injective_of_left (by simpa using hright) (by simpa using hright') hreverse
  exact ⟨List.reverse_injective hfields.2, List.reverse_injective hfields.1⟩

omit [DecidableEq A] in
/-- Three joined fields without separators are determined by the lengths of
the outer two. -/
theorem append_three_injective {first first' middle middle' last last' : List A}
    (hfirst : first.length = first'.length) (hlast : last.length = last'.length)
    (heq : first ++ middle ++ last = first' ++ middle' ++ last') :
    first = first' ∧ middle = middle' ∧ last = last' := by
  obtain ⟨hinitial, hsuffix⟩ := List.append_inj' heq hlast
  obtain ⟨houter, hinner⟩ := List.append_inj hinitial hfirst
  exact ⟨houter, hinner, hsuffix⟩

end ShoppingWeb.Delimited
