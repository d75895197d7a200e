import ShoppingWeb.Lib.ByteText

/-!
# Spellings of a name

Two texts are spellings of one name if they differ in the case of letters and in
characters that are neither letters nor digits.
-/

namespace ShoppingWeb.ByteText

/-- The second text comes from the first by changes of case, insertions and
removals. -/
inductive Respelled (s : ByteString) : ByteString → Prop
  | same : Respelled s s
  | letter (left : ByteString) {right : ByteString} {c d : UInt8} :
      Respelled s (left ++ c :: right) → toUpper c = toUpper d → Respelled s (left ++ d :: right)
  | insertion (left : ByteString) {right : ByteString} {c : UInt8} :
      Respelled s (left ++ right) → isAlnum c = false → Respelled s (left ++ c :: right)
  | removal (left : ByteString) {right : ByteString} {c : UInt8} :
      Respelled s (left ++ c :: right) → isAlnum c = false → Respelled s (left ++ right)

theorem upperAlnum_cons_of_alnum {c : UInt8} (halnum : isAlnum c = true) (s : ByteString) :
    upperAlnum (c :: s) = toUpper c :: upperAlnum s := by
  simp [upperAlnum, halnum]

theorem upperAlnum_cons_of_not_alnum {c : UInt8} (hother : isAlnum c = false) (s : ByteString) :
    upperAlnum (c :: s) = upperAlnum s := by
  simp [upperAlnum, hother]

theorem upperAlnum_cons_congr {c d : UInt8} (hcase : toUpper c = toUpper d) (s : ByteString) :
    upperAlnum (c :: s) = upperAlnum (d :: s) := by
  have hclass : isAlnum c = isAlnum d := by
    rw [← isAlnum_toUpper c, hcase, isAlnum_toUpper]
  by_cases halnum : isAlnum d = true
  · rw [upperAlnum_cons_of_alnum halnum, upperAlnum_cons_of_alnum (hclass.trans halnum), hcase]
  · have hother : isAlnum d = false := by simpa using halnum
    rw [upperAlnum_cons_of_not_alnum hother, upperAlnum_cons_of_not_alnum (hclass.trans hother)]

namespace Respelled

variable {s t u : ByteString}

theorem upperAlnum_eq (hrespelled : Respelled s t) : upperAlnum t = upperAlnum s := by
  induction hrespelled with
  | same => rfl
  | letter left _ hcase ih =>
      rw [← ih, upperAlnum_append, upperAlnum_append, upperAlnum_cons_congr hcase]
  | insertion left _ hother ih =>
      rw [← ih, upperAlnum_append, upperAlnum_append, upperAlnum_cons_of_not_alnum hother]
  | removal left _ hother ih =>
      rw [← ih, upperAlnum_append, upperAlnum_append, upperAlnum_cons_of_not_alnum hother]

theorem trans (hfirst : Respelled s t) (hsecond : Respelled t u) : Respelled s u := by
  induction hsecond with
  | same => exact hfirst
  | letter left _ hcase ih => exact .letter left ih hcase
  | insertion left _ hother ih => exact .insertion left ih hother
  | removal left _ hother ih => exact .removal left ih hother

theorem cons (hrespelled : Respelled s t) (c : UInt8) : Respelled (c :: s) (c :: t) := by
  induction hrespelled with
  | same => exact .same
  | letter left _ hcase ih => exact .letter (c :: left) ih hcase
  | insertion left _ hother ih => exact .insertion (c :: left) ih hother
  | removal left _ hother ih => exact .removal (c :: left) ih hother

end Respelled

theorem respelled_upperAlnum (s : ByteString) : Respelled s (upperAlnum s) := by
  induction s with
  | nil => exact .same
  | cons c s ih =>
      by_cases halnum : isAlnum c = true
      · rw [upperAlnum_cons_of_alnum halnum]
        exact .letter [] (ih.cons c) (toUpper_toUpper c).symm
      · rw [upperAlnum_cons_of_not_alnum (by simpa using halnum)]
        exact .removal [] (ih.cons c) (by simpa using halnum)

theorem upperAlnum_respelled (s : ByteString) : Respelled (upperAlnum s) s := by
  induction s with
  | nil => exact .same
  | cons c s ih =>
      by_cases halnum : isAlnum c = true
      · rw [upperAlnum_cons_of_alnum halnum]
        exact .letter [] (ih.cons (toUpper c)) (toUpper_toUpper c)
      · rw [upperAlnum_cons_of_not_alnum (by simpa using halnum)]
        exact .insertion [] ih (by simpa using halnum)

/-- The letters and digits in upper case decide what a text spells. -/
theorem respelled_iff {s t : ByteString} : Respelled s t ↔ upperAlnum t = upperAlnum s := by
  constructor
  · exact Respelled.upperAlnum_eq
  · intro hupper
    have hback := upperAlnum_respelled t
    rw [hupper] at hback
    exact (respelled_upperAlnum s).trans hback

end ShoppingWeb.ByteText
