import Mathlib.Data.List.Basic
import ShoppingWeb.Lib.Utf16

/-!
# Percent-decoded path segments

A raw path is cut at its slashes and each segment is decoded on its own.  A
path without a percent sign is its own decoding.
-/

namespace ShoppingWeb.PercentDecoding

open ShoppingWeb.Utf16

def hexValue? (unit : CodeUnit) : Option ℕ :=
  if 48 ≤ unit.toNat ∧ unit.toNat < 58 then some (unit.toNat - 48)
  else if 65 ≤ unit.toNat ∧ unit.toNat < 71 then some (unit.toNat - 55)
  else if 97 ≤ unit.toNat ∧ unit.toNat < 103 then some (unit.toNat - 87)
  else none

/-- The bytes of an escaped text; `none` for a percent sign without two
hexadecimal digits. -/
def unescape : JString → Option (List UInt8)
  | [] => some []
  | [unit] => if unit = 37 then none else some [unit.toUInt8]
  | [unit, next] =>
      if unit = 37 ∨ next = 37 then none else some [unit.toUInt8, next.toUInt8]
  | unit :: high :: low :: rest =>
      if unit = 37 then do
        let highValue ← hexValue? high
        let lowValue ← hexValue? low
        let bytes ← unescape rest
        return UInt8.ofNat (16 * highValue + lowValue) :: bytes
      else (unescape (high :: low :: rest)).map (unit.toUInt8 :: ·)

def decodeSegment (segment : JString) : Option JString :=
  if 37 ∈ segment then (unescape segment).map newString else some segment

/-- The decoded segments of a raw path, or `none` when an escape is malformed. -/
def decodePath (path : JString) : Option (List JString) :=
  (path.splitOn 47).mapM decodeSegment

private theorem mapM_decodeSegment_of_not_mem {segments : List JString}
    (hsegments : ∀ segment ∈ segments, (37 : CodeUnit) ∉ segment) :
    segments.mapM decodeSegment = some segments := by
  induction segments with
  | nil => rfl
  | cons segment segments ih =>
      have hsegment := hsegments segment List.mem_cons_self
      rw [List.mapM_cons, ih fun other hother => hsegments other (List.mem_cons_of_mem _ hother)]
      simp [decodeSegment, hsegment]

private theorem mem_intercalate {separator segment : JString} {segments : List JString}
    (hsegment : segment ∈ segments) {unit : CodeUnit} (hunit : unit ∈ segment) :
    unit ∈ separator.intercalate segments := by
  induction segments with
  | nil => exact absurd hsegment List.not_mem_nil
  | cons first rest ih =>
      rcases rest.eq_nil_or_concat with rfl | ⟨_, _, hrest⟩
      · rw [List.mem_singleton.mp hsegment] at hunit
        simpa using hunit
      · have hne : rest ≠ [] := by simp [hrest]
        rw [List.intercalate_cons_of_ne_nil hne, List.mem_append, List.mem_append]
        rcases List.mem_cons.mp hsegment with rfl | hmem
        · exact Or.inl (Or.inl hunit)
        · exact Or.inr (ih hmem)

/-- Without a percent sign, decoding only cuts the path at its slashes. -/
theorem decodePath_of_not_mem {path : JString} (hpath : (37 : CodeUnit) ∉ path) :
    decodePath path = some (path.splitOn 47) := by
  refine mapM_decodeSegment_of_not_mem fun segment hsegment hmem => hpath ?_
  have hjoined : 37 ∈ [47].intercalate (path.splitOn 47) := mem_intercalate hsegment hmem
  rwa [List.intercalate_splitOn] at hjoined

/-- The first segments of a path spell its beginning. -/
theorem intercalate_prefix {separator : JString} {first segments : List JString}
    (hfirst : first <+: segments) :
    separator.intercalate first <+: separator.intercalate segments := by
  induction first generalizing segments with
  | nil => exact List.nil_prefix
  | cons segment first ih =>
      obtain ⟨rest, rfl⟩ := hfirst
      by_cases hlast : first = []
      · rw [hlast]
        cases rest with
        | nil => exact List.prefix_refl _
        | cons next rest => simp [List.intercalate_cons_of_ne_nil]
      · rw [List.cons_append, List.intercalate_cons_of_ne_nil hlast,
          List.intercalate_cons_of_ne_nil (List.append_ne_nil_of_left_ne_nil hlast rest)]
        exact (List.prefix_append_right_inj _).mpr (ih (List.prefix_append first rest))

/-- A path without a percent sign is determined by its decoding. -/
theorem eq_intercalate_of_decodePath {path : JString} {segments : List JString}
    (hpath : (37 : CodeUnit) ∉ path) (hdecode : decodePath path = some segments) :
    path = [47].intercalate segments := by
  rw [decodePath_of_not_mem hpath] at hdecode
  rw [← Option.some.inj hdecode, List.intercalate_splitOn]

example : decodePath (js "/api/%70ayments") = some [[], js "api", js "payments"] := by
  decide

end ShoppingWeb.PercentDecoding
