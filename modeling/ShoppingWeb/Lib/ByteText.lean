import Mathlib.Data.List.Infix
import Mathlib.Data.List.Basic

/-!
# Byte strings

Strings of bytes with the character classes of the C locale.  Dropping
everything but letters and digits, in upper case, is a projection, and it
keeps text that is upper case already.
-/

namespace ShoppingWeb.ByteText

/-- A `std::string`. -/
abbrev ByteString := List UInt8

/-- The bytes of an ASCII literal. -/
def ascii (text : String) : ByteString :=
  text.toList.map fun unit => UInt8.ofNat unit.toNat

/-- A literal by its characters. -/
theorem ascii_ofList (text : List Char) :
    ascii (String.ofList text) = text.map fun unit => UInt8.ofNat unit.toNat := by
  simp [ascii]

def isDigit (c : UInt8) : Bool := 0x30 ≤ c && c ≤ 0x39

def isUpper (c : UInt8) : Bool := 0x41 ≤ c && c ≤ 0x5A

def isLower (c : UInt8) : Bool := 0x61 ≤ c && c ≤ 0x7A

def isAlnum (c : UInt8) : Bool := isDigit c || isUpper c || isLower c

def toUpper (c : UInt8) : UInt8 := if isLower c then c - 0x20 else c

def isXdigit (c : UInt8) : Bool :=
  isDigit c || (0x41 ≤ c && c ≤ 0x46) || (0x61 ≤ c && c ≤ 0x66)

def isSpace (c : UInt8) : Bool := c == 0x20 || (0x09 ≤ c && c ≤ 0x0D)

/-- A test that all 256 bytes pass. -/
theorem forall_byte {test : UInt8 → Bool}
    (hall : ((List.range 256).all fun value => test (UInt8.ofNat value)) = true) (c : UInt8) :
    test c = true := by
  have hvalue := List.all_eq_true.mp hall c.toNat (List.mem_range.mpr c.toNat_lt)
  rwa [UInt8.ofNat_toNat] at hvalue

theorem isAlnum_toUpper (c : UInt8) : isAlnum (toUpper c) = isAlnum c := by
  apply eq_of_beq
  revert c
  exact forall_byte (by decide +kernel)

theorem toUpper_toUpper (c : UInt8) : toUpper (toUpper c) = toUpper c := by
  apply eq_of_beq
  revert c
  exact forall_byte (by decide +kernel)

/-- A test of the characters of a text, one after another. -/
theorem forall_mem_of_all {text : ByteString} {test : UInt8 → Prop} [DecidablePred test]
    (hall : (text.all fun c => test c) = true) : ∀ c ∈ text, test c := by
  intro c hc
  exact of_decide_eq_true (List.all_eq_true.mp hall c hc)

/-- `find(pattern) != npos` -/
def contains (text pattern : ByteString) : Bool := decide (pattern <:+: text)

theorem contains_eq_true {text pattern : ByteString} :
    contains text pattern = true ↔ pattern <:+: text :=
  decide_eq_true_iff

theorem contains_eq_false {text pattern : ByteString} :
    contains text pattern = false ↔ ¬ pattern <:+: text :=
  decide_eq_false_iff_not

/-- A pattern is not in a text that lacks one of its characters. -/
theorem contains_eq_false_of_not_mem {text pattern : ByteString} {c : UInt8}
    (hpattern : c ∈ pattern) (htext : c ∉ text) : contains text pattern = false := by
  apply contains_eq_false.mpr
  intro hfound
  exact htext (hfound.subset hpattern)

/-- A pattern without the separator is on one side of it. -/
theorem infix_append_cons {left right pattern : ByteString} {separator : UInt8}
    (hpattern : separator ∉ pattern) :
    pattern <:+: left ++ separator :: right ↔ pattern <:+: left ∨ pattern <:+: right := by
  constructor
  · intro hfound
    rcases List.infix_append_iff_ne_nil.mp hfound with hleft | hright | hacross
    · exact .inl hleft
    · rcases List.infix_cons_iff.mp hright with hstart | hright
      · rcases List.prefix_cons_iff.mp hstart with rfl | ⟨rest, rfl, -⟩
        · exact .inl List.nil_infix
        · exact absurd (List.mem_cons_self ..) hpattern
      · exact .inr hright
    · obtain ⟨first, second, -, hsecond, rfl, -, hstart⟩ := hacross
      rcases List.prefix_cons_iff.mp hstart with rfl | ⟨rest, rfl, -⟩
      · exact absurd rfl hsecond
      · exact absurd (List.mem_append_right _ (List.mem_cons_self ..)) hpattern
  · rintro (hleft | hright)
    · exact hleft.trans (List.prefix_append _ _).isInfix
    · exact hright.trans (((List.suffix_cons _ _).trans (List.suffix_append _ _)).isInfix)

/-- A first character with which the pattern does not start can be dropped. -/
theorem infix_cons_of_head {text pattern : ByteString} {c : UInt8}
    (hpattern : pattern.head? ≠ some c) : pattern <:+: c :: text ↔ pattern <:+: text := by
  constructor
  · intro hfound
    rcases List.infix_cons_iff.mp hfound with hstart | htext
    · rcases List.prefix_cons_iff.mp hstart with rfl | ⟨rest, rfl, -⟩
      · exact List.nil_infix
      · exact absurd rfl hpattern
    · exact htext
  · intro htext
    exact htext.trans (List.suffix_cons _ _).isInfix

/-- A pattern is not found in a part with which it shares no character. -/
theorem infix_append_of_disjoint {left right pattern : ByteString}
    (hleft : ∀ c ∈ pattern, c ∉ left) : pattern <:+: left ++ right ↔ pattern <:+: right := by
  induction left with
  | nil => rfl
  | cons c left ih =>
      have hhead : pattern.head? ≠ some c := by
        intro hhead
        exact hleft c (List.mem_of_head? hhead) (List.mem_cons_self ..)
      rw [List.cons_append, infix_cons_of_head hhead]
      exact ih fun other hother hmem => hleft other hother (List.mem_cons_of_mem _ hmem)

def upperAlnum (text : ByteString) : ByteString :=
  (text.filter isAlnum).map toUpper

theorem upperAlnum_append (left right : ByteString) :
    upperAlnum (left ++ right) = upperAlnum left ++ upperAlnum right := by
  simp [upperAlnum]

/-- The result of the normalisation is normal, and so are its suffixes. -/
theorem upperAlnum_of_suffix {text suffix : ByteString} (hsuffix : suffix <:+ upperAlnum text) :
    upperAlnum suffix = suffix := by
  have hnormal : ∀ c ∈ suffix, isAlnum c = true ∧ toUpper c = c := by
    intro c hmem
    obtain ⟨source, hsource, rfl⟩ := List.mem_map.mp (hsuffix.subset hmem)
    rw [isAlnum_toUpper, toUpper_toUpper]
    exact ⟨(List.mem_filter.mp hsource).2, rfl⟩
  rw [upperAlnum, List.filter_eq_self.mpr fun c hmem => (hnormal c hmem).1]
  calc
    suffix.map toUpper = suffix.map id := List.map_congr_left fun c hmem => (hnormal c hmem).2
    _ = suffix := List.map_id _

end ShoppingWeb.ByteText
