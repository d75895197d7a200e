import ShoppingWeb.Evp.HexRenderings
import ShoppingWeb.Lib.Utf16
import Mathlib.Data.List.DropRight

/-!
# The hex parser of the GUI

`hex_to_bytes_py` removes the markers and then everything that is no digit, so
it never finds an invalid character.  The tool reads the UTF-8 bytes of the same
text and rejects what is neither a digit nor a separator.
-/

namespace ShoppingWeb.Evp.AesGui

open ShoppingWeb.ByteText
open ShoppingWeb.HexText
open ShoppingWeb.Utf16
open ShoppingWeb.Shared
open ShoppingWeb.Program

/-- `str.isspace` -/
def isSpacePy (c : Char) : Bool :=
  (0x09 ≤ c.toNat && c.toNat ≤ 0x0D) || (0x1C ≤ c.toNat && c.toNat ≤ 0x20) ||
    (0x2000 ≤ c.toNat && c.toNat ≤ 0x200A) ||
    [0x85, 0xA0, 0x1680, 0x2028, 0x2029, 0x202F, 0x205F, 0x3000].contains c.toNat

def strip (s : List Char) : List Char := (s.dropWhile isSpacePy).rdropWhile isSpacePy

/-- `re.sub(r"0x", "", s, flags=re.IGNORECASE)` -/
def withoutMarkers : List Char → List Char
  | [] => []
  | [c] => [c]
  | c :: next :: s =>
      if c = '0' ∧ (next = 'x' ∨ next = 'X') then withoutMarkers s
      else c :: withoutMarkers (next :: s)

/-- `[0-9a-fA-F]` -/
def isHexDigit (c : Char) : Bool :=
  ('0' ≤ c && c ≤ '9') || ('a' ≤ c && c ≤ 'f') || ('A' ≤ c && c ≤ 'F')

def cleanHex (s : List Char) : List Char := (withoutMarkers (strip s)).filter isHexDigit

def digitValue (c : Char) : Option ℕ :=
  if '0' ≤ c ∧ c ≤ '9' then some (c.toNat - '0'.toNat)
  else if 'a' ≤ c ∧ c ≤ 'f' then some (c.toNat - 'a'.toNat + 10)
  else if 'A' ≤ c ∧ c ≤ 'F' then some (c.toNat - 'A'.toNat + 10)
  else none

def isAsciiSpace (c : Char) : Bool := c = ' ' || (0x09 ≤ c.toNat && c.toNat ≤ 0x0D)

/-- `bytes.fromhex`, which skips ASCII white space between bytes. -/
def fromhex : List Char → Option Bytes
  | [] => some []
  | [c] => if isAsciiSpace c then some [] else none
  | high :: low :: s =>
      if isAsciiSpace high then fromhex (low :: s)
      else do
        let highValue ← digitValue high
        let lowValue ← digitValue low
        let bytes ← fromhex s
        return UInt8.ofNat (highValue * 16 + lowValue) :: bytes

/-- The text of a `ValueError`. -/
abbrev ValueError := String

def hexToBytesPy (s fieldName : String) : Except ValueError Bytes :=
  let s := cleanHex s.toList
  if s = [] then .ok []
  else if s.length % 2 ≠ 0 then
    .error (fieldName ++ " must contain an even number of hex digits")
  else
    match fromhex s with
    | some bytes => .ok bytes
    | none => .error ("Invalid " ++ fieldName)

/-- A test that all ASCII characters pass. -/
theorem forall_ascii {test : Char → Bool}
    (hall : ((List.range 128).all fun value => test (Char.ofNat value)) = true) :
    ∀ c : Char, c.toNat < 128 → test c = true := by
  intro c hascii
  have hvalue := List.all_eq_true.mp hall c.toNat (List.mem_range.mpr hascii)
  rwa [Char.ofNat_toNat] at hvalue

theorem utf8EncodeChar_ascii {c : Char} (hascii : c.toNat < 128) :
    String.utf8EncodeChar c = [UInt8.ofNat c.toNat] :=
  if_pos (Nat.le_of_lt_succ hascii)

/-- Beyond ASCII the first byte is none of the scan's characters. -/
theorem utf8EncodeChar_lead {c : Char} (hother : 128 ≤ c.toNat) :
    ∃ lead rest, String.utf8EncodeChar c = lead :: rest ∧ 128 ≤ lead.toNat := by
  have hlarge : ¬ c.val.toNat ≤ 0x7F := by
    have : c.val.toNat = c.toNat := rfl
    omega
  unfold String.utf8EncodeChar
  simp only [if_neg hlarge]
  split
  · exact ⟨_, _, rfl, by rw [UInt8.toNat_ofNat']; omega⟩
  · split
    · exact ⟨_, _, rfl, by rw [UInt8.toNat_ofNat']; omega⟩
    · exact ⟨_, _, rfl, by rw [UInt8.toNat_ofNat']; omega⟩

/-- The white space of the C locale and three more. -/
def separators : List Char := [' ', '\t', '\n', '\x0B', '\x0C', '\r', ':', '-', '_']

/-- A character that is neither a digit nor a separator. -/
def IsStray (c : Char) : Prop := isHexDigit c = false ∧ c ∉ separators

instance (c : Char) : Decidable (IsStray c) := inferInstanceAs (Decidable (_ ∧ _))

/-- The byte of an ASCII character. -/
def byteOfChar (c : Char) : UInt8 := UInt8.ofNat c.toNat

/-- The tests of the tool on a byte are those of the GUI on its character. -/
theorem byteOfChar_classes (c : Char) (hascii : c.toNat < 128) :
    isXdigit (byteOfChar c) = isHexDigit c ∧
      isHexSeparator (byteOfChar c) = separators.contains c ∧
      isMarkerX (byteOfChar c) = (c == 'x' || c == 'X') ∧
      (byteOfChar c = 0x30 → c = '0') ∧ (isSpacePy c = true → isHexDigit c = false) := by
  apply of_decide_eq_true
  revert c
  exact forall_ascii (by decide)

theorem isXdigit_byteOfChar (c : Char) (hascii : c.toNat < 128) :
    isXdigit (byteOfChar c) = isHexDigit c :=
  (byteOfChar_classes c hascii).1

theorem isHexSeparator_byteOfChar (c : Char) (hascii : c.toNat < 128) :
    isHexSeparator (byteOfChar c) = separators.contains c :=
  (byteOfChar_classes c hascii).2.1

theorem isMarkerX_byteOfChar (c : Char) (hascii : c.toNat < 128) :
    isMarkerX (byteOfChar c) = (c == 'x' || c == 'X') :=
  (byteOfChar_classes c hascii).2.2.1

theorem toNat_lt_of_isHexDigit {c : Char} (hdigit : isHexDigit c = true) : c.toNat < 128 := by
  have hbound : c ≤ 'f' := by
    simp only [isHexDigit, Bool.or_eq_true, Bool.and_eq_true, decide_eq_true_eq] at hdigit
    obtain (⟨_, hle⟩ | ⟨_, hle⟩) | ⟨_, hle⟩ := hdigit
    · exact hle.trans (by decide)
    · exact hle
    · exact hle.trans (by decide)
  exact lt_of_le_of_lt (show c.toNat ≤ 'f'.toNat from hbound) (by decide)

theorem toNat_lt_of_mem_separators {c : Char} (hseparator : c ∈ separators) : c.toNat < 128 := by
  have hall : (separators.all fun c => decide (c.toNat < 128)) = true := by decide
  exact of_decide_eq_true (List.all_eq_true.mp hall c hseparator)

/-- A byte beyond ASCII is neither a digit nor a separator nor part of a marker. -/
theorem lead_classes (lead : UInt8) : 128 ≤ lead.toNat →
    isXdigit lead = false ∧ isHexSeparator lead = false ∧ isMarkerX lead = false := by
  apply of_decide_eq_true
  revert lead
  exact forall_byte (by decide +kernel)

theorem scanHexCharacter_lead {lead : UInt8} (hlead : 128 ≤ lead.toNat)
    (clean : Except ToolException ByteString) :
    scanHexCharacter lead clean =
      .error (.invalidArgument (ascii "Invalid character in hex string")) := by
  obtain ⟨hdigit, hseparator, -⟩ := lead_classes lead hlead
  exact scanHexCharacter_stray hdigit hseparator clean

/-! ## The scan of the encoded text -/

/-- The bytes of a text that does not begin with an x do not either. -/
theorem head_utf8Encode {rest : List Char} {next : UInt8}
    (hx : ∀ c, rest.head? = some c → c ≠ 'x' ∧ c ≠ 'X')
    (hhead : (utf8Encode rest).head? = some next) : isMarkerX next = false := by
  cases rest with
  | nil => cases hhead
  | cons c rest =>
      rw [utf8Encode, List.flatMap_cons] at hhead
      by_cases hascii : c.toNat < 128
      · rw [utf8EncodeChar_ascii hascii] at hhead
        obtain rfl : byteOfChar c = next := Option.some.inj hhead
        have hc := hx c rfl
        simp [isMarkerX_byteOfChar c hascii, hc]
      · obtain ⟨lead, tail, hencoded, hlead⟩ := utf8EncodeChar_lead (Nat.le_of_not_lt hascii)
        rw [hencoded] at hhead
        obtain rfl : lead = next := Option.some.inj hhead
        exact (lead_classes lead hlead).2.2

theorem cleanHex_utf8Encode_cons {c : Char} {rest : List Char}
    (hmarker : c = '0' → ∀ next, rest.head? = some next → next ≠ 'x' ∧ next ≠ 'X') :
    Evp.cleanHex (utf8Encode (c :: rest)) =
      if isHexDigit c then (Evp.cleanHex (utf8Encode rest)).map (byteOfChar c :: ·)
      else if c ∈ separators then Evp.cleanHex (utf8Encode rest)
      else .error (.invalidArgument (ascii "Invalid character in hex string")) := by
  rw [utf8Encode, List.flatMap_cons, ← utf8Encode]
  by_cases hascii : c.toNat < 128
  · rw [utf8EncodeChar_ascii hascii, List.singleton_append, ← byteOfChar, cleanHex_cons]
    · simp only [scanHexCharacter, isXdigit_byteOfChar c hascii,
        isHexSeparator_byteOfChar c hascii, List.contains_iff_mem]
    · intro hzero next hnext
      exact head_utf8Encode (hmarker ((byteOfChar_classes c hascii).2.2.2.1 hzero)) hnext
  · obtain ⟨lead, tail, hencoded, hlead⟩ := utf8EncodeChar_lead (Nat.le_of_not_lt hascii)
    have hdigit : ¬ isHexDigit c = true := fun hdigit => hascii (toNat_lt_of_isHexDigit hdigit)
    have hseparator : c ∉ separators := fun hmem => hascii (toNat_lt_of_mem_separators hmem)
    rw [hencoded, List.cons_append, cleanHex_cons, scanHexCharacter_lead hlead, if_neg hdigit,
      if_neg hseparator]
    rintro rfl
    exact absurd hlead (by decide)

/-- What a scan finds in a text without markers. -/
def scanned (s : List Char) : Except ToolException ByteString :=
  if s.any fun c => IsStray c then
    .error (.invalidArgument (ascii "Invalid character in hex string"))
  else .ok ((s.filter isHexDigit).map byteOfChar)

theorem scanned_stray {s : List Char} (hstray : ∃ c ∈ s, IsStray c) :
    scanned s = .error (.invalidArgument (ascii "Invalid character in hex string")) := by
  rw [scanned, if_pos]
  simpa using hstray

theorem scanned_noStray {s : List Char} (hstray : ¬ ∃ c ∈ s, IsStray c) :
    scanned s = .ok ((s.filter isHexDigit).map byteOfChar) := by
  rw [scanned, if_neg]
  simpa using hstray

theorem scanned_cons (c : Char) (s : List Char) :
    scanned (c :: s) =
      if isHexDigit c then (scanned s).map (byteOfChar c :: ·)
      else if c ∈ separators then scanned s
      else .error (.invalidArgument (ascii "Invalid character in hex string")) := by
  by_cases hrest : ∃ c ∈ s, IsStray c
  · have hall : ∃ other ∈ c :: s, IsStray other := by
      obtain ⟨other, hmem, hstray⟩ := hrest
      exact ⟨other, List.mem_cons_of_mem c hmem, hstray⟩
    rw [scanned_stray hrest, scanned_stray hall]
    split
    · rfl
    · split <;> rfl
  · by_cases hstray : IsStray c
    · have hdigit : ¬ isHexDigit c = true := by simp [hstray.1]
      rw [scanned_stray ⟨c, List.mem_cons_self, hstray⟩, if_neg hdigit, if_neg hstray.2]
    · have hall : ¬ ∃ other ∈ c :: s, IsStray other := by
        rintro ⟨other, hmem, hother⟩
        cases List.mem_cons.mp hmem with
        | inl heq => exact hstray (heq ▸ hother)
        | inr hmem => exact hrest ⟨other, hmem, hother⟩
      rw [scanned_noStray hrest, scanned_noStray hall]
      by_cases hdigit : isHexDigit c = true
      · simp [hdigit, Except.map]
      · have hseparator : c ∈ separators := by
          by_contra hseparator
          exact hstray ⟨by simpa using hdigit, hseparator⟩
        simp [hdigit, hseparator]

/-- The scan of the encoded text finds the digits outside the markers, if nothing
there is stray. -/
theorem cleanHex_utf8Encode (s : List Char) :
    Evp.cleanHex (utf8Encode s) = scanned (withoutMarkers s) := by
  induction s using withoutMarkers.induct with
  | case1 => rfl
  | case2 c =>
      rw [cleanHex_utf8Encode_cons (by simp), withoutMarkers, scanned_cons]
      rfl
  | case3 c next s hmarker ih =>
      rw [withoutMarkers, if_pos hmarker, ← ih]
      obtain ⟨rfl, rfl | rfl⟩ := hmarker
      · exact cleanHex_marker (by decide) (utf8Encode s)
      · exact cleanHex_marker (by decide) (utf8Encode s)
  | case4 c next s hmarker ih =>
      rw [withoutMarkers, if_neg hmarker, scanned_cons, ← ih, cleanHex_utf8Encode_cons]
      intro hzero other hother
      obtain rfl : next = other := Option.some.inj hother
      exact not_or.mp fun hx => hmarker ⟨hzero, hx⟩

theorem withoutMarkers_cons {c : Char} (hzero : c ≠ '0') (s : List Char) :
    withoutMarkers (c :: s) = c :: withoutMarkers s := by
  cases s with
  | nil => rfl
  | cons next s => rw [withoutMarkers, if_neg fun hmarker => hzero hmarker.1]

theorem withoutMarkers_concat {c : Char} (hx : c ≠ 'x' ∧ c ≠ 'X') (s : List Char) :
    withoutMarkers (s ++ [c]) = withoutMarkers s ++ [c] := by
  induction s using withoutMarkers.induct with
  | case1 => rfl
  | case2 first => simp [withoutMarkers, hx]
  | case3 first next s hmarker ih =>
      rw [withoutMarkers, if_pos hmarker, ← ih]
      simp [withoutMarkers, hmarker]
  | case4 first next s hmarker ih =>
      simp only [List.cons_append] at ih ⊢
      rw [withoutMarkers, if_neg hmarker, ih, withoutMarkers, if_neg hmarker, List.cons_append]

/-- White space takes no part in markers and holds no digit. -/
theorem isSpacePy_class {c : Char} (hspace : isSpacePy c = true) :
    c ≠ '0' ∧ (c ≠ 'x' ∧ c ≠ 'X') ∧ isHexDigit c = false := by
  refine ⟨?_, ⟨?_, ?_⟩, ?_⟩
  · rintro rfl
    exact absurd hspace (by decide)
  · rintro rfl
    exact absurd hspace (by decide)
  · rintro rfl
    exact absurd hspace (by decide)
  · by_contra hdigit
    have hascii : c.toNat < 128 := toNat_lt_of_isHexDigit (by simpa using hdigit)
    exact hdigit ((byteOfChar_classes c hascii).2.2.2.2 hspace)

theorem digits_dropWhile (s : List Char) :
    (withoutMarkers (s.dropWhile isSpacePy)).filter isHexDigit =
      (withoutMarkers s).filter isHexDigit := by
  induction s with
  | nil => rfl
  | cons c s ih =>
      by_cases hspace : isSpacePy c = true
      · obtain ⟨hzero, _, hdigit⟩ := isSpacePy_class hspace
        rw [List.dropWhile_cons_of_pos hspace, ih, withoutMarkers_cons hzero,
          List.filter_cons_of_neg (by simp [hdigit])]
      · rw [List.dropWhile_cons_of_neg hspace]

theorem digits_rdropWhile (s : List Char) :
    (withoutMarkers (s.rdropWhile isSpacePy)).filter isHexDigit =
      (withoutMarkers s).filter isHexDigit := by
  induction s using List.reverseRecOn with
  | nil => rfl
  | append_singleton s c ih =>
      by_cases hspace : isSpacePy c = true
      · obtain ⟨_, hx, hdigit⟩ := isSpacePy_class hspace
        rw [List.rdropWhile_concat_pos _ _ _ hspace, ih, withoutMarkers_concat hx,
          List.filter_append, List.filter_singleton, hdigit]
        simp
      · rw [List.rdropWhile_concat_neg _ _ _ hspace]

theorem cleanHex_eq (s : List Char) : cleanHex s = (withoutMarkers s).filter isHexDigit := by
  rw [cleanHex, strip, digits_rdropWhile, digits_dropWhile]

/-! ## Pairs of digits -/

theorem digitValue_eq (c : Char) (hascii : c.toNat < 128) (hdigit : isHexDigit c = true) :
    digitValue c = some (digitOf (byteOfChar c)).value.val ∧ isAsciiSpace c = false := by
  have htest : ∀ c : Char, c.toNat < 128 →
      (!isHexDigit c ||
        digitValue c == some (digitOf (byteOfChar c)).value.val && !isAsciiSpace c) = true :=
    forall_ascii (by decide)
  simpa [hdigit] using htest c hascii

theorem character_digitOf_byteOfChar {c : Char} (hdigit : isHexDigit c = true) :
    (digitOf (byteOfChar c)).character = byteOfChar c :=
  character_digitOf ((isXdigit_byteOfChar c (toNat_lt_of_isHexDigit hdigit)).trans hdigit)

/-- Both parsers pair an even number of digits to the same bytes. -/
theorem fromhex_pairHex : ∀ digits : List Char, (∀ c ∈ digits, isHexDigit c = true) →
    digits.length % 2 = 0 →
    ∃ bytes, fromhex digits = some bytes ∧ pairHex (digits.map byteOfChar) = .ok bytes
  | [], _, _ => ⟨[], rfl, rfl⟩
  | [c], _, heven => absurd heven (by simp)
  | high :: low :: digits, hdigits, heven => by
      have hrest : ∀ c ∈ digits, isHexDigit c = true := by
        intro c hmem
        exact hdigits c (List.mem_cons_of_mem high (List.mem_cons_of_mem low hmem))
      have hparity : digits.length % 2 = 0 := by
        simp only [List.length_cons] at heven
        omega
      obtain ⟨bytes, hfromhex, hpairHex⟩ := fromhex_pairHex digits hrest hparity
      have hhigh := hdigits high List.mem_cons_self
      have hlow := hdigits low (List.mem_cons_of_mem high List.mem_cons_self)
      obtain ⟨hhighValue, hspace⟩ := digitValue_eq high (toNat_lt_of_isHexDigit hhigh) hhigh
      obtain ⟨hlowValue, _⟩ := digitValue_eq low (toNat_lt_of_isHexDigit hlow) hlow
      refine ⟨byteOf (digitOf (byteOfChar high)).value (digitOf (byteOfChar low)).value :: bytes,
        ?_, ?_⟩
      · rw [fromhex, if_neg (by simp [hspace]), hhighValue, hlowValue, hfromhex, byteOf,
          Nat.mul_comm]
        rfl
      · have hpair := pairHex_cons (digitOf (byteOfChar high)) (digitOf (byteOfChar low))
          (digits.map byteOfChar)
        rw [character_digitOf_byteOfChar hhigh, character_digitOf_byteOfChar hlow,
          hpairHex] at hpair
        exact hpair

/-- The digits outside the markers. -/
def digitCount (s : String) : ℕ := (withoutMarkers s.toList).countP isHexDigit

theorem hexToBytesPy_odd {s fieldName : String} (hodd : digitCount s % 2 = 1) (bytes : Bytes) :
    hexToBytesPy s fieldName ≠ .ok bytes := by
  rw [digitCount, List.countP_eq_length_filter, ← cleanHex_eq] at hodd
  have hnil : cleanHex s.toList ≠ [] := by
    intro hnil
    simp [hnil] at hodd
  simp [hexToBytesPy, hnil, hodd]

theorem hexToBytesPy_even {s : String} (heven : digitCount s % 2 = 0) (fieldName : String) :
    ∃ bytes, hexToBytesPy s fieldName = .ok bytes ∧
      pairHex (((withoutMarkers s.toList).filter isHexDigit).map byteOfChar) = .ok bytes := by
  rw [digitCount, List.countP_eq_length_filter] at heven
  obtain ⟨bytes, hfromhex, hpairHex⟩ :=
    fromhex_pairHex _ (fun c hmem => (List.mem_filter.mp hmem).2) heven
  refine ⟨bytes, ?_, hpairHex⟩
  rw [hexToBytesPy, cleanHex_eq]
  by_cases hnil : (withoutMarkers s.toList).filter isHexDigit = []
  · rw [hnil] at hfromhex
    rw [if_pos hnil, ← Option.some.inj hfromhex]
  · simp [hnil, heven, hfromhex]

theorem hexToBytes_stray {s : String} (hstray : ∃ c ∈ withoutMarkers s.toList, IsStray c)
    (bytes : Bytes) : EVPAESDirectTool.hexToBytes (utf8Encode s.toList) ≠ .ok bytes := by
  have hclean := cleanHex_utf8Encode s.toList
  rw [scanned_stray hstray] at hclean
  simp [EVPAESDirectTool.hexToBytes, hexToBytes, hclean, bind, Except.bind]

theorem hexToBytes_noStray {s : String} (hstray : ¬ ∃ c ∈ withoutMarkers s.toList, IsStray c)
    (bytes : Bytes) :
    EVPAESDirectTool.hexToBytes (utf8Encode s.toList) = .ok bytes ↔
      digitCount s % 2 = 0 ∧
        pairHex (((withoutMarkers s.toList).filter isHexDigit).map byteOfChar) = .ok bytes := by
  have hclean := cleanHex_utf8Encode s.toList
  rw [scanned_noStray hstray] at hclean
  rw [EVPAESDirectTool.hexToBytes, hexToBytes, hclean, digitCount, List.countP_eq_length_filter]
  simp [except_bind_ok]

/-- The GUI and the tool take a text for the same bytes, or both reject it, exactly
if nothing outside its markers is stray or the number of digits there is odd. -/
theorem hexParsers_agree_iff (s fieldName : String) :
    (∀ bytes, hexToBytesPy s fieldName = .ok bytes ↔
        EVPAESDirectTool.hexToBytes (utf8Encode s.toList) = .ok bytes) ↔
      (∀ c ∈ withoutMarkers s.toList, ¬ IsStray c) ∨ digitCount s % 2 = 1 := by
  by_cases hodd : digitCount s % 2 = 1
  · refine iff_of_true (fun bytes => iff_of_false (hexToBytesPy_odd hodd bytes) ?_) (.inr hodd)
    by_cases hstray : ∃ c ∈ withoutMarkers s.toList, IsStray c
    · exact hexToBytes_stray hstray bytes
    · rw [hexToBytes_noStray hstray]
      omega
  · have heven : digitCount s % 2 = 0 := by omega
    obtain ⟨bytes, hpy, hpairHex⟩ := hexToBytesPy_even heven fieldName
    by_cases hstray : ∃ c ∈ withoutMarkers s.toList, IsStray c
    · -- the GUI drops the stray character
      apply iff_of_false
      · intro hagree
        exact hexToBytes_stray hstray bytes ((hagree bytes).mp hpy)
      · rintro (hnone | hodd')
        · obtain ⟨c, hmem, hc⟩ := hstray
          exact hnone c hmem hc
        · exact hodd hodd'
    · refine iff_of_true (fun other => ?_) (.inl fun c hmem hc => hstray ⟨c, hmem, hc⟩)
      rw [hexToBytes_noStray hstray, hpy, hpairHex, Except.ok.injEq, Except.ok.injEq]
      exact ⟨fun hother => ⟨heven, hother⟩, And.right⟩

/-- A comma between two bytes: the GUI takes it for two bytes, the tool for none. -/
theorem not_hexParsers_agree_comma :
    ¬ ∀ bytes, hexToBytesPy "ab,cd" "key hex" = .ok bytes ↔
      EVPAESDirectTool.hexToBytes (utf8Encode "ab,cd".toList) = .ok bytes := by
  intro hagree
  have hpy : hexToBytesPy "ab,cd" "key hex" = .ok [0xAB, 0xCD] := by decide
  have htool : EVPAESDirectTool.hexToBytes (utf8Encode "ab,cd".toList) =
      .error (.invalidArgument (ascii "Invalid character in hex string")) := by decide
  have hbytes := (hagree [0xAB, 0xCD]).mp hpy
  rw [htool] at hbytes
  cases hbytes

end ShoppingWeb.Evp.AesGui
