import Mathlib.Data.List.Basic
import Mathlib.Data.Char

/-!
# UTF-16 strings and their UTF-8 bytes

Java and JavaScript strings are sequences of 16-bit code units, so a string
may hold surrogates that pair with nothing.  Both languages encode such a
string by substituting a replacement for every unpaired surrogate, and both
decode malformed bytes to U+FFFD.  On well-formed text all of these maps are
inverse to each other.
-/

namespace ShoppingWeb.Utf16

abbrev CodeUnit := UInt16

/-- A string of the Java or JavaScript runtime. -/
abbrev JString := List CodeUnit

def isHighSurrogate (unit : CodeUnit) : Bool :=
  0xD800 ≤ unit.toNat && unit.toNat < 0xDC00

def isLowSurrogate (unit : CodeUnit) : Bool :=
  0xDC00 ≤ unit.toNat && unit.toNat < 0xE000

/-- The one or two code units of a Unicode scalar value. -/
def encodeScalar (scalar : Char) : JString :=
  if scalar.toNat < 0x10000 then [UInt16.ofNat scalar.toNat]
  else
    [UInt16.ofNat (0xD800 + (scalar.toNat - 0x10000) / 0x400),
      UInt16.ofNat (0xDC00 + (scalar.toNat - 0x10000) % 0x400)]

def ofScalars (scalars : List Char) : JString :=
  scalars.flatMap encodeScalar

/-- The code units of a literal. -/
def js (text : String) : JString :=
  ofScalars text.toList

/-- Pair up surrogates from left to right; one that pairs with nothing becomes
`replacement`. -/
def scalars (replacement : Char) : JString → List Char
  | [] => []
  | [unit] =>
      if isHighSurrogate unit || isLowSurrogate unit then [replacement]
      else [Char.ofNat unit.toNat]
  | unit :: next :: rest =>
      if isHighSurrogate unit then
        if isLowSurrogate next then
          Char.ofNat (0x10000 + (unit.toNat - 0xD800) * 0x400 + (next.toNat - 0xDC00)) ::
            scalars replacement rest
        else replacement :: scalars replacement (next :: rest)
      else if isLowSurrogate unit then replacement :: scalars replacement (next :: rest)
      else Char.ofNat unit.toNat :: scalars replacement (next :: rest)

/-- A string in which every surrogate is paired. -/
def WellFormed (text : JString) : Prop :=
  ∃ content : List Char, text = ofScalars content

theorem ofScalars_cons (scalar : Char) (rest : List Char) :
    ofScalars (scalar :: rest) = encodeScalar scalar ++ ofScalars rest := rfl

theorem ofScalars_append (left right : List Char) :
    ofScalars (left ++ right) = ofScalars left ++ ofScalars right := by
  simp [ofScalars]

theorem wellFormed_append {left right : JString} (hleft : WellFormed left)
    (hright : WellFormed right) : WellFormed (left ++ right) := by
  obtain ⟨leftContent, rfl⟩ := hleft
  obtain ⟨rightContent, rfl⟩ := hright
  exact ⟨leftContent ++ rightContent, (ofScalars_append _ _).symm⟩

/-- A string without surrogates is well formed. -/
theorem wellFormed_of_no_surrogate {text : JString}
    (htext : ∀ unit ∈ text, unit.toNat < 0xD800 ∨ 0xE000 ≤ unit.toNat) : WellFormed text := by
  induction text with
  | nil => exact ⟨[], rfl⟩
  | cons unit rest ih =>
      obtain ⟨content, hcontent⟩ :=
        ih fun other hother => htext other (List.mem_cons_of_mem _ hother)
      have hunit := htext unit List.mem_cons_self
      have hsize := unit.toNat_lt
      have hvalid : unit.toNat.isValidChar := by
        rcases hunit with hlow | hhigh
        · exact Or.inl hlow
        · exact Or.inr ⟨by omega, by omega⟩
      have hscalar : (Char.ofNat unit.toNat).toNat = unit.toNat := by
        rw [Char.ofNat, dif_pos hvalid]
        rfl
      refine ⟨Char.ofNat unit.toNat :: content, ?_⟩
      rw [ofScalars_cons, ← hcontent, encodeScalar, hscalar, if_pos (by omega)]
      simp

/-- A scalar value is no surrogate and at most U+10FFFF. -/
private theorem scalar_range (scalar : Char) :
    scalar.toNat < 0xD800 ∨ (0xDFFF < scalar.toNat ∧ scalar.toNat < 0x110000) :=
  scalar.valid

private theorem toNat_unit {value : ℕ} (hvalue : value < 0x10000) :
    (UInt16.ofNat value).toNat = value := by
  simp only [UInt16.toNat_ofNat']
  omega

/-- A scalar of the Basic Multilingual Plane is one unit, and no surrogate. -/
private theorem scalars_unit_append (replacement : Char) {scalar : Char}
    (hsmall : scalar.toNat < 0x10000) (rest : JString) :
    scalars replacement (UInt16.ofNat scalar.toNat :: rest) =
      scalar :: scalars replacement rest := by
  have hrange := scalar_range scalar
  have hunit := toNat_unit hsmall
  have hhigh : isHighSurrogate (UInt16.ofNat scalar.toNat) = false := by
    simp only [isHighSurrogate, hunit, Bool.and_eq_false_iff, decide_eq_false_iff_not]
    omega
  have hlow : isLowSurrogate (UInt16.ofNat scalar.toNat) = false := by
    simp only [isLowSurrogate, hunit, Bool.and_eq_false_iff, decide_eq_false_iff_not]
    omega
  cases rest with
  | nil => simp [scalars, hhigh, hlow, hunit]
  | cons next rest => simp [scalars, hhigh, hlow, hunit]

/-- A surrogate pair stands for the scalar it splits. -/
private theorem scalars_pair_append (replacement : Char) {offset : ℕ} (hoffset : offset < 0x100000)
    (rest : JString) :
    scalars replacement
        (UInt16.ofNat (0xD800 + offset / 0x400) :: UInt16.ofNat (0xDC00 + offset % 0x400) :: rest) =
      Char.ofNat (0x10000 + offset) :: scalars replacement rest := by
  have hfirst := @toNat_unit (0xD800 + offset / 0x400) (by omega)
  have hsecond := @toNat_unit (0xDC00 + offset % 0x400) (by omega)
  have hhigh : isHighSurrogate (UInt16.ofNat (0xD800 + offset / 0x400)) = true := by
    simp only [isHighSurrogate, hfirst, Bool.and_eq_true, decide_eq_true_eq]
    omega
  have hlow : isLowSurrogate (UInt16.ofNat (0xDC00 + offset % 0x400)) = true := by
    simp only [isLowSurrogate, hsecond, Bool.and_eq_true, decide_eq_true_eq]
    omega
  have hvalue : 0x10000 + (0xD800 + offset / 0x400 - 0xD800) * 0x400 +
      (0xDC00 + offset % 0x400 - 0xDC00) = 0x10000 + offset := by
    omega
  simp only [scalars, hhigh, hlow, if_true, hfirst, hsecond, hvalue]

private theorem scalars_encodeScalar_append (replacement scalar : Char)
    (rest : JString) :
    scalars replacement (encodeScalar scalar ++ rest) =
      scalar :: scalars replacement rest := by
  have hrange := scalar_range scalar
  by_cases hsmall : scalar.toNat < 0x10000
  · rw [encodeScalar, if_pos hsmall, List.singleton_append]
    exact scalars_unit_append replacement hsmall rest
  · have hvalue : 0x10000 + (scalar.toNat - 0x10000) = scalar.toNat := by omega
    rw [encodeScalar, if_neg hsmall, List.cons_append, List.singleton_append,
      scalars_pair_append replacement (by omega), hvalue, Char.ofNat_toNat]

/-- Reading back the scalar values of a well-formed string, whatever the
replacement would have been. -/
@[simp]
theorem scalars_ofScalars (replacement : Char) (content : List Char) :
    scalars replacement (ofScalars content) = content := by
  induction content with
  | nil => rfl
  | cons scalar rest ih =>
      rw [ofScalars_cons, scalars_encodeScalar_append, ih]

theorem ofScalars_injective : Function.Injective ofScalars := fun left right heq => by
  have := congrArg (scalars '?') heq
  simpa using this

def utf8Encode (content : List Char) : List UInt8 :=
  content.flatMap String.utf8EncodeChar

/-- The scalar value encoded at the start of a byte string, if there is one. -/
def decodeScalar? (bytes : List UInt8) : Option Char :=
  bytes.toByteArray.utf8DecodeChar? 0

def isContinuation (byte : UInt8) : Bool :=
  byte.toNat / 0x40 == 2

/-- How many bytes Java's decoder replaces by one U+FFFD when no scalar value
is encoded at the start of the input. -/
def malformedLength : List UInt8 → ℕ
  | [] => 0
  | [_] => 1
  | lead :: second :: rest =>
      let first := lead.toNat
      if 0xC2 ≤ first ∧ first < 0xE0 then 1
      else if 0xE0 ≤ first ∧ first < 0xF0 then
        if !isContinuation second || (first == 0xE0 && second.toNat < 0xA0) then 1
        else
          match rest with
          | [] => 2
          | third :: _ => if isContinuation third then 3 else 2
      else if 0xF0 ≤ first ∧ first < 0xF5 then
        if !isContinuation second || (first == 0xF0 && second.toNat < 0x90) ||
            (first == 0xF4 && 0x90 ≤ second.toNat) then 1
        else
          match rest with
          | [] => 2
          | third :: _ => if isContinuation third then 3 else 2
      else 1

/-- Decoding with replacement.  `skip` counts the bytes that belong to what
was decoded last. -/
def utf8DecodeFrom : (skip : ℕ) → List UInt8 → List Char
  | _, [] => []
  | skip + 1, _ :: rest => utf8DecodeFrom skip rest
  | 0, lead :: rest =>
      match decodeScalar? (lead :: rest) with
      | some scalar => scalar :: utf8DecodeFrom (scalar.utf8Size - 1) rest
      | none => Char.ofNat 0xFFFD :: utf8DecodeFrom (malformedLength (lead :: rest) - 1) rest

def utf8Decode (bytes : List UInt8) : List Char :=
  utf8DecodeFrom 0 bytes

/-- Bytes that are the UTF-8 encoding of some text. -/
def WellFormedUtf8 (bytes : List UInt8) : Prop :=
  ∃ content : List Char, bytes = utf8Encode content

private theorem decodeScalar?_encode_append (scalar : Char) (rest : List UInt8) :
    decodeScalar? (String.utf8EncodeChar scalar ++ rest) = some scalar := by
  rw [decodeScalar?, List.toByteArray_append]
  exact ByteArray.utf8DecodeChar?_utf8EncodeChar_append

private theorem utf8DecodeFrom_append (skipped rest : List UInt8) :
    utf8DecodeFrom skipped.length (skipped ++ rest) = utf8DecodeFrom 0 rest := by
  induction skipped with
  | nil => rfl
  | cons byte bytes ih => simpa [utf8DecodeFrom] using ih

private theorem utf8Decode_encodeChar_append (scalar : Char) (rest : List UInt8) :
    utf8Decode (String.utf8EncodeChar scalar ++ rest) = scalar :: utf8Decode rest := by
  have hdecode := decodeScalar?_encode_append scalar rest
  have hlength := String.length_utf8EncodeChar scalar
  have hpos := scalar.utf8Size_pos
  cases hencoded : String.utf8EncodeChar scalar with
  | nil =>
      rw [hencoded] at hlength
      simp at hlength
      omega
  | cons lead tail =>
      rw [hencoded] at hdecode hlength
      have htail : scalar.utf8Size - 1 = tail.length := by
        simp at hlength
        omega
      simp only [List.cons_append] at hdecode ⊢
      rw [utf8Decode, utf8DecodeFrom, hdecode]
      simp only [htail, utf8DecodeFrom_append]
      rfl

/-- Decoding inverts encoding. -/
@[simp]
theorem utf8Decode_utf8Encode (content : List Char) :
    utf8Decode (utf8Encode content) = content := by
  induction content with
  | nil => rfl
  | cons scalar rest ih =>
      rw [utf8Encode, List.flatMap_cons, utf8Decode_encodeChar_append]
      exact congrArg _ ih

theorem utf8Encode_injective : Function.Injective utf8Encode := fun left right heq => by
  have := congrArg utf8Decode heq
  simpa using this

/-- Re-encoding a decoded byte string restores it exactly when it was
well formed. -/
theorem utf8Encode_utf8Decode_iff (bytes : List UInt8) :
    utf8Encode (utf8Decode bytes) = bytes ↔ WellFormedUtf8 bytes := by
  constructor
  · intro heq
    exact ⟨utf8Decode bytes, heq.symm⟩
  · rintro ⟨content, rfl⟩
    rw [utf8Decode_utf8Encode]

/-- Java's `String.getBytes(UTF_8)`. -/
def getBytes (text : JString) : List UInt8 :=
  utf8Encode (scalars '?' text)

/-- Java's `new String(bytes, UTF_8)`. -/
def newString (bytes : List UInt8) : JString :=
  ofScalars (utf8Decode bytes)

/-- The browser's `TextEncoder.encode`. -/
def textEncode (text : JString) : List UInt8 :=
  utf8Encode (scalars (Char.ofNat 0xFFFD) text)

theorem getBytes_injOn {left right : JString} (hleft : WellFormed left)
    (hright : WellFormed right) (heq : getBytes left = getBytes right) :
    left = right := by
  obtain ⟨leftContent, rfl⟩ := hleft
  obtain ⟨rightContent, rfl⟩ := hright
  simp only [getBytes, scalars_ofScalars] at heq
  rw [utf8Encode_injective heq]

/-- On well-formed text the browser and the server encode alike. -/
theorem textEncode_eq_getBytes {text : JString} (htext : WellFormed text) :
    textEncode text = getBytes text := by
  obtain ⟨content, rfl⟩ := htext
  simp [textEncode, getBytes]

/-- Well-formed text survives its encoding. -/
theorem newString_getBytes {text : JString} (htext : WellFormed text) :
    newString (getBytes text) = text := by
  obtain ⟨content, rfl⟩ := htext
  simp [newString, getBytes]

/-- Decoding what was encoded loses no bytes. -/
theorem getBytes_newString_getBytes (text : JString) :
    getBytes (newString (getBytes text)) = getBytes text := by
  rw [newString, getBytes, getBytes, utf8Decode_utf8Encode, scalars_ofScalars]

theorem wellFormed_newString (bytes : List UInt8) : WellFormed (newString bytes) :=
  ⟨utf8Decode bytes, rfl⟩

/-- Two byte strings that decode to the same text are equal when both are
well formed. -/
theorem newString_injOn {left right : List UInt8} (hleft : WellFormedUtf8 left)
    (hright : WellFormedUtf8 right) (heq : newString left = newString right) :
    left = right := by
  obtain ⟨leftContent, rfl⟩ := hleft
  obtain ⟨rightContent, rfl⟩ := hright
  have hcontent : leftContent = rightContent := by
    simpa using ofScalars_injective heq
  rw [hcontent]

end ShoppingWeb.Utf16
