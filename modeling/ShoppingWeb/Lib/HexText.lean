import ShoppingWeb.Lib.ByteText

/-!
# Renderings of bytes in hexadecimal

A text renders a byte vector if it is a sequence of tokens with two digits for
every byte.  The digits have either case; separators and markers `0x` stand
before, between and after them in any number.
-/

namespace ShoppingWeb.HexText

open ShoppingWeb.ByteText

/-- A digit in one of its spellings. -/
structure Digit where
  lowercase : Bool
  value : Fin 16
  deriving DecidableEq, Repr

def Digit.character (digit : Digit) : UInt8 :=
  let digits := ascii (if digit.lowercase then "0123456789abcdef" else "0123456789ABCDEF")
  digits.getD digit.value.val 0

theorem forall_digit {test : Digit → Bool}
    (hall : ([true, false].all fun lowercase =>
      (List.finRange 16).all fun value => test ⟨lowercase, value⟩) = true) (digit : Digit) :
    test digit = true := by
  obtain ⟨lowercase, value⟩ := digit
  have hcase := List.all_eq_true.mp hall lowercase (by cases lowercase <;> decide)
  exact List.all_eq_true.mp hcase value (List.mem_finRange value)

theorem isXdigit_character (digit : Digit) : isXdigit digit.character = true := by
  revert digit
  exact forall_digit (by decide)

/-- The high and the low half of a byte. -/
def nibbles (byte : UInt8) : List (Fin 16) :=
  [⟨byte.toNat / 16, by have := byte.toNat_lt; omega⟩, ⟨byte.toNat % 16, by omega⟩]

/-- The byte of two halves. -/
def byteOf (high low : Fin 16) : UInt8 := UInt8.ofNat (16 * high.val + low.val)

theorem nibbles_eq_iff (high low : Fin 16) (byte : UInt8) :
    [high, low] = nibbles byte ↔ byteOf high low = byte := by
  obtain ⟨high, hhigh⟩ := high
  obtain ⟨low, hlow⟩ := low
  rw [← UInt8.toNat_inj]
  simp only [nibbles, byteOf, List.cons.injEq, Fin.mk.injEq, and_true, UInt8.toNat_ofNat']
  omega

inductive Token (isSeparator : UInt8 → Bool) where
  | digit (spelled : Digit)
  | separator (c : {c : UInt8 // isSeparator c = true})
  | marker (lowercase : Bool)

variable {isSeparator : UInt8 → Bool}

def Token.text : Token isSeparator → ByteString
  | .digit spelled => [spelled.character]
  | .separator c => [c.val]
  | .marker lowercase => ascii (if lowercase then "0x" else "0X")

def Token.digit? : Token isSeparator → Option Digit
  | .digit spelled => some spelled
  | .separator _ => none
  | .marker _ => none

/-- The text of some tokens. -/
def render (tokens : List (Token isSeparator)) : ByteString := tokens.flatMap Token.text

/-- The digits among some tokens. -/
def digits (tokens : List (Token isSeparator)) : List Digit := tokens.filterMap Token.digit?

/-- The text renders the bytes. -/
def IsRendering (isSeparator : UInt8 → Bool) (bytes : List UInt8) (text : ByteString) : Prop :=
  ∃ tokens : List (Token isSeparator),
    render tokens = text ∧ (digits tokens).map Digit.value = bytes.flatMap nibbles

@[simp]
theorem render_cons (token : Token isSeparator) (tokens : List (Token isSeparator)) :
    render (token :: tokens) = token.text ++ render tokens := rfl

/-- A rendering begins with a digit, a separator or the 0 of a marker. -/
theorem head_render {tokens : List (Token isSeparator)} {c : UInt8}
    (hhead : (render tokens).head? = some c) : isXdigit c = true ∨ isSeparator c = true := by
  cases tokens with
  | nil => simp [render] at hhead
  | cons token tokens =>
      cases token with
      | digit spelled =>
          obtain rfl : spelled.character = c := by simpa [Token.text] using hhead
          exact .inl (isXdigit_character spelled)
      | separator separator =>
          obtain rfl : separator.val = c := by simpa [Token.text] using hhead
          exact .inr separator.property
      | marker lowercase =>
          obtain rfl : 0x30 = c := by cases lowercase <;> exact Option.some.inj hhead
          exact .inl (by decide)

end ShoppingWeb.HexText
