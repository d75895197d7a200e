import ShoppingWeb.Evp.HexCodec
import ShoppingWeb.Lib.HexText

/-!
# What the hex codec decodes

`hex_to_bytes` accepts the renderings of byte vectors, each as the vector it
renders.
-/

namespace ShoppingWeb.Evp

open ShoppingWeb.ByteText
open ShoppingWeb.HexText
open ShoppingWeb.Shared
open ShoppingWeb.Program

/-- White space of the C locale, and the three signs between bytes. -/
def hexSeparators : ByteString := [0x20, 0x09, 0x0A, 0x0B, 0x0C, 0x0D] ++ ascii ":-_"

/-- A text that renders the bytes for these tools. -/
def RendersHex (bytes : Bytes) (text : ByteString) : Prop :=
  IsRendering hexSeparators.contains bytes text

/-- The second character of a marker. -/
def isMarkerX (c : UInt8) : Bool := c == 0x78 || c == 0x58

/-- Digits, separators and the second character of a marker are different. -/
theorem hex_classes (c : UInt8) : isHexSeparator c = hexSeparators.contains c ∧
    (isHexSeparator c = true → isXdigit c = false) ∧
      (isMarkerX c = true → isXdigit c = false ∧ isHexSeparator c = false) := by
  apply of_decide_eq_true
  revert c
  exact forall_byte (by decide +kernel)

theorem isHexSeparator_eq (c : UInt8) : isHexSeparator c = hexSeparators.contains c :=
  (hex_classes c).1

theorem cleanHex_marker {next : UInt8} (hnext : isMarkerX next = true) (hex : ByteString) :
    cleanHex (0x30 :: next :: hex) = cleanHex hex := by
  have hmarker : next = 0x78 ∨ next = 0x58 := by simpa [isMarkerX] using hnext
  simp [cleanHex, hmarker]

theorem cleanHex_cons {c : UInt8} {hex : ByteString}
    (hmarker : c = 0x30 → ∀ next, hex.head? = some next → isMarkerX next = false) :
    cleanHex (c :: hex) = scanHexCharacter c (cleanHex hex) := by
  cases hex with
  | nil => rfl
  | cons next hex =>
      have hother : ¬ (c = 0x30 ∧ (next = 0x78 ∨ next = 0x58)) := by
        rintro ⟨hzero, hnext⟩
        have hx : isMarkerX next = true := by simpa [isMarkerX] using hnext
        exact absurd hx (by simp [hmarker hzero next rfl])
      rw [cleanHex, if_neg hother]

theorem scanHexCharacter_digit {c : UInt8} (hdigit : isXdigit c = true)
    (clean : Except ToolException ByteString) :
    scanHexCharacter c clean = clean.map (c :: ·) :=
  if_pos hdigit

theorem scanHexCharacter_separator {c : UInt8} (hseparator : isHexSeparator c = true)
    (clean : Except ToolException ByteString) : scanHexCharacter c clean = clean := by
  have hdigit : isXdigit c = false := (hex_classes c).2.1 hseparator
  simp [scanHexCharacter, hdigit, hseparator]

theorem scanHexCharacter_stray {c : UInt8} (hdigit : isXdigit c = false)
    (hseparator : isHexSeparator c = false) (clean : Except ToolException ByteString) :
    scanHexCharacter c clean =
      .error (.invalidArgument (ascii "Invalid character in hex string")) := by
  simp [scanHexCharacter, hdigit, hseparator]

/-- No rendering begins with the second character of a marker, so a digit 0 in
front of it stays a digit. -/
theorem head_render_not_marker {tokens : List (Token hexSeparators.contains)} {next : UInt8}
    (hhead : (render tokens).head? = some next) : isMarkerX next = false := by
  rw [Bool.eq_false_iff]
  intro hmarker
  obtain ⟨hnodigit, hnoseparator⟩ := (hex_classes next).2.2 hmarker
  cases head_render hhead with
  | inl hdigit => exact Bool.noConfusion (hnodigit.symm.trans hdigit)
  | inr hseparator =>
      rw [isHexSeparator_eq] at hnoseparator
      exact Bool.noConfusion (hnoseparator.symm.trans hseparator)

/-- The scan of a rendering finds its digits. -/
theorem cleanHex_render (tokens : List (Token hexSeparators.contains)) :
    cleanHex (render tokens) = .ok ((digits tokens).map Digit.character) := by
  induction tokens with
  | nil => rfl
  | cons token tokens ih =>
      cases token with
      | digit spelled =>
          calc
            cleanHex (spelled.character :: render tokens) =
                scanHexCharacter spelled.character (cleanHex (render tokens)) :=
              cleanHex_cons fun _ _ => head_render_not_marker
            _ = .ok ((digits (.digit spelled :: tokens)).map Digit.character) := by
              rw [scanHexCharacter_digit (isXdigit_character spelled), ih]
              rfl
      | separator c =>
          calc
            cleanHex (c.val :: render tokens) = scanHexCharacter c.val (cleanHex (render tokens)) :=
              cleanHex_cons fun _ _ => head_render_not_marker
            _ = .ok ((digits tokens).map Digit.character) := by
              rw [scanHexCharacter_separator ((isHexSeparator_eq c.val).trans c.property), ih]
      | marker lowercase =>
          cases lowercase with
          | true => exact (cleanHex_marker (by decide) (render tokens)).trans ih
          | false => exact (cleanHex_marker (by decide) (render tokens)).trans ih

/-- The spelling of a digit character. -/
def digitOf (c : UInt8) : Digit := ⟨!isUpper c, Fin.ofNat 16 (hexValue c).toNat⟩

theorem character_digitOf {c : UInt8} (hdigit : isXdigit c = true) : (digitOf c).character = c := by
  have htest : ∀ c, (!isXdigit c || (digitOf c).character == c) = true :=
    forall_byte (by decide +kernel)
  simpa [hdigit] using htest c

/-- A character that the scan takes is a token. -/
theorem exists_token_of_scan {c : UInt8} {rest : Except ToolException ByteString}
    {clean : ByteString} (hscan : scanHexCharacter c rest = .ok clean) :
    (∃ token : Token hexSeparators.contains, token.text = [c]) ∧ ∃ digits, rest = .ok digits := by
  by_cases hdigit : isXdigit c = true
  · rw [scanHexCharacter_digit hdigit] at hscan
    refine ⟨⟨.digit (digitOf c), congrArg (fun c => [c]) (character_digitOf hdigit)⟩, ?_⟩
    cases rest with
    | ok digits => exact ⟨digits, rfl⟩
    | error exception => cases hscan
  · by_cases hseparator : isHexSeparator c = true
    · rw [scanHexCharacter_separator hseparator] at hscan
      exact ⟨⟨.separator ⟨c, (isHexSeparator_eq c).symm.trans hseparator⟩, rfl⟩, clean, hscan⟩
    · rw [scanHexCharacter_stray (by simpa using hdigit) (by simpa using hseparator)] at hscan
      cases hscan

/-- Whatever the scan accepts is a sequence of tokens. -/
theorem exists_tokens_of_cleanHex {hex clean : ByteString} (hclean : cleanHex hex = .ok clean) :
    ∃ tokens : List (Token hexSeparators.contains), render tokens = hex := by
  induction hex using cleanHex.induct generalizing clean with
  | case1 => exact ⟨[], rfl⟩
  | case2 c =>
      obtain ⟨⟨token, htoken⟩, _⟩ := exists_token_of_scan hclean
      exact ⟨[token], by simp [render, htoken]⟩
  | case3 c next hex hmarker ih =>
      rw [cleanHex, if_pos hmarker] at hclean
      obtain ⟨tokens, htokens⟩ := ih hclean
      obtain ⟨rfl, rfl | rfl⟩ := hmarker
      · exact ⟨.marker true :: tokens, congrArg (ascii "0x" ++ ·) htokens⟩
      · exact ⟨.marker false :: tokens, congrArg (ascii "0X" ++ ·) htokens⟩
  | case4 c next hex hmarker ih =>
      rw [cleanHex, if_neg hmarker] at hclean
      obtain ⟨⟨token, htoken⟩, digits, hdigits⟩ := exists_token_of_scan hclean
      obtain ⟨tokens, htokens⟩ := ih hdigits
      exact ⟨token :: tokens, by rw [render_cons, htoken, htokens]; rfl⟩

/-- Reading a digit character and writing it. -/
theorem character_value (digit : Digit) : hexValue digit.character = digit.value.val ∧
    hexDigit digit.lowercase digit.value.val = digit.character := by
  apply of_decide_eq_true
  revert digit
  exact forall_digit (by decide)

theorem hexValue_character (digit : Digit) : hexValue digit.character = digit.value.val :=
  (character_value digit).1

theorem shiftOr_eq_byteOf (high low : Fin 16) :
    UInt8.ofNat (high.val <<< 4 ||| low.val) = byteOf high low := by
  revert high low
  decide

theorem pairHex_cons (high low : Digit) (clean : ByteString) :
    pairHex (high.character :: low.character :: clean) =
      (pairHex clean).map (byteOf high.value low.value :: ·) := by
  have hvalid : ¬ (hexValue high.character < 0 ∨ hexValue low.character < 0) := by
    rw [hexValue_character, hexValue_character]
    omega
  rw [pairHex, rejectWhen, if_neg hvalid, hexValue_character, hexValue_character, Int.toNat_natCast,
    Int.toNat_natCast, shiftOr_eq_byteOf]
  cases pairHex clean with
  | ok bytes => rfl
  | error exception => rfl

/-- An even number of digits are the halves of the bytes they decode to. -/
theorem pairHex_eq_ok_iff : ∀ (spelled : List Digit) (bytes : Bytes),
    (spelled.length % 2 = 0 ∧ pairHex (spelled.map Digit.character) = .ok bytes) ↔
      spelled.map Digit.value = bytes.flatMap nibbles
  | [], bytes => by
      cases bytes with
      | nil => simp [pairHex]
      | cons byte bytes => simp [pairHex, nibbles]
  | [digit], bytes => by
      cases bytes with
      | nil => simp
      | cons byte bytes => simp [nibbles]
  | high :: low :: spelled, bytes => by
      have ih := pairHex_eq_ok_iff spelled
      rw [List.map_cons, List.map_cons, pairHex_cons]
      cases bytes with
      | nil => cases pairHex (spelled.map Digit.character) <;> simp [Except.map]
      | cons byte bytes =>
          have hhalves : high.value :: low.value :: spelled.map Digit.value =
              (byte :: bytes).flatMap nibbles ↔
                [high.value, low.value] = nibbles byte ∧
                  spelled.map Digit.value = bytes.flatMap nibbles := by
            simp [nibbles, and_assoc]
          have hparity : (high :: low :: spelled).length % 2 = spelled.length % 2 := by
            simp only [List.length_cons]
            omega
          rw [List.map_cons, List.map_cons, hhalves, nibbles_eq_iff, ← ih bytes, hparity]
          cases pairHex (spelled.map Digit.character) with
          | ok rest => simp [Except.map, and_left_comm]
          | error exception => simp [Except.map]

theorem hexToBytes_render (tokens : List (Token hexSeparators.contains)) (bytes : Bytes) :
    hexToBytes (render tokens) = .ok bytes ↔
      (digits tokens).map Digit.value = bytes.flatMap nibbles := by
  rw [← pairHex_eq_ok_iff, hexToBytes, cleanHex_render, except_bind_ok]
  simp [except_bind_ok]

theorem hexToBytes_eq_ok_iff (hex : ByteString) (bytes : Bytes) :
    hexToBytes hex = .ok bytes ↔ RendersHex bytes hex := by
  constructor
  · intro hbytes
    have hclean := hbytes
    rw [hexToBytes, except_bind_ok] at hclean
    obtain ⟨clean, hclean, _⟩ := hclean
    obtain ⟨tokens, rfl⟩ := exists_tokens_of_cleanHex hclean
    exact ⟨tokens, rfl, (hexToBytes_render tokens bytes).mp hbytes⟩
  · rintro ⟨tokens, rfl, hvalues⟩
    exact (hexToBytes_render tokens bytes).mpr hvalues

theorem hexDigit_eq_character (digit : Digit) :
    hexDigit digit.lowercase digit.value.val = digit.character :=
  (character_value digit).2

/-- The tokens that the encoder writes. -/
def encodedTokens (data : Bytes) (lowercase : Bool) : List (Token hexSeparators.contains) :=
  (data.flatMap nibbles).map fun value => .digit ⟨lowercase, value⟩

theorem rendersHex_bytesToHex (data : Bytes) (lowercase : Bool) :
    RendersHex data (bytesToHex data lowercase) := by
  refine ⟨encodedTokens data lowercase, ?_, ?_⟩
  · induction data with
    | nil => rfl
    | cons byte data ih =>
        calc
          render (encodedTokens (byte :: data) lowercase) =
              (nibbles byte).map (fun value => (Digit.mk lowercase value).character) ++
                render (encodedTokens data lowercase) := rfl
          _ = bytesToHex (byte :: data) lowercase := by
            rw [ih]
            simp [nibbles, bytesToHex, ← hexDigit_eq_character]
  · simp [encodedTokens, digits, Token.digit?, List.filterMap_map, Function.comp_def]

/-- The codec decodes the renderings of a byte vector, and nothing else, as that
vector; its encoder writes one of them, and the two copies do the same. -/
theorem hexCodec_renderings :
    (∀ hex bytes, EVPAESDirectTool.hexToBytes hex = .ok bytes ↔ RendersHex bytes hex) ∧
      (∀ bytes lowercase,
        EVPAESDirectTool.hexToBytes (EVPAESDirectTool.bytesToHex bytes lowercase) = .ok bytes) ∧
      (∀ hex, EVPHashDirectTool.hexToBytes hex = EVPAESDirectTool.hexToBytes hex) ∧
      ∀ bytes lowercase,
        EVPHashDirectTool.bytesToHex bytes lowercase =
          EVPAESDirectTool.bytesToHex bytes lowercase := by
  refine ⟨hexToBytes_eq_ok_iff, fun bytes lowercase => ?_, fun _ => rfl, fun _ _ => rfl⟩
  exact (hexToBytes_eq_ok_iff _ bytes).mpr (rendersHex_bytesToHex bytes lowercase)

end ShoppingWeb.Evp
