import ShoppingWeb.Evp.AesCommandLine
import ShoppingWeb.Lib.CommandWords

/-!
# The arguments of the AES command line

`parse_args`.  An option's value stands behind an equals sign or is the next
argument, whatever that looks like.  Each option ends up with the value it was
given last, and `--padding` and `--nopad` are two values of one option.
-/

namespace ShoppingWeb.Evp

open ShoppingWeb.ByteText
open ShoppingWeb.CommandWords
open ShoppingWeb.Program

/-- What `parse_args` throws. -/
inductive ArgumentException where
  | invalidArgument (message : ByteString)
  | outOfRange (message : ByteString)
  deriving DecidableEq, Repr

def isDigitOf (base : ℕ) (c : UInt8) : Bool := 0 ≤ hexValue c ∧ hexValue c < base

/-- The base that a numeral announces, and its digits with what follows them. -/
def numeralOf (text : ByteString) : ℕ × ByteString :=
  match text with
  | zero :: x :: digit :: rest =>
      if zero = 0x30 ∧ (x = 0x78 ∨ x = 0x58) ∧ isXdigit digit then (16, digit :: rest)
      else (if zero = 0x30 then 8 else 10, text)
  | zero :: _ => (if zero = 0x30 then 8 else 10, text)
  | [] => (10, text)

/-- `std::stoul` with base 0, for a given `ULONG_MAX`, and the demand that it
read the whole text.  A number behind a minus sign is taken modulo the range. -/
def parseSize (ulongMax : ℕ) (s : ByteString) : Except ArgumentException ℕ :=
  let text := s.dropWhile isSpace
  let negative := text.head? = some 0x2D
  let numeral := numeralOf (if negative ∨ text.head? = some 0x2B then text.tail else text)
  let digits := numeral.2.takeWhile (isDigitOf numeral.1)
  let value := digits.foldl (fun value c => value * numeral.1 + (hexValue c).toNat) 0
  if digits = [] then .error (.invalidArgument (ascii "stoul"))
  else if ulongMax < value then .error (.outOfRange (ascii "stoul"))
  else if digits ≠ numeral.2 then
    .error (.invalidArgument (ascii "Invalid numeric value: " ++ s))
  else .ok (if negative then (ulongMax + 1 - value) % (ulongMax + 1) else value)

example : parseSize (2 ^ 32 - 1) (ascii " 0x10") = .ok 16 := by decide

example : parseSize (2 ^ 32 - 1) (ascii "-1") = .ok (2 ^ 32 - 1) := by decide

example : parseSize (2 ^ 32 - 1) (ascii "08") =
    .error (.invalidArgument (ascii "Invalid numeric value: 08")) := by decide

inductive Flag where
  | encrypt
  | decrypt
  | help
  | list
  | available
  | emptyInput
  | outHex
  | padding
  | nopad
  deriving DecidableEq, Repr

inductive ValueOption where
  | cipher
  | key
  | iv
  | nonce
  | aadHex
  | aadText
  | tagLen
  | tag
  | tagIn
  | tagOut
  | input
  | output
  | hexInput
  | text
  deriving DecidableEq, Repr

def Flag.spellings : Flag → List ByteString
  | .encrypt => [ascii "enc", ascii "encrypt", ascii "-e", ascii "--encrypt"]
  | .decrypt => [ascii "dec", ascii "decrypt", ascii "-d", ascii "--decrypt"]
  | .help => [ascii "--help", ascii "-h", ascii "/?"]
  | .list => [ascii "--list"]
  | .available => [ascii "--available"]
  | .emptyInput => [ascii "--empty-input"]
  | .outHex => [ascii "--out-hex"]
  | .padding => [ascii "--padding"]
  | .nopad => [ascii "--nopad"]

def ValueOption.name : ValueOption → ByteString
  | .cipher => ascii "--cipher"
  | .key => ascii "--key"
  | .iv => ascii "--iv"
  | .nonce => ascii "--nonce"
  | .aadHex => ascii "--aad-hex"
  | .aadText => ascii "--aad-text"
  | .tagLen => ascii "--tag-len"
  | .tag => ascii "--tag"
  | .tagIn => ascii "--tag-in"
  | .tagOut => ascii "--tag-out"
  | .input => ascii "--in"
  | .output => ascii "--out"
  | .hexInput => ascii "--hex-input"
  | .text => ascii "--text"

/-- One thing that the arguments say. -/
inductive Setting where
  | flag (flag : Flag)
  | value (option : ValueOption) (value : ByteString)
  deriving DecidableEq, Repr

def startsWith (s head : ByteString) : Bool := head.isPrefixOf s

/-- The prefix of an argument that holds the value too. -/
def ValueOption.joined (option : ValueOption) : ByteString := option.name ++ ascii "="

def optionMatches (arg : ByteString) (option : ValueOption) : Bool :=
  arg == option.name || startsWith arg option.joined

/-- The branches of the loop, in their order. -/
def branches : List (Flag ⊕ ValueOption) :=
  [.inl .encrypt, .inl .decrypt, .inl .help, .inl .list, .inl .available, .inr .cipher, .inr .key,
    .inr .iv, .inr .nonce, .inr .aadHex, .inr .aadText, .inr .tagLen, .inr .tag, .inr .tagIn,
    .inr .tagOut, .inr .input, .inr .output, .inr .hexInput, .inr .text, .inl .emptyInput,
    .inl .outHex, .inl .padding, .inl .nopad]

def takesBranch (arg : ByteString) : Flag ⊕ ValueOption → Bool
  | .inl flag => flag.spellings.contains arg
  | .inr option => optionMatches arg option

/-- `require_value`, but for the next argument. -/
def requireValue (arg : ByteString) (option : ValueOption) : Reading ByteString Setting :=
  if startsWith arg option.joined then
    .alone (.value option (arg.drop option.joined.length))
  else .withNext (.value option)

def readArgument (arg : ByteString) : Reading ByteString Setting :=
  match branches.find? (takesBranch arg) with
  | none => .unknown
  | some (.inl flag) => .alone (.flag flag)
  | some (.inr option) => requireValue arg option

namespace CLIOptions

/-- The options before any argument. -/
def initial : CLIOptions where
  help := false
  list := false
  available := false
  encrypt := false
  decrypt := false
  cipher := []
  keyHex := []
  ivHex := []
  nonceHex := []
  aadHex := []
  aadText := []
  tagLen := 16
  tagHex := []
  tagInFile := []
  tagOutFile := []
  inputFile := []
  outputFile := []
  hexInput := []
  textInput := []
  emptyInput := false
  outHex := false
  padding := false
  paddingSet := false

def raise (opt : CLIOptions) : Flag → CLIOptions
  | .encrypt => { opt with encrypt := true }
  | .decrypt => { opt with decrypt := true }
  | .help => { opt with help := true }
  | .list => { opt with list := true }
  | .available => { opt with available := true }
  | .emptyInput => { opt with emptyInput := true }
  | .outHex => { opt with outHex := true }
  | .padding => { opt with padding := true, paddingSet := true }
  | .nopad => { opt with padding := false, paddingSet := true }

def assign (ulongMax : ℕ) (opt : CLIOptions) (option : ValueOption) (value : ByteString) :
    Except ArgumentException CLIOptions :=
  match option with
  | .cipher => .ok { opt with cipher := value }
  | .key => .ok { opt with keyHex := value }
  | .iv => .ok { opt with ivHex := value }
  | .nonce => .ok { opt with nonceHex := value }
  | .aadHex => .ok { opt with aadHex := value }
  | .aadText => .ok { opt with aadText := value }
  | .tagLen => (parseSize ulongMax value).map fun tagLen => { opt with tagLen }
  | .tag => .ok { opt with tagHex := value }
  | .tagIn => .ok { opt with tagInFile := value }
  | .tagOut => .ok { opt with tagOutFile := value }
  | .input => .ok { opt with inputFile := value }
  | .output => .ok { opt with outputFile := value }
  | .hexInput => .ok { opt with hexInput := value }
  | .text => .ok { opt with textInput := value }

def set (ulongMax : ℕ) (opt : CLIOptions) : Setting → Except ArgumentException CLIOptions
  | .flag flag => .ok (opt.raise flag)
  | .value option value => opt.assign ulongMax option value

end CLIOptions

/-- The arguments without the program's name. -/
def parseArgs (ulongMax : ℕ) (args : List ByteString) : Except ArgumentException CLIOptions :=
  if args = [] then .ok { CLIOptions.initial with help := true }
  else
    scan readArgument (CLIOptions.set ulongMax)
      (fun arg => .invalidArgument (ascii "Missing value for " ++ arg))
      (fun arg => .invalidArgument (ascii "Unknown argument: " ++ arg)) args CLIOptions.initial

/-! ## What the arguments say -/

section Meaning

variable {ulongMax : ℕ} {settings : List Setting} {opt : CLIOptions}

def Setting.valueOf (option : ValueOption) : Setting → Option ByteString
  | .flag _ => none
  | .value other given => if other = option then some given else none

def Setting.paddingOf : Setting → Option Bool
  | .flag .padding => some true
  | .flag .nopad => some false
  | _ => none

def raised (settings : List Setting) (flag : Flag) : Bool := settings.contains (.flag flag)

/-- The value that an option was given last. -/
def lastValue (settings : List Setting) (option : ValueOption) : Option ByteString :=
  (settings.filterMap (Setting.valueOf option)).getLast?

def lastPadding (settings : List Setting) : Option Bool :=
  (settings.filterMap Setting.paddingOf).getLast?

def textOf (settings : List Setting) (option : ValueOption) : ByteString :=
  (lastValue settings option).getD []

/-- The tag length given last, where it is a number. -/
def tagLenOf (ulongMax : ℕ) (settings : List Setting) : ℕ :=
  match lastValue settings .tagLen with
  | none => 16
  | some value => (parseSize ulongMax value).toOption.getD 0

def optionsOf (ulongMax : ℕ) (settings : List Setting) : CLIOptions where
  help := raised settings .help
  list := raised settings .list
  available := raised settings .available
  encrypt := raised settings .encrypt
  decrypt := raised settings .decrypt
  cipher := textOf settings .cipher
  keyHex := textOf settings .key
  ivHex := textOf settings .iv
  nonceHex := textOf settings .nonce
  aadHex := textOf settings .aadHex
  aadText := textOf settings .aadText
  tagLen := tagLenOf ulongMax settings
  tagHex := textOf settings .tag
  tagInFile := textOf settings .tagIn
  tagOutFile := textOf settings .tagOut
  inputFile := textOf settings .input
  outputFile := textOf settings .output
  hexInput := textOf settings .hexInput
  textInput := textOf settings .text
  emptyInput := raised settings .emptyInput
  outHex := raised settings .outHex
  padding := (lastPadding settings).getD false
  paddingSet := (lastPadding settings).isSome

/-- A tag length that was given is a number. -/
def Setting.IsReadable (ulongMax : ℕ) (setting : Setting) : Prop :=
  ∀ value, setting = .value .tagLen value → ∃ size, parseSize ulongMax value = .ok size

theorem raised_flag (given flag : Flag) :
    raised (settings ++ [.flag given]) flag = (raised settings flag || decide (given = flag)) := by
  rw [raised, raised, Bool.eq_iff_iff]
  simp only [List.contains_iff_mem, List.mem_append, List.mem_singleton, Setting.flag.injEq,
    Bool.or_eq_true, decide_eq_true_eq]
  rw [eq_comm]

theorem raised_value (option : ValueOption) (value : ByteString) (flag : Flag) :
    raised (settings ++ [.value option value]) flag = raised settings flag := by
  rw [raised, raised, Bool.eq_iff_iff]
  simp

theorem lastValue_flag (given : Flag) (option : ValueOption) :
    lastValue (settings ++ [.flag given]) option = lastValue settings option := by
  simp [lastValue, Setting.valueOf]

theorem lastValue_value (given option : ValueOption) (value : ByteString) :
    lastValue (settings ++ [.value given value]) option =
      if given = option then some value else lastValue settings option := by
  by_cases hsame : given = option
  · simp [lastValue, Setting.valueOf, hsame]
  · simp [lastValue, Setting.valueOf, hsame]

theorem lastPadding_flag (given : Flag) :
    lastPadding (settings ++ [.flag given]) =
      (Setting.paddingOf (.flag given)).or (lastPadding settings) := by
  cases given <;> simp [lastPadding, Setting.paddingOf]

theorem lastPadding_value (option : ValueOption) (value : ByteString) :
    lastPadding (settings ++ [.value option value]) = lastPadding settings := by
  simp [lastPadding, Setting.paddingOf]

theorem optionsOf_flag (given : Flag) :
    optionsOf ulongMax (settings ++ [.flag given]) = (optionsOf ulongMax settings).raise given := by
  cases given <;>
    simp [optionsOf, CLIOptions.raise, raised_flag, lastPadding_flag, Setting.paddingOf, textOf,
      tagLenOf, lastValue_flag]

/-- One more setting changes the options as the loop does. -/
theorem set_optionsOf (setting : Setting) :
    (optionsOf ulongMax settings).set ulongMax setting = .ok opt ↔
      setting.IsReadable ulongMax ∧ optionsOf ulongMax (settings ++ [setting]) = opt := by
  cases setting with
  | flag given =>
      have hreadable : (Setting.flag given).IsReadable ulongMax := fun _ hvalue => nomatch hvalue
      rw [CLIOptions.set, Except.ok.injEq, and_iff_right hreadable, optionsOf_flag]
  | value option value =>
      rw [CLIOptions.set]
      by_cases hsize : option = .tagLen
      · subst hsize
        rw [CLIOptions.assign]
        cases hparsed : parseSize ulongMax value with
        | error exception => simp [Except.map, Setting.IsReadable, hparsed]
        | ok size =>
            simp [Except.map, Setting.IsReadable, hparsed, optionsOf, raised_value,
              lastPadding_value, textOf, tagLenOf, lastValue_value, Except.toOption]
      · have hreadable : (Setting.value option value).IsReadable ulongMax := by
          rintro _ ⟨⟩
          exact absurd rfl hsize
        rw [and_iff_right hreadable]
        cases option <;>
          simp_all [CLIOptions.assign, optionsOf, raised_value, lastPadding_value, textOf,
            tagLenOf, lastValue_value]

/-- The loop computes what the settings say. -/
theorem foldlM_set :
    settings.foldlM (CLIOptions.set ulongMax) CLIOptions.initial = .ok opt ↔
      (∀ setting ∈ settings, setting.IsReadable ulongMax) ∧ optionsOf ulongMax settings = opt := by
  induction settings using List.reverseRecOn generalizing opt with
  | nil =>
      have hinitial : optionsOf ulongMax [] = CLIOptions.initial := rfl
      simp [hinitial, pure, Except.pure]
  | append_singleton settings setting ih =>
      rw [List.foldlM_append, except_bind_ok]
      simp only [List.foldlM_cons, List.foldlM_nil, ih, except_bind_ok, pure, Except.pure,
        Except.ok.injEq, exists_eq_right]
      constructor
      · rintro ⟨_, ⟨hreadable, rfl⟩, hset⟩
        obtain ⟨hlast, hopt⟩ := (set_optionsOf setting).mp hset
        exact ⟨by simpa [or_imp, forall_and] using ⟨hreadable, hlast⟩, hopt⟩
      · rintro ⟨hreadable, hopt⟩
        have hboth : (∀ setting ∈ settings, setting.IsReadable ulongMax) ∧
            setting.IsReadable ulongMax := by
          simpa [or_imp, forall_and] using hreadable
        exact ⟨_, ⟨hboth.1, rfl⟩, (set_optionsOf setting).mpr ⟨hboth.2, hopt⟩⟩

end Meaning

/-! ## The words of a setting -/

/-- A setting as it is written: a flag in one of its spellings, or an option
with its value in one argument or in two. -/
inductive Argument where
  | flag (flag : Flag) (spelling : ByteString) (hspelling : spelling ∈ flag.spellings)
  | joined (option : ValueOption) (value : ByteString)
  | separate (option : ValueOption) (value : ByteString)

def Argument.words : Argument → List ByteString
  | .flag _ spelling _ => [spelling]
  | .joined option given => [option.joined ++ given]
  | .separate option given => [option.name, given]

def Argument.setting : Argument → Setting
  | .flag raised _ _ => .flag raised
  | .joined option given => .value option given
  | .separate option given => .value option given

theorem readArgument_spelling {flag : Flag} {spelling : ByteString}
    (hspelling : spelling ∈ flag.spellings) :
    readArgument spelling = .alone (.flag flag) := by
  have hall : ∀ other ∈ flag.spellings,
      branches.find? (takesBranch other) = some (.inl flag) := by
    cases flag <;> decide
  rw [readArgument, hall spelling hspelling]

theorem readArgument_name (option : ValueOption) :
    readArgument option.name = .withNext (.value option) := by
  cases option <;> rfl

/-- Every comparison is over at the equals sign, whatever comes behind it. -/
theorem readArgument_joined (option : ValueOption) (value : ByteString) :
    readArgument (option.joined ++ value) = .alone (.value option value) := by
  cases option <;> rfl

theorem readArgument_alone {arg : ByteString} {setting : Setting}
    (hread : readArgument arg = .alone setting) :
    (∃ flag, arg ∈ flag.spellings ∧ .flag flag = setting) ∨
      ∃ option value, ValueOption.joined option ++ value = arg ∧ .value option value = setting := by
  unfold readArgument at hread
  split at hread
  · cases hread
  · rename_i flag hfound
    have hbranch : takesBranch arg (.inl flag) = true :=
      @List.find?_some _ (takesBranch arg) _ _ hfound
    left
    exact ⟨flag, List.contains_iff_mem.mp hbranch, Reading.alone.inj hread⟩
  · rename_i option hfound
    right
    unfold requireValue at hread
    split at hread
    · rename_i hprefix
      obtain ⟨value, rfl⟩ := List.isPrefixOf_iff_prefix.mp hprefix
      refine ⟨option, value, rfl, ?_⟩
      rw [← Reading.alone.inj hread, List.drop_left]
    · cases hread

theorem readArgument_withNext {arg : ByteString} {make : ByteString → Setting}
    (hread : readArgument arg = .withNext make) :
    ∃ option, ValueOption.name option = arg ∧ .value option = make := by
  unfold readArgument at hread
  split at hread
  · cases hread
  · cases hread
  · rename_i option hfound
    have hmatches : optionMatches arg option = true :=
      @List.find?_some _ (takesBranch arg) _ _ hfound
    unfold requireValue at hread
    split at hread
    · cases hread
    · rename_i hseparate
      refine ⟨option, ?_, Reading.withNext.inj hread⟩
      have harg : arg = option.name := by
        simpa [optionMatches, hseparate] using hmatches
      exact harg.symm

/-- The phrases that the loop reads are the settings as they are written. -/
theorem exists_argument (phrase : Phrase readArgument) :
    ∃ argument : Argument, argument.words = phrase.words ∧ argument.setting = phrase.setting := by
  cases phrase with
  | alone word setting hword =>
      rcases readArgument_alone hword with ⟨flag, hflag, rfl⟩ | ⟨option, value, rfl, rfl⟩
      · exact ⟨.flag flag word hflag, rfl, rfl⟩
      · exact ⟨.joined option value, rfl, rfl⟩
  | withNext word value make hword =>
      obtain ⟨option, rfl, rfl⟩ := readArgument_withNext hword
      exact ⟨.separate option value, rfl, rfl⟩

theorem exists_phrase (argument : Argument) :
    ∃ phrase : Phrase readArgument,
      phrase.words = argument.words ∧ phrase.setting = argument.setting := by
  cases argument with
  | flag flag spelling hspelling =>
      exact ⟨.alone spelling _ (readArgument_spelling hspelling), rfl, rfl⟩
  | joined option value => exact ⟨.alone _ _ (readArgument_joined option value), rfl, rfl⟩
  | separate option value =>
      exact ⟨.withNext _ value _ (readArgument_name option), rfl, rfl⟩

/-- The accepted arguments are the settings as they are written, in any order
and number, and what comes of them is what the settings say. -/
theorem parseArgs_ok_iff (ulongMax : ℕ) (args : List ByteString) (opt : CLIOptions) :
    parseArgs ulongMax args = .ok opt ↔
      if args = [] then opt = { CLIOptions.initial with help := true }
      else ∃ arguments : List Argument, arguments.flatMap Argument.words = args ∧
        (∀ argument ∈ arguments, argument.setting.IsReadable ulongMax) ∧
        optionsOf ulongMax (arguments.map Argument.setting) = opt := by
  unfold parseArgs
  split
  · rw [Except.ok.injEq, eq_comm]
  · rw [scan_eq_ok_iff]
    simp only [foldlM_set, List.forall_mem_map]
    constructor
    · rintro ⟨phrases, hwords, hreadable, hopt⟩
      choose argument hargument hsetting using exists_argument
      refine ⟨phrases.map argument, ?_, ?_, ?_⟩
      · simpa [List.flatMap_map, hargument] using hwords
      · simpa [hsetting] using hreadable
      · simpa [List.map_map, Function.comp_def, hsetting] using hopt
    · rintro ⟨arguments, hwords, hreadable, hopt⟩
      choose phrase hphrase hsetting using exists_phrase
      refine ⟨arguments.map phrase, ?_, ?_, ?_⟩
      · simpa [List.flatMap_map, hphrase] using hwords
      · simpa [hsetting] using hreadable
      · simpa [List.map_map, Function.comp_def, hsetting] using hopt

example : parseArgs (2 ^ 32 - 1) [ascii "enc", ascii "--key", ascii "--iv",
    ascii "--key=00", ascii "--nopad", ascii "--padding"] =
    .ok { CLIOptions.initial with
      encrypt := true, keyHex := ascii "00", padding := true, paddingSet := true } := by decide

end ShoppingWeb.Evp
