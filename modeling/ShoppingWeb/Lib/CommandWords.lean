import Mathlib.Data.List.Basic
import Mathlib.Data.List.Induction

/-!
# Command lines as lists of words

A word of a command line stands alone, takes the next word with it, or is not
known.  A scan reads the words from left to right and lets each setting change a
state; the command lines it accepts are the concatenations of phrases of one or
two words.
-/

namespace ShoppingWeb.CommandWords

variable {Word Setting State Error : Type*}

/-- What a word is when a phrase begins with it. -/
inductive Reading (Word Setting : Type*) where
  | alone (setting : Setting)
  | withNext (make : Word → Setting)
  | unknown

/-- Words that make one setting. -/
inductive Phrase (classify : Word → Reading Word Setting) where
  | alone (word : Word) (setting : Setting) (hword : classify word = .alone setting)
  | withNext (word value : Word) (make : Word → Setting) (hword : classify word = .withNext make)

namespace Phrase

variable {classify : Word → Reading Word Setting}

def words : Phrase classify → List Word
  | .alone word _ _ => [word]
  | .withNext word value _ _ => [word, value]

def setting : Phrase classify → Setting
  | .alone _ setting _ => setting
  | .withNext _ value make _ => make value

end Phrase

section Scan

variable (classify : Word → Reading Word Setting) (apply : State → Setting → Except Error State)
  (missing unknown : Word → Error)

def scan : List Word → State → Except Error State
  | [], state => .ok state
  | word :: rest, state =>
      match classify word with
      | .alone setting => apply state setting >>= scan rest
      | .withNext make =>
          match rest with
          | [] => .error (missing word)
          | value :: rest => apply state (make value) >>= scan rest
      | .unknown => .error (unknown word)

variable {classify apply missing unknown}

/-- A phrase is read first, whatever follows it. -/
theorem scan_phrase (phrase : Phrase classify) (rest : List Word) (state : State) :
    scan classify apply missing unknown (phrase.words ++ rest) state =
      apply state phrase.setting >>= scan classify apply missing unknown rest := by
  cases phrase with
  | alone word setting hword =>
      simp only [Phrase.words, List.singleton_append, scan, hword, Phrase.setting]
  | withNext word value make hword =>
      simp only [Phrase.words, List.cons_append, List.nil_append, scan, hword, Phrase.setting]

theorem scan_phrases (phrases : List (Phrase classify)) (state : State) :
    scan classify apply missing unknown (phrases.flatMap Phrase.words) state =
      (phrases.map Phrase.setting).foldlM apply state := by
  induction phrases generalizing state with
  | nil => rw [List.flatMap_nil, scan]; rfl
  | cons phrase phrases ih =>
      rw [List.flatMap_cons, scan_phrase, List.map_cons, List.foldlM_cons]
      exact bind_congr ih

/-- A setting that is refused stops the scan. -/
theorem exists_state_of_bind {outcome : Except Error State} {next : State → Except Error State}
    {after : State} (hbind : (outcome >>= next) = .ok after) :
    ∃ middle, next middle = .ok after := by
  cases outcome with
  | error error => cases hbind
  | ok middle => exact ⟨middle, hbind⟩

/-- Whatever is accepted consists of phrases. -/
theorem exists_phrases_of_scan (words : List Word) {state after : State}
    (hscan : scan classify apply missing unknown words state = .ok after) :
    ∃ phrases : List (Phrase classify), phrases.flatMap Phrase.words = words := by
  -- A phrase has one word or two, so the rest is one of the two shorter lists.
  induction words using List.twoStepInduction generalizing state with
  | nil => exact ⟨[], rfl⟩
  | singleton word =>
      rw [scan] at hscan
      split at hscan
      · rename_i setting hword
        exact ⟨[.alone word setting hword], rfl⟩
      · cases hscan
      · cases hscan
  | cons_cons word value rest ihRest ihNext =>
      rw [scan] at hscan
      split at hscan
      · rename_i setting hword
        obtain ⟨middle, hnext⟩ := exists_state_of_bind hscan
        obtain ⟨phrases, hphrases⟩ := ihNext value hnext
        exact ⟨.alone word setting hword :: phrases, congrArg (word :: ·) hphrases⟩
      · rename_i make hword
        obtain ⟨middle, hnext⟩ := exists_state_of_bind hscan
        obtain ⟨phrases, hphrases⟩ := ihRest hnext
        exact ⟨.withNext word value make hword :: phrases,
          congrArg (word :: value :: ·) hphrases⟩
      · cases hscan

/-- The accepted command lines and what they come to. -/
theorem scan_eq_ok_iff (words : List Word) {state after : State} :
    scan classify apply missing unknown words state = .ok after ↔
      ∃ phrases : List (Phrase classify), phrases.flatMap Phrase.words = words ∧
        (phrases.map Phrase.setting).foldlM apply state = .ok after := by
  constructor
  · intro hscan
    obtain ⟨phrases, rfl⟩ := exists_phrases_of_scan words hscan
    exact ⟨phrases, rfl, (scan_phrases phrases state).symm.trans hscan⟩
  · rintro ⟨phrases, rfl, hsettings⟩
    exact (scan_phrases phrases state).trans hsettings

end Scan

end ShoppingWeb.CommandWords
