import Mathlib.Data.List.Basic
import Mathlib.Logic.Function.Basic

/-!
# Ideal authenticated encryption

An ideal scheme opens what has been sealed and nothing else.  The log holds the
sealings so far, and opening looks a ciphertext up in it.
-/

namespace ShoppingWeb.IdealAead

/-- A plaintext that was sealed under a key and an IV. -/
structure Sealing (Key Iv Plaintext : Type*) where
  key : Key
  iv : Iv
  plaintext : Plaintext

variable {Key Iv Plaintext Ciphertext : Type*}
  [DecidableEq Key] [DecidableEq Iv] [DecidableEq Ciphertext]

def openLogged (encrypt : Key → Iv → Plaintext → Ciphertext)
    (log : List (Sealing Key Iv Plaintext)) (key : Key) (iv : Iv) (ciphertext : Ciphertext) :
    Option Plaintext :=
  (log.find? fun sealing => decide (sealing.key = key ∧ sealing.iv = iv ∧
    encrypt key iv sealing.plaintext = ciphertext)).map Sealing.plaintext

variable {encrypt : Key → Iv → Plaintext → Ciphertext} {log : List (Sealing Key Iv Plaintext)}
  {key : Key} {iv : Iv} {ciphertext : Ciphertext}

/-- Whatever opens was sealed under that key and IV. -/
theorem mem_of_openLogged {plaintext : Plaintext}
    (hopen : openLogged encrypt log key iv ciphertext = some plaintext) :
    ⟨key, iv, plaintext⟩ ∈ log ∧ encrypt key iv plaintext = ciphertext := by
  obtain ⟨sealing, hfind, rfl⟩ := Option.map_eq_some_iff.mp hopen
  have hmem := List.mem_of_find?_eq_some hfind
  have hfound := List.find?_some hfind
  obtain ⟨rfl, rfl, hcipher⟩ := of_decide_eq_true hfound
  exact ⟨hmem, hcipher⟩

/-- Where ciphertexts determine their plaintexts, what was sealed opens to it. -/
theorem openLogged_eq_some_iff (hencrypt : Function.Injective (encrypt key iv))
    {plaintext : Plaintext} :
    openLogged encrypt log key iv ciphertext = some plaintext ↔
      ⟨key, iv, plaintext⟩ ∈ log ∧ encrypt key iv plaintext = ciphertext := by
  constructor
  · exact mem_of_openLogged
  · rintro ⟨hmem, rfl⟩
    cases hopen : openLogged encrypt log key iv (encrypt key iv plaintext) with
    | some other => rw [hencrypt (mem_of_openLogged hopen).2]
    | none =>
        rw [openLogged, Option.map_eq_none_iff, List.find?_eq_none] at hopen
        exact absurd (decide_eq_true ⟨rfl, rfl, rfl⟩) (hopen _ hmem)

end ShoppingWeb.IdealAead
