import Mathlib.Data.List.Basic
import Mathlib.Algebra.Order.Group.Nat

/-!
# Padding to whole blocks

A message is filled up to a multiple of the block size with bytes that say how
many they are.  There is always at least one of them, so the padding can be
found at the end of any padded message and nowhere else.
-/

namespace ShoppingWeb.Padding

/-- How many bytes fill the last block. -/
def fill (blockSize length : ℕ) : ℕ := blockSize - length % blockSize

def pad (blockSize : ℕ) (message : List UInt8) : List UInt8 :=
  let count := fill blockSize message.length
  message ++ List.replicate count (UInt8.ofNat count)

/-- The last byte says how many bytes to take off, all of them like it. -/
def unpad (blockSize : ℕ) (padded : List UInt8) : Option (List UInt8) :=
  match padded.getLast? with
  | none => none
  | some last =>
      let count := last.toNat
      let kept := padded.length - count
      if 0 < count ∧ count ≤ blockSize ∧ count ≤ padded.length ∧
          padded.drop kept = List.replicate count last then
        some (padded.take kept)
      else none

variable {blockSize : ℕ} {message padded : List UInt8}

theorem fill_pos (hpos : 0 < blockSize) (length : ℕ) : 0 < fill blockSize length :=
  Nat.sub_pos_of_lt (Nat.mod_lt length hpos)

theorem fill_le (blockSize length : ℕ) : fill blockSize length ≤ blockSize :=
  Nat.sub_le _ _

theorem dvd_add_fill (hpos : 0 < blockSize) (length : ℕ) :
    blockSize ∣ length + fill blockSize length := by
  have hsum : length + fill blockSize length =
      blockSize * (length / blockSize) + blockSize := by
    have hlength := Nat.div_add_mod length blockSize
    have hrest := Nat.mod_lt length hpos
    unfold fill
    omega
  rw [hsum]
  exact Nat.dvd_add (Nat.dvd_mul_right _ _) (Nat.dvd_refl _)

/-- No other number of bytes between one and a block will do. -/
theorem eq_fill_of_dvd {length count : ℕ} (hpos : 0 < count) (hle : count ≤ blockSize)
    (hdvd : blockSize ∣ length + count) : count = fill blockSize length := by
  have hblock : 0 < blockSize := hpos.trans_le hle
  have hrest := Nat.mod_lt length hblock
  have hlength := Nat.div_add_mod length blockSize
  have hpart : blockSize ∣ length % blockSize + count := by
    have hwhole : blockSize ∣ blockSize * (length / blockSize) := Nat.dvd_mul_right _ _
    apply (Nat.dvd_add_right hwhole).mp
    rwa [← Nat.add_assoc, hlength]
  obtain ⟨factor, hfactor⟩ := hpart
  have hone : factor = 1 := by
    have hlow : 0 < factor := by
      apply Nat.pos_of_ne_zero
      rintro rfl
      omega
    have hhigh : factor < 2 := by
      by_contra hlarge
      have htwo : blockSize * 2 ≤ blockSize * factor :=
        Nat.mul_le_mul_left blockSize (Nat.le_of_not_lt hlarge)
      omega
    omega
  subst hone
  unfold fill
  omega

@[simp]
theorem length_pad (blockSize : ℕ) (message : List UInt8) :
    (pad blockSize message).length = message.length + fill blockSize message.length := by
  simp [pad]

theorem dvd_length_pad (hpos : 0 < blockSize) (message : List UInt8) :
    blockSize ∣ (pad blockSize message).length := by
  rw [length_pad]
  exact dvd_add_fill hpos message.length

theorem take_pad (blockSize : ℕ) {count : ℕ} (hcount : count ≤ message.length) :
    (pad blockSize message).take count = message.take count :=
  List.take_append_of_le_length hcount

/-- Only the last block is padded. -/
theorem pad_append {whole : List UInt8} (hwhole : blockSize ∣ whole.length)
    (rest : List UInt8) : pad blockSize (whole ++ rest) = whole ++ pad blockSize rest := by
  have hfill : fill blockSize (whole ++ rest).length = fill blockSize rest.length := by
    obtain ⟨factor, hfactor⟩ := hwhole
    simp [fill, hfactor]
  simp only [pad, hfill, List.append_assoc]

theorem unpad_pad (hpos : 0 < blockSize) (hbyte : blockSize < 256) (message : List UInt8) :
    unpad blockSize (pad blockSize message) = some message := by
  have hcount := fill_pos hpos message.length
  have hle := fill_le blockSize message.length
  have hvalue : (UInt8.ofNat (fill blockSize message.length)).toNat =
      fill blockSize message.length :=
    UInt8.toNat_ofNat_of_lt' (hle.trans_lt hbyte)
  have hlast : (pad blockSize message).getLast? =
      some (UInt8.ofNat (fill blockSize message.length)) := by
    simp [pad, List.getLast?_append, List.getLast?_replicate, hcount.ne']
  rw [unpad, hlast]
  simp only [hvalue]
  rw [if_pos]
  · simp [pad]
  · simp [pad, hcount, hle]

/-- Whatever is taken off is the padding of what is left. -/
theorem pad_of_unpad (hdvd : blockSize ∣ padded.length)
    (hunpad : unpad blockSize padded = some message) : pad blockSize message = padded := by
  unfold unpad at hunpad
  split at hunpad
  · cases hunpad
  · rename_i last hlast
    simp only [Option.ite_none_right_eq_some, Option.some.injEq] at hunpad
    obtain ⟨⟨hpos, hle, hfits, hdrop⟩, rfl⟩ := hunpad
    have hkept : (padded.take (padded.length - last.toNat)).length =
        padded.length - last.toNat := by
      simp
    have hcount :
        last.toNat = fill blockSize (padded.take (padded.length - last.toNat)).length := by
      apply eq_fill_of_dvd hpos hle
      rw [hkept, Nat.sub_add_cancel hfits]
      exact hdvd
    rw [pad, ← hcount, UInt8.ofNat_toNat, ← hdrop, List.take_append_drop]

theorem unpad_eq_some_iff (hpos : 0 < blockSize) (hbyte : blockSize < 256)
    (hdvd : blockSize ∣ padded.length) :
    unpad blockSize padded = some message ↔ pad blockSize message = padded := by
  constructor
  · exact pad_of_unpad hdvd
  · rintro rfl
    exact unpad_pad hpos hbyte message

end ShoppingWeb.Padding
