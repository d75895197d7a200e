import Mathlib.Data.Nat.Size
import Mathlib.Tactic.NormNum
import Mathlib.Tactic.Positivity

/-!
# Encodings of an ECDSA signature

A P-256 signature is a pair of numbers.  WebCrypto writes them as two blocks
of 32 bytes, `java.security` reads a DER sequence of two integers.  No
signature has the same bytes in both encodings, and few blocks read as the
sequence of another one.
-/

namespace ShoppingWeb

/-- The two numbers of a P-256 signature. -/
structure EcdsaSignature where
  r : ℕ
  s : ℕ
  r_lt : r < 2 ^ 256
  s_lt : s < 2 ^ 256

namespace EcdsaSignature

/-- The lowest bytes of a number, most significant first. -/
def bigEndian (length value : ℕ) : List UInt8 :=
  (List.range length).map fun index => UInt8.ofNat (value / 256 ^ (length - 1 - index))

/-- IEEE P1363: the blocks of `r` and `s` one after the other. -/
def rawBytes (signature : EcdsaSignature) : List UInt8 :=
  bigEndian 32 signature.r ++ bigEndian 32 signature.s

/-- The bytes of a non-negative two's complement number. -/
def contentLength (value : ℕ) : ℕ :=
  value.size / 8 + 1

def derInteger (value : ℕ) : List UInt8 :=
  2 :: UInt8.ofNat (contentLength value) :: bigEndian (contentLength value) value

/-- The DER sequence of `r` and `s`; its length fits one byte. -/
def derBytes (signature : EcdsaSignature) : List UInt8 :=
  let content := derInteger signature.r ++ derInteger signature.s
  48 :: UInt8.ofNat content.length :: content

@[simp]
theorem length_bigEndian (length value : ℕ) : (bigEndian length value).length = length := by
  simp [bigEndian]

theorem getElem?_bigEndian {length value index : ℕ} (hindex : index < length) :
    (bigEndian length value)[index]? =
      some (UInt8.ofNat (value / 256 ^ (length - 1 - index))) := by
  simp [bigEndian, hindex]

private theorem div_eq_of_byte {value : ℕ} {byte : UInt8} (hvalue : value < 2 ^ 256)
    (hbyte : UInt8.ofNat (value / 256 ^ 31) = byte) : value / 256 ^ 31 = byte.toNat := by
  have hlt : value / 256 ^ 31 < 256 := by
    rw [Nat.div_lt_iff_lt_mul (by positivity)]
    calc value < 2 ^ 256 := hvalue
      _ = 256 * 256 ^ 31 := by norm_num
  rw [← hbyte, UInt8.toNat_ofNat', Nat.mod_eq_of_lt hlt]

/-- A number whose 32-byte block starts with the tag of a DER sequence takes
32 bytes in DER as well. -/
private theorem contentLength_of_first_byte {value : ℕ} (hvalue : value < 2 ^ 256)
    (hfirst : UInt8.ofNat (value / 256 ^ 31) = 48) : contentLength value = 32 := by
  have hdiv : value / 256 ^ 31 = 48 := div_eq_of_byte hvalue hfirst
  have hlow : 2 ^ 253 ≤ value := by
    calc 2 ^ 253 ≤ 48 * 256 ^ 31 := by norm_num
      _ ≤ value := by rw [← hdiv]; exact Nat.div_mul_le_self value _
  have hhigh : value < 2 ^ 254 := by
    have hlt : value < (48 + 1) * 256 ^ 31 := by
      rw [← Nat.div_lt_iff_lt_mul (by positivity), hdiv]
      exact Nat.lt_succ_self 48
    calc value < (48 + 1) * 256 ^ 31 := hlt
      _ ≤ 2 ^ 254 := by norm_num
  have hupper : value.size ≤ 254 := Nat.size_le.mpr hhigh
  have hlower : 253 < value.size := Nat.lt_size.mpr hlow
  rw [contentLength]
  omega

/-- A number of at most 26 DER bytes has a zero among the first bytes of its
32-byte block. -/
private theorem fifth_byte_eq_zero {value : ℕ} (hlength : contentLength value = 26) :
    UInt8.ofNat (value / 256 ^ 27) = 0 := by
  have hsize : value.size ≤ 207 := by
    rw [contentLength] at hlength
    omega
  have hlt : value < 256 ^ 27 :=
    calc value < 2 ^ 207 := Nat.size_le.mp hsize
      _ ≤ 256 ^ 27 := by norm_num
  rw [Nat.div_eq_of_lt hlt]
  rfl

/-- Blocks that read as a DER sequence begin with its tag, the length of its
content and the tag of a number. -/
theorem r_div_of_rawBytes_eq_derBytes {signature read : EcdsaSignature}
    (hraw : signature.rawBytes = read.derBytes) : signature.r / 256 ^ 29 = 0x303E02 := by
  have hlength := congrArg List.length hraw
  simp only [rawBytes, derBytes, List.length_append, List.length_cons, length_bigEndian]
    at hlength
  have hbyte (index : ℕ) (hindex : index < 3) :
      some (UInt8.ofNat (signature.r / 256 ^ (31 - index))) = read.derBytes[index]? := by
    rw [← hraw, rawBytes, List.getElem?_append_left (by simp; omega),
      getElem?_bigEndian (by omega)]
  have hcontent : (derInteger read.r ++ derInteger read.s).length = 62 := by
    rw [List.length_append]
    omega
  have hfirst : UInt8.ofNat (signature.r / 256 ^ 31) = 48 := Option.some.inj (hbyte 0 (by decide))
  have hsecond : UInt8.ofNat (signature.r / 256 ^ 30) = 62 := by
    have hbyte := Option.some.inj (hbyte 1 (by decide))
    rwa [hcontent] at hbyte
  have hthird : UInt8.ofNat (signature.r / 256 ^ 29) = 2 := Option.some.inj (hbyte 2 (by decide))
  have hhigh := div_eq_of_byte signature.r_lt hfirst
  have hmiddle : signature.r / 256 ^ 30 % 256 = 62 := by simpa using congrArg UInt8.toNat hsecond
  have hlow : signature.r / 256 ^ 29 % 256 = 2 := by simpa using congrArg UInt8.toNat hthird
  have hhigh' : signature.r / 256 ^ 30 / 256 = 48 := by
    rw [Nat.div_div_eq_div_mul]
    exact hhigh
  have hmiddle' : signature.r / 256 ^ 29 / 256 = signature.r / 256 ^ 30 := by
    rw [Nat.div_div_eq_div_mul]
    rfl
  omega

/-- What WebCrypto writes never reads as the numbers it has written. -/
theorem rawBytes_ne_derBytes (signature : EcdsaSignature) :
    signature.rawBytes ≠ signature.derBytes := by
  intro heq
  have hfirst := congrArg (fun bytes => bytes[0]?) heq
  simp only [rawBytes, derBytes, List.getElem?_append_left (by simp : 0 < (bigEndian 32 _).length),
    getElem?_bigEndian (show 0 < 32 by norm_num), List.getElem?_cons_zero,
    Option.some.injEq] at hfirst
  have hr : contentLength signature.r = 32 := contentLength_of_first_byte signature.r_lt hfirst
  have hlength := congrArg List.length heq
  simp only [rawBytes, derBytes, derInteger, List.length_append, List.length_cons,
    length_bigEndian, hr] at hlength
  have hs : contentLength signature.s = 26 := by omega
  have hfifth := congrArg (fun bytes => bytes[36]?) heq
  simp only [rawBytes, derBytes, derInteger, hr, hs] at hfifth
  rw [List.getElem?_append_right (by simp), length_bigEndian,
    getElem?_bigEndian (by norm_num), List.getElem?_cons_succ, List.getElem?_cons_succ,
    List.getElem?_append_right (by simp)] at hfifth
  simp only [List.length_cons, length_bigEndian, Nat.reduceAdd, Nat.reduceSub,
    List.getElem?_cons_zero, Option.some.injEq] at hfifth
  rw [fifth_byte_eq_zero hs] at hfifth
  exact absurd hfifth (by decide)

end EcdsaSignature

end ShoppingWeb
