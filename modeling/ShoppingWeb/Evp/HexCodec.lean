import ShoppingWeb.Evp.ToolException

/-!
# The hex codec of the tools

`hex_to_bytes` and `bytes_to_hex`, which both tools have.  The scan looks one
character ahead to tell the digit 0 from a marker 0x.
-/

namespace ShoppingWeb.Evp

open ShoppingWeb.ByteText
open ShoppingWeb.Shared

def isHexSeparator (c : UInt8) : Bool := isSpace c || c == 0x3A || c == 0x2D || c == 0x5F

/-- One character of the scan, before what comes after it. -/
def scanHexCharacter (c : UInt8) (clean : Except ToolException ByteString) :
    Except ToolException ByteString :=
  if isXdigit c then clean.map (c :: ·)
  else if isHexSeparator c then clean
  else .error (.invalidArgument (ascii "Invalid character in hex string"))

/-- The digits of a hex string. -/
def cleanHex : ByteString → Except ToolException ByteString
  | [] => .ok []
  | [c] => scanHexCharacter c (.ok [])
  | c :: next :: hex =>
      if c = 0x30 ∧ (next = 0x78 ∨ next = 0x58) then cleanHex hex
      else scanHexCharacter c (cleanHex (next :: hex))

def hexValue (c : UInt8) : ℤ :=
  if 0x30 ≤ c ∧ c ≤ 0x39 then c.toNat - 0x30
  else if 0x61 ≤ c ∧ c ≤ 0x66 then 10 + c.toNat - 0x61
  else if 0x41 ≤ c ∧ c ≤ 0x46 then 10 + c.toNat - 0x41
  else -1

/-- Two digits a byte. -/
def pairHex : ByteString → Except ToolException Bytes
  | hi :: lo :: clean => do
      rejectWhen (hexValue hi < 0 ∨ hexValue lo < 0) (ascii "Invalid hex digit")
      let out ← pairHex clean
      .ok (UInt8.ofNat ((hexValue hi).toNat <<< 4 ||| (hexValue lo).toNat) :: out)
  | _ => .ok []

def hexToBytes (hex : ByteString) : Except ToolException Bytes := do
  let clean ← cleanHex hex
  rejectWhen (clean.length % 2 ≠ 0) (ascii "Hex string must contain an even number of digits")
  pairHex clean

def hexDigit (lowercase : Bool) (value : ℕ) : UInt8 :=
  if value < 10 then UInt8.ofNat (0x30 + value)
  else UInt8.ofNat ((if lowercase then 0x61 else 0x41) + (value - 10))

def bytesToHex (data : Bytes) (lowercase : Bool) : ByteString :=
  data.flatMap fun byte =>
    [hexDigit lowercase (byte.toNat / 16), hexDigit lowercase (byte.toNat % 16)]

def EVPAESDirectTool.hexToBytes (hex : ByteString) : Except ToolException Bytes :=
  Evp.hexToBytes hex

def EVPHashDirectTool.hexToBytes (hex : ByteString) : Except ToolException Bytes :=
  Evp.hexToBytes hex

def EVPAESDirectTool.bytesToHex (data : Bytes) (lowercase : Bool) : ByteString :=
  Evp.bytesToHex data lowercase

def EVPHashDirectTool.bytesToHex (data : Bytes) (lowercase : Bool) : ByteString :=
  Evp.bytesToHex data lowercase

example : hexToBytes (ascii "0xAb:0 c") = .ok [0xAB, 0x0C] := by decide

end ShoppingWeb.Evp
