set_option autoImplicit false

/-!
# Hexadecimal text

Bytes are written as two lowercase hexadecimal digits each, with no separator. Reading accepts
digits of either case and skips whitespace anywhere; it refuses any other character, and an odd
number of digits.
-/

namespace Raster.Hex

/-- The lowercase digit for a value below 16. -/
def digit (n : Nat) : Char :=
  if n < 10 then Char.ofNat (48 + n) else Char.ofNat (87 + n)

/-- **The hexadecimal text of a buffer.** -/
def encode (b : ByteArray) : String :=
  b.foldl (fun s x => (s.push (digit (x.toNat / 16))).push (digit (x.toNat % 16))) ""

/-- The value of a hexadecimal digit of either case. -/
def digitValue? (c : Char) : Option Nat :=
  if '0' ≤ c && c ≤ '9' then some (c.toNat - 48)
  else if 'a' ≤ c && c ≤ 'f' then some (c.toNat - 87)
  else if 'A' ≤ c && c ≤ 'F' then some (c.toNat - 55)
  else none

/-- Why text is not hexadecimal. -/
inductive Fault where
  | badDigit
  | oddLength
  deriving DecidableEq, Repr

/-- How a hexadecimal fault is worded. -/
def Fault.message : Fault → String
  | .badDigit => "bad hex digit"
  | .oddLength => "hex string has odd length"

/-- Pairs digits into bytes. -/
def pairUp : List Nat → ByteArray → Except Fault ByteArray
  | [], acc => .ok acc
  | [_], _ => .error .oddLength
  | hi :: lo :: rest, acc => pairUp rest (acc.push (hi * 16 + lo).toUInt8)

/-- **Reads hexadecimal text**, skipping whitespace. -/
def decode (s : String) : Except Fault ByteArray := do
  let chars := s.toList.filter fun c => !c.isWhitespace
  let digits ← chars.mapM fun c => match digitValue? c with
    | some v => .ok v
    | none => .error .badDigit
  pairUp digits (ByteArray.emptyWithCapacity (digits.length / 2))

end Raster.Hex
