import Raster.Png.Fault

set_option autoImplicit false

/-!
# The layout of text chunks

A text chunk starts with a keyword of 1 to 79 Latin-1 bytes and a zero byte. In tEXt the rest is
Latin-1 text, which any bytes are. In zTXt a compression method byte follows, which must be 0,
and then compressed text. In iTXt a compression flag (0 or 1) and a compression method follow,
then a language tag and a localized keyword, each ended by a zero byte, and then the text. The
language tag must be ASCII and the localized keyword UTF-8, and so must the text when it is not
compressed; the method must be 0 when it is.

A reader checks the layout of each text chunk it meets but does not inflate compressed text, so
compressed text that is not a valid stream passes. The checks here come in the order the reader
makes them: first the fields are split at their zero bytes, then their contents are checked.
-/

namespace Raster.Png

/-- The index of the first zero byte of `d` at or after `i`, looking at `fuel` bytes at most. -/
def zeroFrom (d : ByteArray) : Nat → Nat → Option Nat
  | 0, _ => none
  | fuel + 1, i =>
    if i ≥ d.size then none
    else if Bytes.get d i == 0 then some i
    else zeroFrom d fuel (i + 1)

/-- The index of the first zero byte of `d` at or after `i`. -/
def findZero (d : ByteArray) (i : Nat) : Option Nat :=
  zeroFrom d (d.size - i) i

/-- Whether every byte is below 128. -/
def isAscii (b : ByteArray) : Bool :=
  b.data.all (· < 128)

/-- Whether the bytes are UTF-8. -/
def isUtf8 (b : ByteArray) : Bool :=
  (String.fromUTF8? b).isSome

/-- The end of the keyword: the index of its zero byte, which must be 1 to 79. -/
def keywordEnd (d : ByteArray) : Except TextFault Nat :=
  match findZero d 0 with
  | none => .error .missingNullSeparator
  | some k => if k == 0 || k > 79 then .error .keywordSize else .ok k

/-- **Checks a tEXt chunk**: a keyword and its zero byte; the text is Latin-1, which any bytes
are. -/
def checkText (d : ByteArray) : Except TextFault Unit := do
  let _ ← keywordEnd d

/-- **Checks a zTXt chunk**: a keyword, its zero byte, and compression method 0. -/
def checkCompressedText (d : ByteArray) : Except TextFault Unit := do
  let k ← keywordEnd d
  if k + 1 ≥ d.size then throw .compressionMethod
  if Bytes.get d (k + 1) != 0 then throw .compressionMethod

/-- **Checks an iTXt chunk**: the keyword, the compression flag and method, the language tag and
the localized keyword are split off, and then checked in that order together with the text. -/
def checkInternationalText (d : ByteArray) : Except TextFault Unit := do
  let k ← keywordEnd d
  if k + 1 ≥ d.size then throw .missingCompressionFlag
  if k + 2 ≥ d.size then throw .compressionMethod
  let flag := Bytes.get d (k + 1)
  let method := Bytes.get d (k + 2)
  let some tagEnd := findZero d (k + 3) | throw .missingNullSeparator
  let some wordEnd := findZero d (tagEnd + 1) | throw .missingNullSeparator
  if flag > 1 then throw .compressionFlag
  if flag == 1 && method != 0 then throw .compressionMethod
  if !isAscii (d.extract (k + 3) tagEnd) then throw .unrepresentable
  if !isUtf8 (d.extract (tagEnd + 1) wordEnd) then throw .unrepresentable
  if flag == 0 && !isUtf8 (d.extract (wordEnd + 1) d.size) then throw .unrepresentable

end Raster.Png
