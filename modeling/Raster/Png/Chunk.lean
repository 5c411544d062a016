import Raster.Bytes

set_option autoImplicit false

/-!
# PNG chunk types

A PNG file after its signature is a sequence of chunks: a 4-byte big-endian length, a 4-byte
type, the data, and a CRC-32 of type and data. Bit 5 of each type byte is a property flag: an
uppercase first letter marks a chunk a decoder must understand (critical), the second a public
type, the third the reserved bit, the fourth a chunk that editors may not copy blindly.

Messages show a type as a record of its four letters and the four flags. A letter outside
printable text is shown escaped, so that any four bytes have one readable spelling.
-/

namespace Raster.Png

/-- The four bytes that name a chunk's type. -/
structure ChunkKind where
  b0 : UInt8
  b1 : UInt8
  b2 : UInt8
  b3 : UInt8
  deriving DecidableEq, Repr, Inhabited

namespace ChunkKind

/-- The chunk type stored at offset `i`. -/
def read (b : ByteArray) (i : Nat) : ChunkKind :=
  ⟨Bytes.byteAt b i, Bytes.byteAt b (i + 1), Bytes.byteAt b (i + 2), Bytes.byteAt b (i + 3)⟩

/-- The four bytes, as they are written. -/
def bytes (k : ChunkKind) : ByteArray :=
  ⟨#[k.b0, k.b1, k.b2, k.b3]⟩

/-- The image header, "IHDR". -/
def header : ChunkKind := ⟨73, 72, 68, 82⟩
/-- The palette, "PLTE". -/
def palette : ChunkKind := ⟨80, 76, 84, 69⟩
/-- Compressed image data, "IDAT". -/
def data : ChunkKind := ⟨73, 68, 65, 84⟩
/-- The end of the image, "IEND". -/
def trailer : ChunkKind := ⟨73, 69, 78, 68⟩
/-- Transparency, "tRNS". -/
def transparency : ChunkKind := ⟨116, 82, 78, 83⟩
/-- The image gamma, "gAMA". -/
def gamma : ChunkKind := ⟨103, 65, 77, 65⟩
/-- The primary chromaticities, "cHRM". -/
def chromaticities : ChunkKind := ⟨99, 72, 82, 77⟩
/-- The rendering intent of an sRGB image, "sRGB". -/
def standardRgb : ChunkKind := ⟨115, 82, 71, 66⟩
/-- The physical pixel size, "pHYs". -/
def physicalSize : ChunkKind := ⟨112, 72, 89, 115⟩
/-- Latin-1 text, "tEXt". -/
def text : ChunkKind := ⟨116, 69, 88, 116⟩
/-- Compressed Latin-1 text, "zTXt". -/
def compressedText : ChunkKind := ⟨122, 84, 88, 116⟩
/-- International text, "iTXt". -/
def internationalText : ChunkKind := ⟨105, 84, 88, 116⟩
/-- An embedded colour profile, "iCCP". -/
def colorProfile : ChunkKind := ⟨105, 67, 67, 80⟩
/-- The animation control, "acTL". -/
def animationControl : ChunkKind := ⟨97, 99, 84, 76⟩
/-- The control of one animation frame, "fcTL". -/
def frameControl : ChunkKind := ⟨102, 99, 84, 76⟩
/-- The image data of an animation frame after its sequence number, "fdAT". -/
def frameData : ChunkKind := ⟨102, 100, 65, 84⟩
/-- The significant bits of each channel, "sBIT". -/
def significantBits : ChunkKind := ⟨115, 66, 73, 84⟩

/-- Whether a letter has its property bit (bit 5) set. -/
def flag (b : UInt8) : Bool := (b.toNat / 32) % 2 == 1

/-- A decoder must understand the chunk: the first letter is uppercase. -/
def isCritical (k : ChunkKind) : Bool := !flag k.b0
/-- The type is not registered publicly: the second letter is lowercase. -/
def isPrivate (k : ChunkKind) : Bool := flag k.b1
/-- The reserved bit, lowercase third letter. -/
def isReserved (k : ChunkKind) : Bool := flag k.b2
/-- Editors may copy the chunk unchanged: the fourth letter is lowercase. -/
def isSafeToCopy (k : ChunkKind) : Bool := flag k.b3

/-- Lowercase hexadecimal digits of `n`, without leading zeros. -/
def hexDigits (n : Nat) : String :=
  String.ofList (Nat.toDigits 16 n)

/-- **How one type byte is shown.** The byte is read as the character with the same code. Quotes,
backslash, tab, line feed, carriage return and NUL get a backslash escape; other control
characters, the range from DEL through the no-break space, and the soft hyphen are shown as a
braced hexadecimal code; every other character is shown as itself. -/
def showByte (b : UInt8) : String :=
  let n := b.toNat
  if n == 0 then "\\0"
  else if n == 9 then "\\t"
  else if n == 10 then "\\n"
  else if n == 13 then "\\r"
  else if n == 34 then "\\\""
  else if n == 39 then "\\\x27"
  else if n == 92 then "\\\\"
  else if n < 32 || (127 ≤ n && n ≤ 160) || n == 173 then "\\u\x7b" ++ hexDigits n ++ "\x7d"
  else String.singleton (Char.ofNat n)

/-- The type's four letters, escaped where needed. -/
def letters (k : ChunkKind) : String :=
  showByte k.b0 ++ showByte k.b1 ++ showByte k.b2 ++ showByte k.b3

/-- Text of a flag value. -/
def showFlag (v : Bool) : String := if v then "true" else "false"

/-- The type as messages show it: its letters and its four flags. -/
def describe (k : ChunkKind) : String :=
  "ChunkType \x7b type: " ++ k.letters ++ ", critical: " ++ showFlag k.isCritical ++
    ", private: " ++ showFlag k.isPrivate ++ ", reserved: " ++ showFlag k.isReserved ++
    ", safecopy: " ++ showFlag k.isSafeToCopy ++ " \x7d"

end ChunkKind

end Raster.Png
