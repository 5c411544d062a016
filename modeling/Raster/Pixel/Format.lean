set_option autoImplicit false

/-!
# Pixel formats

A surface stores its pixels in one of six layouts (`PixelFormat`). Three are packed: RGB565 in
either byte order, and three bytes of red, green and blue. Three are indexed: each pixel cell starts
with a one-byte index into a 256-entry palette whose entries are RGB565 (either byte order) or three
RGB bytes.

A format also has a one-byte code for display and overlay consumers (`PixelFormat::to_raw`). The
code is built from four flag bits, and reading a code back (`PixelFormat::from_raw`) accepts exactly
the six codes that formats have.
-/

namespace Raster

/-- How a surface lays out its pixels. -/
inductive PixelFormat where
  | rgb565Le
  | rgb565Be
  | rgb888
  | pal565Le
  | pal565Be
  | pal888
  deriving DecidableEq, Repr, Inhabited

namespace PixelFormat

/-- Every format, in the order that code lookup tries them. -/
def all : List PixelFormat :=
  [rgb565Le, rgb565Be, rgb888, pal565Le, pal565Be, pal888]

/-- The format's name, as messages and the wire protocol spell it. -/
def name : PixelFormat → String
  | rgb565Le => "Rgb565Le"
  | rgb565Be => "Rgb565Be"
  | rgb888 => "Rgb888"
  | pal565Le => "Pal565Le"
  | pal565Be => "Pal565Be"
  | pal888 => "Pal888"

/-- The format with a given name; names are case-sensitive. -/
def ofName? (s : String) : Option PixelFormat :=
  all.find? fun f => f.name == s

/-- Bytes in one pixel cell; a row of a surface is its width times this. -/
def bytesPerPixel : PixelFormat → Nat
  | rgb888 | pal888 => 3
  | _ => 2

/-- Whether pixels are indices into a palette. -/
def isPalette : PixelFormat → Bool
  | pal565Le | pal565Be | pal888 => true
  | _ => false

/-- Whether RGB565 values, packed or in the palette, are stored most significant byte first. -/
def isBigEndian : PixelFormat → Bool
  | rgb565Be | pal565Be => true
  | _ => false

/-- Bytes in one palette entry, `0` for packed formats. -/
def paletteEntrySize : PixelFormat → Nat
  | pal565Le | pal565Be => 2
  | pal888 => 3
  | _ => 0

/-- Bytes in a whole palette of 256 entries, `0` for packed formats. -/
def paletteLen (f : PixelFormat) : Nat :=
  256 * f.paletteEntrySize

/-! ## The one-byte code -/

/-- Set in the code of every format. -/
def formatBit : Nat := 0x10
/-- Set for indexed formats. -/
def paletteBit : Nat := 0x08
/-- Set for little-endian RGB565 storage. -/
def littleEndianBit : Nat := 0x04
/-- Set for three-byte colours. -/
def rgb888Bit : Nat := 0x01

/-- The format's one-byte code: the format bit with the bits that describe the layout. -/
def code : PixelFormat → Nat
  | rgb565Le => formatBit + littleEndianBit
  | rgb565Be => formatBit
  | rgb888 => formatBit + rgb888Bit
  | pal565Le => formatBit + paletteBit + littleEndianBit
  | pal565Be => formatBit + paletteBit
  | pal888 => formatBit + paletteBit + rgb888Bit

/-- The format whose code is `c`, if any. -/
def ofCode? (c : Nat) : Option PixelFormat :=
  all.find? fun f => f.code == c

theorem ofCode?_code (f : PixelFormat) : ofCode? f.code = some f := by
  cases f <;> rfl

theorem ofName?_name (f : PixelFormat) : ofName? f.name = some f := by
  cases f <;> rfl

theorem paletteLen_pos_iff (f : PixelFormat) : 0 < f.paletteLen ↔ f.isPalette = true := by
  cases f <;> decide

end PixelFormat

end Raster
