import Raster.Png.Fault

set_option autoImplicit false

/-!
# The PNG image header

The first chunk of a PNG file gives the width, height, bit depth, colour type, compression,
filter and interlace methods. Reading it checks the fields in that order and stops at the first
bad one; a field the chunk is too short to hold is reported as a short chunk.

From the header follow the shape of every scanline: bits per pixel, bytes per row of a given
width, and the byte distance that the filters look back.
-/

namespace Raster.Png

/-- What the image header says. -/
structure Header where
  width : Nat
  height : Nat
  depth : BitDepth
  color : ColorType
  interlaced : Bool
  deriving DecidableEq, Repr

namespace Header

/-- **Reads the image header** from the header chunk's data. -/
def parse (d : ByteArray) : Except PngFault Header := do
  let short : PngFault := .tooShort ChunkKind.header
  if d.size < 4 then throw short
  let width := Bytes.u32be d 0
  if d.size < 8 then throw short
  let height := Bytes.u32be d 4
  if width == 0 || height == 0 then throw .dimensions
  if d.size < 9 then throw short
  let depthCode := Bytes.get d 8
  let some depth := BitDepth.ofCode? depthCode | throw (.bitDepth depthCode)
  if d.size < 10 then throw short
  let colorCode := Bytes.get d 9
  let some color := ColorType.ofCode? colorCode | throw (.colorType colorCode)
  if !color.allows depth then throw (.colorDepth color depth)
  if d.size < 11 then throw short
  let compression := Bytes.get d 10
  if compression != 0 then throw (.compressionMethod compression)
  if d.size < 12 then throw short
  let filter := Bytes.get d 11
  if filter != 0 then throw (.filterMethod filter)
  if d.size < 13 then throw short
  let interlace := Bytes.get d 12
  if interlace > 1 then throw (.interlaceMethod interlace)
  return ⟨width, height, depth, color, interlace == 1⟩

/-- Bits one pixel takes in a scanline. -/
def bitsPerPixel (h : Header) : Nat :=
  h.color.samples * h.depth.bits

/-- Bytes of one scanline of `w` pixels, without its filter byte. -/
def rowBytes (h : Header) (w : Nat) : Nat :=
  (w * h.bitsPerPixel + 7) / 8

/-- How far back the filters look: the bytes of one pixel, at least one. -/
def filterStride (h : Header) : Nat :=
  max 1 (h.bitsPerPixel / 8)

/-- The bound a reader first sets on the inflated image data: the scanlines of the whole image
with their filter bytes, exact for an image that is not interlaced, and twice that for an
interlaced one, whose passes take more filter bytes and padding. The output may go past it: the
bound only sizes the first buffers. -/
def dataBound (h : Header) : Nat :=
  h.height * (1 + h.rowBytes h.width) * (if h.interlaced then 2 else 1)

end Header

end Raster.Png
