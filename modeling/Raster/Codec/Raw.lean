import Raster.Convert

set_option autoImplicit false

/-!
# The raw565 container

A raw565 image is the width and the height as 16-bit little-endian numbers, followed by the
pixels as RGB565 little-endian values, row by row, with nothing between rows. It holds an
RGB565 little-endian surface exactly; surfaces of other formats are converted first.

Reading (`raw::decode`, with `parse_header` and `is_raw565`) checks that the length is exactly
what the header promises, then the caller's limits, and only then allocates the surface. Writing
is `raw::encode`.
-/

namespace Raster.Raw565

/-- Bytes before the pixels. -/
def headerLen : Nat := 4

/-- The width and height a container promises, if it has a header. -/
def header? (b : ByteArray) : Option (Nat × Nat) :=
  if b.size < headerLen then none else some (Bytes.u16le b 0, Bytes.u16le b 2)

/-- The length of a container for a `width × height` image. -/
def expectedLen (width height : Nat) : Nat :=
  width * height * 2 + headerLen

/-- Whether the bytes are exactly a header and the pixels it promises. -/
def fits (b : ByteArray) : Bool :=
  match header? b with
  | some (w, h) => expectedLen w h == b.size
  | none => false

/-- **Writes a surface as raw565**, converting it to RGB565 little-endian first if needed. -/
def encode (s : Surface) : Except Error ByteArray := do
  s.validate
  let t ← if s.format == .rgb565Le then pure s else s.convert none none (some .rgb565Le)
  return Bytes.ofU16le t.width ++ Bytes.ofU16le t.height ++ t.data

/-- **Reads a raw565 container** into a new surface allocated through `a`. -/
def decodeIn (a : Allocator) (limits : Option Limits) (b : ByteArray) :
    ExceptT Error Alloc Surface := do
  let some (w, h) := header? b | throw (.inputTooShort b.size)
  if expectedLen w h != b.size then throw .unrecognizedFormat
  if let some l := limits then
    ExceptT.mk (pure (l.check w h))
    ExceptT.mk (pure (l.checkMemory (b.size - headerLen)))
  let s ← Surface.create a w h .rgb565Le
  return { s with data := b.extract headerLen b.size }

end Raster.Raw565
