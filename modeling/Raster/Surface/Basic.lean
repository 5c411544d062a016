import Raster.Pixel.Rgb565
import Raster.Limits
import Raster.Allocator

set_option autoImplicit false

/-!
# Surfaces

A surface is a width × height grid of pixels in one `PixelFormat`, stored row by row in one byte
buffer, with a 256-entry palette for indexed formats. Rows are `width * bytesPerPixel` bytes
apart (the stride) with no padding.

A surface is plain data, so a value may break the rules; `Surface.fault?` names the first rule it
breaks and `Surface.validate` (`Surface::validate`) turns that into an error. Every operation
validates the surfaces it is given before it reads them. Surfaces built here (by `create`, which
is `Surface::new_in`) are valid by construction.

The colour of a pixel is read as RGB565 (`Surface.pixel565?`, `Surface::pixel_565`): packed
formats decode their bytes,
three-byte pixels are packed, and indexed pixels look their first byte up in the palette. A
three-byte palette has no RGB565 reading.
-/

namespace Raster

/-- The bytes one pixel of colour `c` takes in a packed format. -/
def PixelFormat.cell (f : PixelFormat) (c : Nat) : ByteArray :=
  match f with
  | .rgb565Le => ⟨#[Bytes.low c, Bytes.low (c / 256)]⟩
  | .rgb565Be => ⟨#[Bytes.low (c / 256), Bytes.low c]⟩
  | _ =>
    let (r, g, b) := Rgb565.unpack c
    ⟨#[Bytes.low r, Bytes.low g, Bytes.low b]⟩

/-- A grid of pixels with its format and, for indexed formats, its palette. -/
structure Surface where
  width : Nat
  height : Nat
  format : PixelFormat
  data : ByteArray
  palette : Option ByteArray

namespace Surface

/-- Bytes from the start of one row to the start of the next. -/
def stride (s : Surface) : Nat :=
  s.width * s.format.bytesPerPixel

/-- The fault of a palette that a format `f` is given, if it has one. -/
def paletteFault (f : PixelFormat) : Option ByteArray → Option SurfaceFault
  | some p =>
    if f.isPalette then
      if p.size = f.paletteLen then none else some (.paletteLength p.size f.paletteLen)
    else some (.unexpectedPalette f)
  | none => if f.isPalette then some (.missingPalette f) else none

/-- **The first rule a surface breaks**, checked in this order: a non-empty pixel buffer,
dimensions in range, a pixel buffer of height × stride bytes, and a palette of 256 entries exactly
when the format is indexed. -/
def fault? (s : Surface) : Option SurfaceFault :=
  if s.data.size = 0 then some .emptyData
  else if !dimensionsFit s.width s.height then some (.dimensions s.width s.height)
  else if s.data.size ≠ s.height * s.stride then
    some (.dataLength s.data.size (s.height * s.stride))
  else paletteFault s.format s.palette

/-- Fails with the first rule the surface breaks. -/
def validate (s : Surface) : Except Error Unit :=
  match s.fault? with
  | some f => .error (.invalidSurface f)
  | none => .ok ()

/-- A surface is valid when it breaks no rule. -/
def Valid (s : Surface) : Prop := s.fault? = none

instance (s : Surface) : Decidable s.Valid :=
  inferInstanceAs (Decidable (s.fault? = none))

/-! ## Making surfaces -/

/-- **Allocates a surface through `a`.** The dimensions are checked first; then the pixel buffer
is requested, then the palette for indexed formats. A refused or wrongly sized buffer fails the
whole surface with its total size, and nothing after it is requested. The buffers are used as
the allocator hands them over. -/
def create (a : Allocator) (width height : Nat) (format : PixelFormat) :
    ExceptT Error Alloc Surface := do
  ExceptT.mk (pure (checkDimensions width height))
  let len := height * (width * format.bytesPerPixel)
  let total := len + format.paletteLen
  let some data ← (a.request len : Alloc _) | throw (.allocationFailure total)
  if format.isPalette then
    let some pal ← (a.request format.paletteLen : Alloc _) | throw (.allocationFailure total)
    return ⟨width, height, format, data, some pal⟩
  else
    return ⟨width, height, format, data, none⟩

/-- Runs an allocating computation, giving its result and the lengths it requested. -/
def runAlloc {α : Type} (m : ExceptT Error Alloc α) : Except Error α × List Nat :=
  m.run.run []

/-- A zeroed surface from the general heap. -/
def new (width height : Nat) (format : PixelFormat) : Except Error Surface :=
  (runAlloc (create .system width height format)).1

/-- Adopts existing buffers as a surface, if together they make a valid one. -/
def ofParts (width height : Nat) (format : PixelFormat) (data : ByteArray)
    (palette : Option ByteArray) : Except Error Surface := do
  let s : Surface := ⟨width, height, format, data, palette⟩
  s.validate
  return s

/-! ## Reading pixels -/

/-- Row `y`'s bytes, or `none` past the last row. -/
def row? (s : Surface) (y : Nat) : Option ByteArray :=
  if (y + 1) * s.stride ≤ s.data.size then some (Bytes.slice s.data (y * s.stride) s.stride)
  else none

/-- The RGB565 colour of palette entry `i`, in the given byte order. -/
def paletteColor (pal : ByteArray) (bigEndian : Bool) (i : Nat) : Nat :=
  if bigEndian then Bytes.u16be pal (2 * i) else Bytes.u16le pal (2 * i)

/-- **The RGB565 colour of the pixel in column `x` of the row starting at byte `start`.** Packed
formats decode the cell; indexed formats look the cell's first byte up in the palette. A
three-byte palette, or a missing one, gives no colour. -/
@[inline] def colorAt (s : Surface) (start x : Nat) : Option Nat :=
  match s.format with
  | .rgb565Le => some (Bytes.u16le s.data (start + 2 * x))
  | .rgb565Be => some (Bytes.u16be s.data (start + 2 * x))
  | .rgb888 =>
    let i := start + 3 * x
    some (Rgb565.pack (Bytes.get s.data i) (Bytes.get s.data (i + 1)) (Bytes.get s.data (i + 2)))
  | .pal565Le => s.palette.map fun p => paletteColor p false (Bytes.get s.data (start + x))
  | .pal565Be => s.palette.map fun p => paletteColor p true (Bytes.get s.data (start + x))
  | .pal888 => none

/-- The RGB565 colour at `(x, y)`: `none` outside the surface or for a three-byte palette. -/
def pixel565? (s : Surface) (x y : Nat) : Option Nat :=
  if x < s.width ∧ (y + 1) * s.stride ≤ s.data.size then s.colorAt (y * s.stride) x else none

/-! ## Writing pixels -/

/-- **Sets every pixel of a packed surface to colour `c`.** Indexed surfaces have no colour to
set. -/
def fill565 (s : Surface) (c : Nat) : Except Error Surface := do
  s.validate
  if s.format.isPalette then throw (.unsupportedFormat (.fill s.format))
  return { s with data := Bytes.cycle (PixelFormat.cell s.format c) s.data.size }

end Surface

end Raster
