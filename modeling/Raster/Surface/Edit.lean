import Raster.Surface.Basic
import Raster.Noise

set_option autoImplicit false

/-!
# Editing surface buffers

Changes to a surface's bytes that keep its shape, as a caller makes them through `pixels_mut`,
`row_mut` and `palette_mut`: overwriting the start of the pixel buffer or of
the palette, and filling either with a noise pattern. Bytes past the end of the new content keep
their values, and a buffer never changes length.
-/

namespace Raster.Surface

/-- Overwrites the start of the pixel buffer; bytes beyond the buffer's length are dropped. -/
def writePixels (s : Surface) (bytes : ByteArray) : Surface :=
  { s with data := Bytes.overwrite s.data (bytes.extract 0 s.data.size) }

/-- Overwrites the start of the palette, if there is one; bytes beyond its length are dropped. -/
def writePalette (s : Surface) (bytes : ByteArray) : Surface :=
  { s with palette := s.palette.map fun p => Bytes.overwrite p (bytes.extract 0 p.size) }

/-- Fills the pixel buffer with the noise stream of `seed`. -/
def withNoise (s : Surface) (seed : UInt32) : Surface :=
  { s with data := Noise.bytes seed s.data.size }

/-- Fills the palette, if there is one, with the noise stream of `seed`. -/
def withPaletteNoise (s : Surface) (seed : UInt32) : Surface :=
  { s with palette := s.palette.map fun p => Noise.bytes seed p.size }

end Raster.Surface
