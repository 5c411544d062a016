import Raster.Convert

set_option autoImplicit false

/-!
# RGB pixel views

A surface can be handed out as plain 8-bit RGB pixels (three bytes each, row by row;
`Surface::to_imgvec`), and built from such pixels taken from a larger buffer whose rows are
`stride` pixels apart (`Surface::from_imgref`). Colours from RGB565 formats come out with their low
bits zero.
-/

namespace Raster

/-- **The surface's pixels as 8-bit RGB**, converted from its format. -/
def Surface.toRgbPixels (s : Surface) : Except Error ByteArray := do
  let rgb ← s.convert none none (some .rgb888)
  return rgb.data

/-- Appends rows `y, y + 1, …` (`n` of them) of `width` pixels from a buffer with rows `stride`
pixels apart. -/
def gatherRows (pixels : ByteArray) (width stride : Nat) : Nat → Nat → ByteArray → ByteArray
  | 0, _, acc => acc
  | n + 1, y, acc => gatherRows pixels width stride n (y + 1)
      (acc ++ Bytes.slice pixels (3 * (y * stride)) (3 * width))

/-- **A three-byte RGB surface from RGB pixels** in rows `stride` pixels apart
(`Surface::from_imgref`). A side that does not fit in 32 bits is too large, and both sides are
reported cut to `maxU32`. -/
def Surface.ofRgbPixels (width height stride : Nat) (pixels : ByteArray) :
    Except Error Surface := do
  if width > maxU32 || height > maxU32 then
    throw (.dimensionsTooLarge (min width maxU32) (min height maxU32))
  let s ← Surface.new width height .rgb888
  return { s with data := gatherRows pixels width stride height 0 ByteArray.empty }

end Raster
