import Raster.Codec.Png

set_option autoImplicit false

/-!
# PNG colour types and bit depths in the image header

The image header names one of five colour types and one of five sample depths by their codes.
Not every pair is allowed: depths below 8 are for greyscale and indexed images only, and indexed
images have no 16-bit depth. The number of samples per pixel and the depth fix how many bits a
pixel takes in a scanline, and so the length of every scanline.
-/

namespace Raster.Png

namespace ColorType

/-- The colour type with header code `n`. -/
def ofCode? : Nat → Option ColorType
  | 0 => some grayscale
  | 2 => some rgb
  | 3 => some indexed
  | 4 => some grayscaleAlpha
  | 6 => some rgba
  | _ => none

/-- The header code of a colour type. -/
def code : ColorType → Nat
  | grayscale => 0
  | rgb => 2
  | indexed => 3
  | grayscaleAlpha => 4
  | rgba => 6

end ColorType

namespace BitDepth

/-- The depth with header code `n`. -/
def ofCode? : Nat → Option BitDepth
  | 1 => some one
  | 2 => some two
  | 4 => some four
  | 8 => some eight
  | 16 => some sixteen
  | _ => none

/-- Bits per sample. -/
def bits : BitDepth → Nat
  | one => 1
  | two => 2
  | four => 4
  | eight => 8
  | sixteen => 16

end BitDepth

/-- Whether the standard allows a colour type at a depth. -/
def ColorType.allows : ColorType → BitDepth → Bool
  | .rgb, .eight | .rgb, .sixteen => true
  | .rgb, _ => false
  | .grayscaleAlpha, .eight | .grayscaleAlpha, .sixteen => true
  | .grayscaleAlpha, _ => false
  | .rgba, .eight | .rgba, .sixteen => true
  | .rgba, _ => false
  | .indexed, .sixteen => false
  | .indexed, _ => true
  | .grayscale, _ => true

end Raster.Png
