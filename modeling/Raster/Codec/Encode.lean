import Raster.Codec.Decode

set_option autoImplicit false

/-!
# Encoding surfaces

A surface is encoded as raw565 (`encode::encode_raw`) or as an 8-bit RGB PNG
(`encode::encode_png`). For a PNG the requested size follows `targetSize`; a surface that is not
already three-byte RGB at that size is converted first (`prepare`), and the PNG encoder, an
argument like the decoder (`Png.Encoder`), writes the result.
-/

namespace Raster

/-- **Encodes a surface as raw565.** -/
def encodeRaw (s : Surface) : Except Error ByteArray :=
  Raw565.encode s

/-- The three-byte RGB surface a PNG of the requested size is written from. -/
def Surface.forPng (s : Surface) (width height : Option Nat) : Except Error Surface := do
  s.validate
  let (w, h) := targetSize s.width s.height width height
  if s.format == .rgb888 && s.width == w && s.height == h then return s
  s.convert (some w) (some h) (some .rgb888)

/-- **Encodes a surface as an 8-bit RGB PNG** through the encoder `enc`, resized as requested. -/
def encodePng (enc : Png.Encoder) (s : Surface) (width height : Option Nat) :
    Except Error ByteArray := do
  let rgb ← s.forPng width height
  return enc.writeRgb8 rgb.width rgb.height rgb.data

end Raster
