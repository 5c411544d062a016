set_option autoImplicit false

/-!
# The PNG codec the library is written against

The library reads and writes PNG through a codec it does not contain, the `png` crate (0.17). It
uses four things of it. A decoder, set to expand palettes, low depths and transparency and to cut
16-bit samples to 8 bits, reads a stream as far as its image data (`Reader::info` after
`Decoder::read_info`): the image's width and height, and how long the buffer must be that a frame
is decoded into (`Reader::output_buffer_size`). It then decodes the first frame into that buffer
(`Reader::next_frame`), reporting the frame's colour type and bit depth after those
transformations and how many bytes of the buffer it filled (`OutputInfo::buffer_size`). An encoder
writes an 8-bit RGB image (`Encoder::write_header`, `Writer::write_image_data`). A decoder's
failure reaches the library as the text of its error.

`Png.Decoder` and `Png.Encoder` are those operations, taken as arguments by the library's PNG
functions (`decodePngIn`, `encodePng`). Nothing is assumed of them here: a theorem that needs the
codec to behave as documented says so in a hypothesis of its own. `Raster.Png.Model` gives the
codec that runs.
-/

namespace Raster.Png

/-- How a PNG pixel is made of samples (`png::ColorType`). -/
inductive ColorType where
  | grayscale
  | rgb
  | indexed
  | grayscaleAlpha
  | rgba
  deriving DecidableEq, Repr, Inhabited

/-- Bits per sample (`png::BitDepth`). -/
inductive BitDepth where
  | one
  | two
  | four
  | eight
  | sixteen
  deriving DecidableEq, Repr, Inhabited

/-- The colour type's name in messages. -/
def ColorType.name : ColorType → String
  | .grayscale => "Grayscale"
  | .rgb => "Rgb"
  | .indexed => "Indexed"
  | .grayscaleAlpha => "GrayscaleAlpha"
  | .rgba => "Rgba"

/-- Samples per pixel (`ColorType::samples`). -/
def ColorType.samples : ColorType → Nat
  | .grayscale | .indexed => 1
  | .grayscaleAlpha => 2
  | .rgb => 3
  | .rgba => 4

/-- The depth's name in messages. -/
def BitDepth.name : BitDepth → String
  | .one => "One"
  | .two => "Two"
  | .four => "Four"
  | .eight => "Eight"
  | .sixteen => "Sixteen"

/-- What a decoder reports once it has read a stream as far as its image data. -/
structure HeaderInfo where
  width : Nat
  height : Nat
  /-- Bytes of the buffer the next frame is decoded into. -/
  bufferSize : Nat
  deriving DecidableEq, Repr

/-- A decoded frame: its colour type and bit depth after the decoder's transformations, and the
bytes of the buffer it filled. -/
structure Frame where
  color : ColorType
  depth : BitDepth
  bytes : ByteArray

-- The bytes are compared by the core instance, named, so that the comparison is the same one
-- whatever other instances for byte arrays are in scope.
instance : DecidableEq Frame
  | ⟨c, d, b⟩, ⟨c', d', b'⟩ =>
    match decEq c c', decEq d d', ByteArray.instDecidableEq b b' with
    | isTrue rfl, isTrue rfl, isTrue rfl => isTrue rfl
    | isFalse h, _, _ => isFalse fun he => h (Frame.mk.inj he).1
    | _, isFalse h, _ => isFalse fun he => h (Frame.mk.inj he).2.1
    | _, _, isFalse h => isFalse fun he => h (Frame.mk.inj he).2.2

/-- **A PNG decoder** with the library's transformations: what it reads of a stream before its
image data, and the first frame it decodes, or the text of its error. -/
structure Decoder where
  readInfo : ByteArray → Except String HeaderInfo
  nextFrame : ByteArray → Except String Frame

/-- **A PNG encoder**: the stream it writes for an 8-bit RGB image of the given width and height
from its pixel bytes, row by row. -/
structure Encoder where
  writeRgb8 : Nat → Nat → ByteArray → ByteArray

/-- A decoder and an encoder. -/
structure Codec where
  decoder : Decoder
  encoder : Encoder

end Raster.Png
