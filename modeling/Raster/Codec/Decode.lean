import Raster.Codec.Container
import Raster.Codec.Png

set_option autoImplicit false

/-!
# Decoding images into surfaces

Decoding (`decode::decode`, `DecodeRequest::decode`) recognises the container and gives a new
RGB565 little-endian surface. A PNG (`png::decode`) goes through a PNG decoder, which the library
takes as an argument (`Png.Decoder`). The stream is read up to its image data first; then its size
is checked against the surface bounds and the caller's limits (which count the decoder's frame
buffer as well as the surface), the surface is allocated, and only then is the frame decoded.

The frame must come out with 8-bit samples and not as palette indices. Its pixels are then packed
into the surface one by one, in order: alpha is dropped and greyscale becomes equal red, green and
blue. As many pixels are written as both the surface and the frame have; a surface pixel the frame
does not reach keeps what the allocator gave it.
-/

namespace Raster

/-- Lifts a computation that cannot allocate. -/
def liftChecked {α : Type} (r : Except Error α) : ExceptT Error Alloc α :=
  ExceptT.mk (pure r)

/-- How the pixels of a decoded 8-bit frame of colour type `c` are read (`rgb8_reader`): how many
bytes each takes, and whether it is grey, with one byte for all three channels, rather than red,
green and blue in its first three bytes. A frame of palette indices cannot be read. -/
def rgb8Reader : Png.ColorType → Except Error (Nat × Bool)
  | .rgb => .ok (3, false)
  | .rgba => .ok (4, false)
  | .grayscale => .ok (1, true)
  | .grayscaleAlpha => .ok (2, true)
  | .indexed => .error (.png .notExpanded)

/-- The RGB565 colour of the decoded pixel whose bytes start at `i`. -/
@[inline] def frameColor (grey : Bool) (bytes : ByteArray) (i : Nat) : Nat :=
  if grey then
    let v := Bytes.get bytes i
    Rgb565.pack v v v
  else Rgb565.pack (Bytes.get bytes i) (Bytes.get bytes (i + 1)) (Bytes.get bytes (i + 2))

/-- Appends the RGB565 little-endian colours of `n` decoded pixels of `channels` bytes each, from
pixel `k` on. -/
def pushFramePixels (channels : Nat) (grey : Bool) (bytes : ByteArray) :
    Nat → Nat → ByteArray → ByteArray
  | 0, _, acc => acc
  | n + 1, k, acc =>
    let c := frameColor grey bytes (k * channels)
    pushFramePixels channels grey bytes n (k + 1)
      ((acc.push (Bytes.low c)).push (Bytes.low (c / 256)))

/-- **Writes a decoded frame into a surface's pixel bytes** `data`, pixel by pixel in step: the
first `min (data.size / 2) (bytes.size / channels)` pixels are the frame's, and the rest of
`data` is left as it is. -/
def fillFrame (channels : Nat) (grey : Bool) (bytes data : ByteArray) : ByteArray :=
  let n := min (data.size / 2) (bytes.size / channels)
  pushFramePixels channels grey bytes n 0 (ByteArray.emptyWithCapacity data.size) ++
    data.extract (2 * n) data.size

/-- **Decodes the frame of `b` into the surface `s`** (`Reader::next_frame`, then the zip of the
frame's pixels into the surface's): the frame must come out 8 bits deep and not as palette
indices. -/
def fillPng (dec : Png.Decoder) (b : ByteArray) (s : Surface) : Except Error Surface := do
  let frame ← (dec.nextFrame b).mapError (.png ∘ .decoder)
  if frame.depth != .eight then throw (.png (.bitDepth frame.depth))
  let (channels, grey) ← rgb8Reader frame.color
  return { s with data := fillFrame channels grey frame.bytes s.data }

/-- **Decodes a PNG** through the decoder `dec` into a surface allocated through `a`. -/
def decodePngIn (dec : Png.Decoder) (a : Allocator) (limits : Option Limits) (b : ByteArray) :
    ExceptT Error Alloc Surface := do
  let info ← liftChecked ((dec.readInfo b).mapError (.png ∘ .decoder))
  let w := info.width
  let h := info.height
  liftChecked (checkDimensions w h)
  if let some l := limits then
    liftChecked (l.check w h)
    liftChecked (l.checkMemory (info.bufferSize + w * 2 * h))
  let s ← Surface.create a w h .rgb565Le
  liftChecked (fillPng dec b s)

/-- A request to decode image bytes, with optional limits and an allocator for the surface. -/
structure DecodeRequest where
  bytes : ByteArray
  limits : Option Limits := none
  allocator : Allocator := .system

/-- **Decodes the request's bytes**, a PNG through `dec`, giving the surface or the error and the
lengths requested from the allocator. -/
def DecodeRequest.run (dec : Png.Decoder) (r : DecodeRequest) : Except Error Surface × List Nat :=
  Surface.runAlloc do
    match ← liftChecked (Container.detect r.bytes) with
    | .png => decodePngIn dec r.allocator r.limits r.bytes
    | .raw565 => Raw565.decodeIn r.allocator r.limits r.bytes

/-- Decodes PNG or raw565 bytes into a new surface from the general heap. -/
def decode (dec : Png.Decoder) (b : ByteArray) : Except Error Surface :=
  (DecodeRequest.run dec { bytes := b }).1

end Raster
