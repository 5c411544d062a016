import Raster.Codec.Raw

set_option autoImplicit false

/-!
# Recognising an encoded image

Encoded images come as PNG or as raw565 (`info::detect`). Anything shorter than 16 bytes is
refused. Bytes that start like a PNG signature are PNG; otherwise they must be exactly a raw565
container.

A probe (`ImageInfo::from_bytes`) reads an image's size without decoding it: from the PNG header
chunk, which must be the first chunk, or from the raw565 header.
-/

namespace Raster

/-- The container of an encoded image. -/
inductive Container where
  | png
  | raw565
  deriving DecidableEq, Repr

/-- The container's name. -/
def Container.name : Container → String
  | .png => "Png"
  | .raw565 => "Raw565"

/-- Inputs shorter than this are not images. -/
def minImageLen : Nat := 16

/-- The first four bytes of a PNG file. -/
def pngMagic : ByteArray := ⟨#[0x89, 0x50, 0x4E, 0x47]⟩

/-- The type of a PNG image header chunk, `IHDR`. -/
def ihdrTag : ByteArray := ⟨#[0x49, 0x48, 0x44, 0x52]⟩

/-- **Recognises the container** of encoded image bytes. -/
def Container.detect (b : ByteArray) : Except Error Container :=
  if b.size < minImageLen then .error (.inputTooShort b.size)
  else if b.extract 0 4 == pngMagic then .ok .png
  else if Raw565.fits b then .ok .raw565
  else .error .unrecognizedFormat

/-- The size and container of an encoded image. -/
structure ImageInfo where
  width : Nat
  height : Nat
  container : Container

/-- **Probes encoded image bytes** for their size and container. -/
def ImageInfo.probe (b : ByteArray) : Except Error ImageInfo := do
  match ← Container.detect b with
  | .png =>
    if b.size < 24 then throw (.inputTooShort b.size)
    if b.extract 12 16 != ihdrTag then throw (.png .missingHeader)
    return ⟨Bytes.u32be b 16, Bytes.u32be b 20, .png⟩
  | .raw565 =>
    match Raw565.header? b with
    | some (w, h) => return ⟨w, h, .raw565⟩
    | none => throw (.inputTooShort b.size)

end Raster
