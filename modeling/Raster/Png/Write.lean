import Raster.Png.Info
import Raster.Deflate.Store

set_option autoImplicit false

/-!
# Writing a PNG

An 8-bit RGB image is written as the signature, an image header, one data chunk and the end
chunk. Every scanline is stored unfiltered, and the data is a zlib stream of stored blocks; the
header is the same as any encoder writes for such an image.
-/

namespace Raster.Png

/-- A chunk: length, type, data and the CRC of type and data. -/
def chunk (kind : ChunkKind) (d : ByteArray) : ByteArray :=
  Bytes.ofU32be d.size ++ kind.bytes ++ d ++ Bytes.ofU32be (chunkCrc kind d)

/-- The header chunk's data for an 8-bit RGB image, not interlaced. -/
def rgbHeader (width height : Nat) : ByteArray :=
  Bytes.ofU32be width ++ Bytes.ofU32be height ++ ⟨#[8, 2, 0, 0, 0]⟩

/-- The scanlines of an image of `rowLen`-byte rows, each behind filter type 0. -/
def plainLines (rowLen : Nat) (pixels : ByteArray) : ByteArray :=
  let rows := if rowLen == 0 then 0 else pixels.size / rowLen
  (List.range rows).foldl (fun acc y => (acc.push 0) ++ Bytes.slice pixels (y * rowLen) rowLen)
    (ByteArray.emptyWithCapacity (pixels.size + rows))

/-- **Writes an 8-bit RGB image** of the given size from its pixel bytes, row by row. -/
def writeRgb8 (width height : Nat) (pixels : ByteArray) : ByteArray :=
  signature ++ chunk .header (rgbHeader width height) ++
    chunk .data (Deflate.store (plainLines (3 * width) pixels)) ++ chunk .trailer ByteArray.empty

end Raster.Png
