import Raster.Png.Chunk
import Raster.Png.Color
import Raster.Deflate.Fault

set_option autoImplicit false

/-!
# Why a PNG file cannot be read

Each way a PNG file can fail to decode is one constructor, and `PngFault.message` is the one
place that words them. The faults come roughly in the order a reader meets them: the signature,
the chunk framing and checksums, the fields of the image header, the resources a header asks for,
the compressed image data, and last the fields of ancillary and animation chunks.
-/

namespace Raster.Png

/-- What can be wrong with a text chunk (tEXt, zTXt or iTXt). -/
inductive TextFault where
  /-- The keyword, or a field of an international text chunk, has no zero byte after it. -/
  | missingNullSeparator
  /-- The keyword is empty or longer than 79 bytes. -/
  | keywordSize
  /-- The compression method is missing, or is not 0 where it counts. -/
  | compressionMethod
  /-- An international text chunk ends before its compression flag. -/
  | missingCompressionFlag
  /-- An international text chunk's compression flag is neither 0 nor 1. -/
  | compressionFlag
  /-- A language tag that is not ASCII, or a localized keyword or text that is not UTF-8. -/
  | unrepresentable
  deriving DecidableEq, Repr, Inhabited

/-- The text fault as the decoder words it. -/
def TextFault.message : TextFault → String
  | .missingNullSeparator => "No null separator in tEXt chunk."
  | .keywordSize => "Keyword empty or longer than 79 bytes."
  | .compressionMethod => "Using an unrecognized byte as compression method."
  | .missingCompressionFlag => "No compression flag in the iTXt chunk."
  | .compressionFlag => "Using a flag that is not 0 or 255 as a compression flag for iTXt chunk."
  | .unrepresentable => "Unrepresentable data in tEXt chunk."

/-- A reason a PNG file cannot be decoded. -/
inductive PngFault where
  /-- The first eight bytes are not the PNG signature. -/
  | signature
  /-- The file ends inside a chunk, or before the chunk that follows the image data. -/
  | endOfFile
  /-- A critical chunk's stored CRC differs from the CRC of its type and data. -/
  | crcMismatch (stored computed : Nat) (kind : ChunkKind)
  /-- A chunk other than the image header comes first. -/
  | beforeHeader (kind : ChunkKind)
  /-- A chunk that may appear once appears twice. -/
  | duplicate (kind : ChunkKind)
  /-- A chunk's data is shorter than its fields. -/
  | tooShort (kind : ChunkKind)
  /-- Transparency for an indexed image comes before its palette. -/
  | beforePalette (kind : ChunkKind)
  /-- A transparency chunk for a colour type that has an alpha channel. -/
  | transparencyWithAlpha (color : ColorType)
  /-- Transparency data shorter than one sample per channel. -/
  | shortTransparency (expected actual : Nat)
  /-- Width or height is zero. -/
  | dimensions
  /-- The header's bit depth is not 1, 2, 4, 8 or 16. -/
  | bitDepth (code : Nat)
  /-- The header's colour type is not 0, 2, 3, 4 or 6. -/
  | colorType (code : Nat)
  /-- The colour type does not allow the bit depth. -/
  | colorDepth (color : ColorType) (depth : BitDepth)
  /-- The header names a compression method other than 0. -/
  | compressionMethod (code : Nat)
  /-- The header names a filter method other than 0, or a scanline an unknown filter type. -/
  | filterMethod (code : Nat)
  /-- The header names an interlace method other than 0 and 1. -/
  | interlaceMethod (code : Nat)
  /-- One decoded row would take more memory than a decoder grants. -/
  | limits
  /-- The file ends before any image data. -/
  | missingImageData
  /-- The compressed image data is not a valid zlib stream. -/
  | corruptStream (fault : Deflate.Fault)
  /-- The compressed image data ends before the last scanline. -/
  | notEnoughData
  /-- An indexed image has no palette. -/
  | missingPalette
  /-- A probe found no image header where the format puts it. -/
  | missingHeader
  /-- A physical pixel size whose unit is neither 0 (none) nor 1 (metre). -/
  | pixelUnit (code : Nat)
  /-- An sRGB rendering intent above 3. -/
  | renderingIntent (code : Nat)
  /-- A text chunk that breaks its layout. -/
  | text (fault : TextFault)
  /-- An animation chunk whose sequence number is not the one after the last. -/
  | sequenceOrder (expected present : Nat)
  /-- A frame control with a dispose operation above 2. -/
  | disposeOp (code : Nat)
  /-- A frame control with a blend operation above 1. -/
  | blendOp (code : Nat)
  /-- A frame that does not fit inside the image. -/
  | subFrameBounds
  /-- A frame data chunk too short for its sequence number. -/
  | shortFrameData
  /-- A data chunk that starts a new run of image data where none may start. -/
  | restart (kind : ChunkKind)
  /-- An animation whose frames all come after the image data, so there is no frame to read. -/
  | endOfImage
  /-- A palette of more than 256 entries, which an indexed image cannot be expanded with. -/
  | paletteOverflow
  /-- A palette whose last entry is cut short to `left` bytes, which an indexed image cannot be
  expanded with. -/
  | paletteRemainder (left : Nat)
  deriving DecidableEq, Repr, Inhabited

/-- Whether the decoder dies of the fault instead of reporting it: it expands an indexed image
through a table of 256 entries filled three bytes at a time, and a palette that does not fill
whole entries of that table stops it. -/
def PngFault.isAbort : PngFault → Bool
  | .paletteOverflow => true
  | .paletteRemainder _ => true
  | _ => false

/-- The fault as the decoder words it. -/
def PngFault.message : PngFault → String
  | .signature => "Invalid PNG signature."
  | .endOfFile => "unexpected end of file"
  | .crcMismatch stored computed kind =>
    "CRC error: expected 0x" ++ ChunkKind.hexDigits stored ++ " have 0x" ++
      ChunkKind.hexDigits computed ++ " while decoding " ++ kind.describe ++ " chunk."
  | .beforeHeader kind => kind.describe ++ " chunk appeared before IHDR chunk"
  | .duplicate kind => "Chunk " ++ kind.describe ++ " must appear at most once."
  | .tooShort kind => "Chunk is too short: " ++ kind.describe
  | .beforePalette kind => "Chunk " ++ kind.describe ++ " is invalid before PLTE chunk."
  | .transparencyWithAlpha color => "Transparency chunk found for color type " ++ color.name ++ "."
  | .shortTransparency expected actual =>
    "Not enough palette entries, expect " ++ toString expected ++ " got " ++ toString actual ++ "."
  | .dimensions => "Invalid image dimensions"
  | .bitDepth code => "Invalid bit depth " ++ toString code ++ "."
  | .colorType code => "Invalid color type " ++ toString code ++ "."
  | .colorDepth color depth =>
    "Invalid color/depth combination in header: " ++ color.name ++ "/" ++ depth.name
  | .compressionMethod code => "Unknown compression method " ++ toString code ++ "."
  | .filterMethod code => "Unknown filter method " ++ toString code ++ "."
  | .interlaceMethod code => "Unknown interlace method " ++ toString code ++ "."
  | .limits => "limits are exceeded"
  | .missingImageData => "IDAT or fdAT chunk is missing."
  | .corruptStream fault => "Corrupt deflate stream. " ++ fault.name
  | .notEnoughData => "IDAT or fDAT chunk does not have enough data for image."
  | .missingPalette => "Missing palette of indexed image."
  | .missingHeader => "missing IHDR chunk"
  | .pixelUnit code => "Invalid physical pixel size unit " ++ toString code ++ "."
  | .renderingIntent code => "Invalid sRGB rendering intent " ++ toString code ++ "."
  | .text fault => fault.message
  | .sequenceOrder expected present =>
    "Sequence is not in order, expected #" ++ toString expected ++ " got #" ++ toString present ++ "."
  | .disposeOp code => "Invalid dispose op " ++ toString code ++ "."
  | .blendOp code => "Invalid blend op " ++ toString code ++ "."
  | .subFrameBounds => "Sub frame is out-of-bounds."
  | .shortFrameData => "fdAT chunk shorter than 4 bytes"
  | .restart kind => "Unexpected restart of " ++ kind.describe ++ " chunk sequence"
  | .endOfImage => "End of image has been reached"
  | .paletteOverflow => "index out of bounds: the len is 0 but the index is 0"
  | .paletteRemainder left =>
    "range end index 3 out of range for slice of length " ++ toString left

end Raster.Png
