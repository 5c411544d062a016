set_option autoImplicit false

/-!
# What can be wrong with a zlib stream

The faults an inflater reports, each named for the part of the stream that breaks the format:
the two-byte zlib header, a block header, the code lengths of a dynamic block, a distance code
that names no distance, a back-reference before the start of the output, a checksum that does not
match, or input that ends before the stream does.
-/

namespace Raster.Deflate

/-- A reason a zlib stream cannot be inflated. -/
inductive Fault where
  /-- The first two bytes are not a zlib header for a deflate stream. -/
  | badHeader
  /-- The input ended before the final block and the checksum. -/
  | insufficientInput
  /-- A block header has the reserved block type 3. -/
  | invalidBlockType
  /-- A stored block's length and its complement disagree. -/
  | invalidStoredLength
  /-- A dynamic block declares more than 286 literal/length codes. -/
  | invalidLiteralCount
  /-- A dynamic block declares more than 30 distance codes. -/
  | invalidDistanceCount
  /-- A repeat of code lengths has nothing to repeat or runs past the declared count. -/
  | invalidRepeat
  /-- The code-length code is not a complete prefix code. -/
  | badCodeLengthCode
  /-- The literal/length code gives the end-of-block symbol no code. -/
  | missingEndOfBlock
  /-- The literal/length code is not a complete prefix code. -/
  | badLiteralLengthCode
  /-- The distance code is neither complete, nor a single one-bit code, nor empty. -/
  | badDistanceCode
  /-- A distance code that names no distance. -/
  | invalidDistanceSymbol
  /-- A back-reference reaches before the first byte of output. -/
  | distanceTooFarBack
  /-- The checksum after the final block differs from the Adler-32 sum of the output. -/
  | wrongChecksum
  deriving DecidableEq, Repr, Inhabited

/-- The fault's name in messages. An incomplete literal/length code goes by the name of a bad
code-length code, since its lengths are what the code-length code produced. -/
def Fault.name : Fault → String
  | .badHeader => "BadZlibHeader"
  | .insufficientInput => "InsufficientInput"
  | .invalidBlockType => "InvalidBlockType"
  | .invalidStoredLength => "InvalidUncompressedBlockLength"
  | .invalidLiteralCount => "InvalidHlit"
  | .invalidDistanceCount => "InvalidHdist"
  | .invalidRepeat => "InvalidCodeLengthRepeat"
  | .badCodeLengthCode => "BadCodeLengthHuffmanTree"
  | .missingEndOfBlock => "BadLiteralLengthHuffmanTree"
  | .badLiteralLengthCode => "BadCodeLengthHuffmanTree"
  | .badDistanceCode => "BadDistanceHuffmanTree"
  | .invalidDistanceSymbol => "InvalidDistanceCode"
  | .distanceTooFarBack => "DistanceTooFarBack"
  | .wrongChecksum => "WrongChecksum"

end Raster.Deflate
