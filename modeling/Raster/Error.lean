import Raster.Pixel.Format
import Raster.Codec.Png

set_option autoImplicit false

/-!
# Errors

Every operation of the library fails with one `Error` (`SurfaceError`), whose constructor is the
cause and whose fields are the numbers the cause is about. `Error.message` is the single place
that words them, as the error's `Display` does; nothing else in the library builds message text.
-/

namespace Raster

/-- Largest width or height a surface may have. -/
def maxDimension : Nat := 4096

/-- Why a surface's shape or buffers do not fit together. -/
inductive SurfaceFault where
  /-- The pixel buffer is empty. -/
  | emptyData
  /-- Width or height is outside `1 ..= 4096`. -/
  | dimensions (width height : Nat)
  /-- The pixel buffer is not height times stride bytes long. -/
  | dataLength (actual expected : Nat)
  /-- The palette is not 256 entries long. -/
  | paletteLength (actual expected : Nat)
  /-- An indexed format without a palette. -/
  | missingPalette (format : PixelFormat)
  /-- A packed format with a palette. -/
  | unexpectedPalette (format : PixelFormat)
  deriving DecidableEq, Repr

/-- Which combination of formats an operation cannot handle. -/
inductive FormatGap where
  /-- Filling an indexed surface with a colour. -/
  | fill (format : PixelFormat)
  /-- Reading colours from a three-byte palette. -/
  | read (format : PixelFormat)
  /-- Writing colours into an indexed surface. -/
  | write (format : PixelFormat)
  deriving DecidableEq, Repr

/-- Which caller-supplied limit a decode would break. -/
inductive LimitBreach where
  | width (width limit : Nat)
  | height (height limit : Nat)
  | pixels (count limit : Nat)
  | memory (bytes limit : Nat)
  deriving DecidableEq, Repr

/-- Why a file could not be read or written. -/
inductive FileFault where
  /-- The file, or the folder it should go into, does not exist. -/
  | notFound
  deriving DecidableEq, Repr

/-- Why a PNG could not be read. -/
inductive PngFailure where
  /-- The decoder's own error, in its words. -/
  | decoder (message : String)
  /-- A probed stream whose first chunk is not an image header. -/
  | missingHeader
  /-- A decoded frame whose samples are not 8 bits deep. -/
  | bitDepth (depth : Png.BitDepth)
  /-- A decoded frame still made of palette indices. -/
  | notExpanded
  deriving DecidableEq, Repr

/-- The cause of a failed operation. -/
inductive Error where
  | invalidSurface (fault : SurfaceFault)
  /-- An allocator refused a buffer, or returned one of the wrong length; `bytes` is the whole
  size the surface asked for. -/
  | allocationFailure (bytes : Nat)
  | unsupportedFormat (gap : FormatGap)
  /-- An unscaled copy into a destination larger than its source. -/
  | regionOutOfBounds (destWidth destHeight sourceWidth sourceHeight : Nat)
  /-- Encoded image data shorter than any image. -/
  | inputTooShort (length : Nat)
  /-- Encoded image data in no known container. -/
  | unrecognizedFormat
  | png (failure : PngFailure)
  | file (fault : FileFault)
  /-- A side that does not fit in 32 bits. -/
  | dimensionsTooLarge (width height : Nat)
  | limitExceeded (breach : LimitBreach)
  deriving DecidableEq, Repr

/-- How a surface fault is worded. -/
def SurfaceFault.message : SurfaceFault → String
  | .emptyData => "empty pixel data"
  | .dimensions w h => s!"dimensions {w}x{h} outside 1..={maxDimension}"
  | .dataLength n e => s!"pixel data is {n} bytes, expected {e}"
  | .paletteLength n e => s!"palette is {n} bytes, expected {e}"
  | .missingPalette f => f.name ++ " surface has no palette"
  | .unexpectedPalette f => f.name ++ " surface carries a palette"

/-- How a format gap is worded. -/
def FormatGap.message : FormatGap → String
  | .fill f => "cannot fill " ++ f.name ++ " with a color"
  | .read f => "cannot read " ++ f.name ++ " source"
  | .write f => "cannot write " ++ f.name ++ " destination"

/-- How a limit breach is worded. -/
def LimitBreach.message : LimitBreach → String
  | .width w m => s!"width {w} exceeds limit {m}"
  | .height h m => s!"height {h} exceeds limit {m}"
  | .pixels p m => s!"pixel count {p} exceeds limit {m}"
  | .memory b m => s!"allocation {b} bytes exceeds memory limit {m}"

/-- How a file fault is worded, as the operating system words it. -/
def FileFault.message : FileFault → String
  | .notFound => "No such file or directory (os error 2)"

/-- How a PNG failure is worded. -/
def PngFailure.message : PngFailure → String
  | .decoder m => m
  | .missingHeader => "missing IHDR chunk"
  | .bitDepth d => "unexpected bit depth " ++ d.name
  | .notExpanded => "indexed PNG was not expanded"

/-- **The error's message.** -/
def Error.message : Error → String
  | .invalidSurface f => "invalid surface: " ++ f.message
  | .allocationFailure b => s!"surface allocation failed ({b} bytes)"
  | .unsupportedFormat g => "unsupported pixel format: " ++ g.message
  | .regionOutOfBounds dw dh sw sh => s!"copy extent {dw}x{dh} exceeds unscaled source {sw}x{sh}"
  | .inputTooShort n => s!"image data too short: {n} bytes"
  | .unrecognizedFormat => "unrecognized image format"
  | .png f => "PNG decoding failed: " ++ f.message
  | .file f => "image file I/O failed: " ++ f.message
  | .dimensionsTooLarge w h => s!"dimensions too large: {w}x{h}"
  | .limitExceeded b => "limit exceeded: " ++ b.message

end Raster
