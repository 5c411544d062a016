import Raster.Png.Frame

set_option autoImplicit false

/-!
# The frame a PNG decoder gives

The decoded scanlines hold samples of the header's depth, packed most significant bit first. With
palettes, low depths and transparency expanded and 16-bit samples cut, a decoder gives every pixel
as 8-bit samples: deeper samples keep their high byte, and greyscale samples below 8 bits are
scaled to the full range (a 1-bit sample becomes 0 or 255, a 2-bit one a multiple of 85, a 4-bit
one a multiple of 17). A palette index becomes the entry's red, green and blue, black past the
end of the palette. A transparency chunk adds an alpha sample: for a palette the index's alpha
value (opaque past the chunk's end), for greyscale and RGB transparent exactly when the pixel's
samples are the chunk's.

The frame is decoded into a buffer as long as the image's rows (`Info.lineBytes`). Its rows go
at the frame's width, or for an interlaced frame at the image's width with zeros past the frame's
width, and the frame fills as many bytes of the buffer as it has pixels.
-/

namespace Raster.Png

/-- Sample `k` of a decoded scanline at depth `bits`, cut to its high byte when deeper than 8. -/
@[inline] def sampleAt (row : ByteArray) (bits k : Nat) : Nat :=
  if bits == 16 then Bytes.get row (2 * k)
  else if bits == 8 then Bytes.get row k
  else
    let bit := k * bits
    let mask : UInt8 := (1 <<< bits.toUInt8) - 1
    ((Bytes.byteAt row (bit / 8) >>> (8 - bits - bit % 8).toUInt8) &&& mask).toNat

/-- Sample `k` of a decoded scanline at depth `bits`, at its full depth. -/
@[inline] def fullSampleAt (row : ByteArray) (bits k : Nat) : Nat :=
  if bits == 16 then Bytes.u16be row (2 * k) else sampleAt row bits k

/-- A greyscale sample of depth `bits` on the 8-bit scale. -/
@[inline] def widenGray (bits v : Nat) : Nat :=
  if bits == 1 then v * 255
  else if bits == 2 then v * 85
  else if bits == 4 then v * 17
  else v

/-- The alpha of a pixel whose full-depth samples `v₀ v₁ v₂` (greyscale uses `v₀`) are compared
with those of the transparency chunk `t`: transparent when they match. -/
@[inline] def keyAlpha (grey : Bool) (t : ByteArray) (v₀ v₁ v₂ : Nat) : UInt8 :=
  if v₀ == Bytes.u16be t 0 && (grey || (v₁ == Bytes.u16be t 2 && v₂ == Bytes.u16be t 4)) then 0
  else 255

/-- The colour type of the frame a decoder gives: palettes become RGB, and transparency adds an
alpha channel. -/
def Info.outputColor (info : Info) : ColorType :=
  match info.header.color, info.transparency.isSome with
  | .grayscale, true => .grayscaleAlpha
  | .rgb, true | .indexed, true => .rgba
  | .indexed, false => .rgb
  | c, _ => c

/-- **Appends the 8-bit samples of pixel `i`** of a decoded scanline, as the decoder gives them. -/
@[inline] def Info.pushOutput (info : Info) (row : ByteArray) (i : Nat) (acc : ByteArray) :
    ByteArray :=
  let bits := info.header.depth.bits
  match info.header.color with
  | .grayscale =>
    let acc := acc.push (widenGray bits (sampleAt row bits i)).toUInt8
    match info.transparency with
    | some t => acc.push (keyAlpha true t (fullSampleAt row bits i) 0 0)
    | none => acc
  | .grayscaleAlpha =>
    (acc.push (sampleAt row bits (2 * i)).toUInt8).push (sampleAt row bits (2 * i + 1)).toUInt8
  | .rgb =>
    let acc := ((acc.push (sampleAt row bits (3 * i)).toUInt8).push
      (sampleAt row bits (3 * i + 1)).toUInt8).push (sampleAt row bits (3 * i + 2)).toUInt8
    match info.transparency with
    | some t =>
      acc.push (keyAlpha false t (fullSampleAt row bits (3 * i))
        (fullSampleAt row bits (3 * i + 1)) (fullSampleAt row bits (3 * i + 2)))
    | none => acc
  | .rgba =>
    (((acc.push (sampleAt row bits (4 * i)).toUInt8).push
      (sampleAt row bits (4 * i + 1)).toUInt8).push (sampleAt row bits (4 * i + 2)).toUInt8).push
      (sampleAt row bits (4 * i + 3)).toUInt8
  | .indexed =>
    let idx := sampleAt row bits i
    let acc := match info.palette with
      | some p =>
        if 3 * idx + 3 ≤ p.size then
          ((acc.push (Bytes.byteAt p (3 * idx))).push (Bytes.byteAt p (3 * idx + 1))).push
            (Bytes.byteAt p (3 * idx + 2))
        else ((acc.push 0).push 0).push 0
      | none => ((acc.push 0).push 0).push 0
    match info.transparency with
    | some t => acc.push (if idx < t.size then Bytes.byteAt t idx else 255)
    | none => acc

/-- The index among the image's passes of the pass that holds pixel `(x, y)`. -/
def Info.passOf (info : Info) (x y : Nat) : Nat :=
  ((Pass.of info.header.interlaced).findIdx? fun p => p.holds x y).getD 0

/-- Where pixel `(x, y)` is stored: the index of its scanline among all decoded scanlines, and its
index within that scanline. -/
def Info.locate (info : Info) (x y : Nat) : Nat × Nat :=
  let h := info.header
  let passes := Pass.of h.interlaced
  let k := info.passOf x y
  let p := passes.getD k Pass.whole
  let before := (passes.extract 0 k).foldl
    (fun acc q => if q.width h.width == 0 then acc else acc + q.height h.height) 0
  (before + (y - p.yStart) / p.yStep, (x - p.xStart) / p.xStep)

/-- How many column classes an image row splits into: the eight residues of `x` modulo 8 for an
interlaced image, whose passes repeat every eight columns, and one otherwise. -/
def Info.period (info : Info) : Nat :=
  if info.header.interlaced then 8 else 1

/-- Where the pixels of image row `y` are stored: for each column class `x % period`, the scanline
that holds them and their pass. Pixel `(x, y)` is then entry `(x - xStart) / xStep` of that
scanline, as `locate` says. -/
def Info.rowSources (info : Info) (rows : Array ByteArray) (y : Nat) : Array (ByteArray × Pass) :=
  (Array.range info.period).map fun r =>
    ((rows.getD (info.locate r y).1 ByteArray.empty),
      (Pass.of info.header.interlaced).getD (info.passOf r y) Pass.whole)

/-- Appends the output samples of one image row of a decoded frame, `n` pixels of it from column
`x`, whose row sources are `sources`. -/
def pushOutputRow (info : Info) (sources : Array (ByteArray × Pass)) :
    Nat → Nat → ByteArray → ByteArray
  | 0, _, acc => acc
  | n + 1, x, acc =>
    let (row, p) := sources.getD (x % sources.size) (ByteArray.empty, Pass.whole)
    pushOutputRow info sources n (x + 1) (info.pushOutput row ((x - p.xStart) / p.xStep) acc)

/-- Appends `n` zero bytes. -/
def pushZeros : Nat → ByteArray → ByteArray
  | 0, acc => acc
  | n + 1, acc => pushZeros n (acc.push 0)

/-- Appends `n` rows of a decoded frame from row `y`, each followed by `padding` zero bytes. -/
def pushOutputRows (info : Info) (rows : Array ByteArray) (padding : Nat) :
    Nat → Nat → ByteArray → ByteArray
  | 0, _, acc => acc
  | n + 1, y, acc =>
    let acc := pushOutputRow info (info.rowSources rows y) info.header.width 0 acc
    pushOutputRows info rows padding n (y + 1) (pushZeros padding acc)

/-- **The bytes a decoder fills with the frame** whose scanlines are `rows`, in an image `w` pixels
wide: its rows at its own width, or at `w` for an interlaced frame, and no more bytes than the
frame has pixels. -/
def frameBytes (frame : Info) (rows : Array ByteArray) (w : Nat) : ByteArray :=
  let fw := frame.header.width
  let fh := frame.header.height
  let channels := frame.outputColor.samples
  let stride := if frame.header.interlaced then w else fw
  let out := pushOutputRows frame rows ((stride - fw) * channels) fh 0
    (ByteArray.emptyWithCapacity (stride * fh * channels))
  if out.size > channels * fw * fh then out.extract 0 (channels * fw * fh) else out

/-- A decoded PNG as stored: its header and the bytes of its scanlines without filter bytes, row
after row. -/
structure Image where
  header : Header
  samples : ByteArray

/-- **Decodes a PNG without changing its samples**: the scanlines of its frame are unfiltered
and joined, with samples at the header's depth and in the header's colour type. -/
def decodeImage (file : ByteArray) : Except PngFault Image := do
  let info ← readInfo file
  let rows ← readFrame file info
  return ⟨info.frameHeader, rows.foldl (· ++ ·) ByteArray.empty⟩

end Raster.Png
