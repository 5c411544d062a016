import Raster.Png.Header
import Raster.Png.Crc
import Raster.Png.Text
import Raster.Png.Animation
import Raster.Deflate.Inflate

set_option autoImplicit false

/-!
# Reading a PNG up to its image data

A reader checks the signature and then reads chunks until the first data chunk: IDAT, or the
fdAT of an animation frame. On the way it reads the header, the palette and the transparency,
checks the fields of the ancillary chunks it knows, follows the animation chunks, and skips
chunks it does not know. A chunk's data is read before its CRC, so a bad field is reported before
a bad checksum; a chunk with no data is not read at all. An ancillary chunk with a bad checksum
is dropped quietly once read, a critical one is an error.

The ancillary chunks checked are gAMA, cHRM, sRGB and pHYs (each at most once, with enough data,
and valid codes), the three text chunks (`Raster.Png.Text`), and acTL and fcTL
(`Raster.Png.Animation`). Two are taken only if they are sound, and passed over quietly if not:
the significant bits (sBIT), and an embedded colour profile (iCCP), which is inflated. Only the
first colour profile is tried.

A reader grants 64 MiB in all to what it keeps: the palette, the transparency, every text chunk,
the significant bits, the colour profile, and last one decoded row of the image data's frame.
Running out is a limits fault. So is a header whose decoded image would not fit in a 64-bit
address space; that is checked as soon as the header is read, before its CRC.
-/

namespace Raster.Png

/-- What a PNG says before its image data. -/
structure Info where
  header : Header
  palette : Option ByteArray
  transparency : Option ByteArray
  /-- The frame control that the image data belongs to, if any. -/
  frame : Option FrameControl
  /-- The number of animation frames an animation control announces. -/
  frames : Option Nat
  /-- The sequence number of the last animation chunk read. -/
  sequence : Option Nat
  /-- The type of the first data chunk: IDAT or fdAT. -/
  dataKind : ChunkKind
  /-- Offset of the first data chunk, at its length field. -/
  firstData : Nat
  /-- What is left of the memory the reader grants. -/
  budget : Nat

/-- The eight bytes every PNG file starts with. -/
def signature : ByteArray := ⟨#[137, 80, 78, 71, 13, 10, 26, 10]⟩

/-- The memory a reader grants. -/
def memoryBudget : Nat := 64 * 1024 * 1024

/-- What the chunks read so far have said. -/
structure Scan where
  header : Option Header := none
  palette : Option ByteArray := none
  transparency : Option ByteArray := none
  gamma : Bool := false
  chromaticities : Bool := false
  standardRgb : Bool := false
  physicalSize : Bool := false
  /-- Whether significant bits have been taken. -/
  significantBits : Bool := false
  /-- Whether a colour profile has been tried. -/
  colorProfile : Bool := false
  frames : Option Nat := none
  frame : Option FrameControl := none
  sequence : Option Nat := none
  /-- Whether a frame control has opened a run of frame data chunks. -/
  frameDataReady : Bool := false
  budget : Nat := memoryBudget

/-- Takes `n` bytes of the budget. -/
def Scan.reserve (sc : Scan) (n : Nat) : Except PngFault Scan :=
  if n ≤ sc.budget then .ok { sc with budget := sc.budget - n } else .error .limits

/-- Takes in a transparency chunk: one sample for greyscale, three for RGB, alpha values for a
palette that must come first; images with an alpha channel have none. A second transparency
chunk is reported as a repeated palette chunk. -/
def Scan.addTransparency (sc : Scan) (h : Header) (d : ByteArray) : Except PngFault Scan := do
  if sc.transparency.isSome then throw (.duplicate .palette)
  let sc ← sc.reserve d.size
  match h.color with
  | .grayscale =>
    if d.size < 2 then throw (.shortTransparency 2 d.size)
    return { sc with transparency := some d }
  | .rgb =>
    if d.size < 6 then throw (.shortTransparency 6 d.size)
    return { sc with transparency := some d }
  | .indexed =>
    if sc.palette.isNone then throw (.beforePalette .transparency)
    return { sc with transparency := some d }
  | c => throw (.transparencyWithAlpha c)

/-- Checks a chunk that may appear once and has a fixed layout: `seen` says whether it appeared
before, `size` how many bytes its fields take, and `check` checks them. -/
def checkOnce (kind : ChunkKind) (seen : Bool) (size : Nat) (d : ByteArray)
    (check : Except PngFault Unit) : Except PngFault Unit := do
  if seen then throw (.duplicate kind)
  if d.size < size then throw (.tooShort kind)
  check

/-- Tries the colour profile of an iCCP chunk: a name of 1 to 80 bytes and a zero byte,
compression method 0, and a zlib stream that inflates within the budget. The profile's length is
taken from the budget; a chunk that fails leaves the budget as it was. Either way no later profile
is tried. -/
def Scan.addProfile (sc : Scan) (d : ByteArray) : Scan :=
  let tried := { sc with colorProfile := true }
  match findZero d 0 with
  | some k =>
    if k == 0 || k > 80 || k + 1 ≥ d.size || Bytes.get d (k + 1) != 0 then tried
    else
      match Deflate.inflateAll (d.extract (k + 2) d.size) sc.budget with
      | some profile =>
        if profile.size ≤ sc.budget then { tried with budget := sc.budget - profile.size }
        else tried
      | none => tried
  | none => tried

/-- The significant bits an sBIT chunk gives for each channel of an image of colour type `c`:
three for a palette's red, green and blue. -/
def significantBitsSize (c : ColorType) : Nat :=
  if c == .indexed then 3 else c.samples

/-- Tries an sBIT chunk: none after the palette or after one taken. Its bytes are taken from the
budget first; then it must give one value per channel, each from 1 to the sample depth (8 for a
palette). A chunk that fails is passed over, its bytes still taken. -/
def Scan.addSignificantBits (sc : Scan) (h : Header) (d : ByteArray) : Scan :=
  if sc.palette.isSome || sc.significantBits then sc
  else
    match sc.reserve d.size with
    | .error _ => sc
    | .ok sc =>
      let depth := if h.color == .indexed then 8 else h.depth.bits
      if d.size == significantBitsSize h.color && d.data.all (fun v => 1 ≤ v.toNat && v.toNat ≤ depth)
      then { sc with significantBits := true }
      else sc

/-- Channels of a decoded pixel while no transparency is known: samples are spelled out as
colour and alpha channels, a palette entry as red, green and blue. -/
def ColorType.channels : ColorType → Nat
  | .grayscale => 1
  | .grayscaleAlpha => 2
  | .rgb | .indexed => 3
  | .rgba => 4

/-- Whether the decoded image of a header would not fit in a 64-bit address space. -/
def Header.decodedTooLarge (h : Header) : Bool :=
  h.width * h.color.channels * h.height ≥ 1 <<< 64

/-- **Takes in the data of a chunk** of a known kind; other kinds are skipped. -/
def Scan.add (sc : Scan) (kind : ChunkKind) (d : ByteArray) : Except PngFault Scan := do
  if kind == .header then
    if sc.header.isSome then throw (.duplicate .header)
    let h ← Header.parse d
    if h.decodedTooLarge then throw .limits
    return { sc with header := some h }
  else if kind == .palette then
    if sc.palette.isSome then throw (.duplicate .palette)
    let sc ← sc.reserve d.size
    return { sc with palette := some d }
  else if kind == .transparency then
    match sc.header with
    | some h => sc.addTransparency h d
    | none => return sc
  else if kind == .gamma then
    checkOnce kind sc.gamma 4 d (pure ())
    return { sc with gamma := true }
  else if kind == .chromaticities then
    checkOnce kind sc.chromaticities 32 d (pure ())
    return { sc with chromaticities := true }
  else if kind == .standardRgb then
    checkOnce kind sc.standardRgb 1 d
      (if Bytes.get d 0 > 3 then throw (.renderingIntent (Bytes.get d 0)) else pure ())
    return { sc with standardRgb := true }
  else if kind == .physicalSize then
    checkOnce kind sc.physicalSize 9 d
      (if Bytes.get d 8 > 1 then throw (.pixelUnit (Bytes.get d 8)) else pure ())
    return { sc with physicalSize := true }
  else if kind == .text then
    let sc ← sc.reserve d.size
    (checkText d).mapError .text
    return sc
  else if kind == .compressedText then
    let sc ← sc.reserve d.size
    (checkCompressedText d).mapError .text
    return sc
  else if kind == .internationalText then
    let sc ← sc.reserve d.size
    (checkInternationalText d).mapError .text
    return sc
  else if kind == .colorProfile then
    return if sc.colorProfile then sc else sc.addProfile d
  else if kind == .significantBits then
    match sc.header with
    | some h => return sc.addSignificantBits h d
    | none => return sc
  else if kind == .animationControl then
    if d.size < 8 then throw (.tooShort kind)
    return { sc with frames := some (Bytes.u32be d 0) }
  else if kind == .frameControl then
    match sc.header with
    | some h =>
      let fc ← FrameControl.parse h sc.sequence d
      return { sc with frame := some fc, sequence := some fc.sequence, frameDataReady := true }
    | none => return sc
  else return sc

/-- The CRC of a chunk: of its type and its data. -/
def chunkCrc (kind : ChunkKind) (d : ByteArray) : Nat :=
  Crc.of (kind.bytes ++ d)

/-- The information of a scan that has reached its first data chunk. -/
def Scan.info (sc : Scan) (h : Header) (kind : ChunkKind) (p : Nat) : Info :=
  ⟨h, sc.palette, sc.transparency, sc.frame, sc.frames, sc.sequence, kind, p, sc.budget⟩

/-- Reads chunks from offset `p` until the first data chunk. Each chunk takes at least twelve
bytes, so a fuel of the file's length is enough. -/
def readChunks (file : ByteArray) : Nat → Nat → Scan → Except PngFault Info
  | 0, _, _ => .error .endOfFile
  | fuel + 1, p, sc => do
    if p + 8 > file.size then throw .endOfFile
    let len := Bytes.u32be file p
    let kind := ChunkKind.read file (p + 4)
    if sc.header.isNone && kind != .header then throw (.beforeHeader kind)
    if kind == .data || kind == .frameData then
      if kind == .frameData then
        if !sc.frameDataReady then throw (.restart kind)
        if len < 4 then throw .shortFrameData
      match sc.header with
      | some h => return sc.info h kind p
      | none => throw (.beforeHeader kind)
    if p + 8 + len > file.size then throw .endOfFile
    let d := Bytes.slice file (p + 8) len
    let sc ← if len == 0 then pure sc else sc.add kind d
    if p + 12 + len > file.size then throw .endOfFile
    let stored := Bytes.u32be file (p + 8 + len)
    let computed := chunkCrc kind d
    if stored != computed && kind.isCritical then throw (.crcMismatch stored computed kind)
    if stored == computed && kind == .trailer then throw .missingImageData
    readChunks file fuel (p + 12 + len) sc

/-- Bytes one decoded row of `w` pixels takes once samples are widened or cut to 8 bits and
palette entries and transparency are spelled out as colour and alpha channels. -/
def Info.lineBytesOf (i : Info) (w : Nat) : Nat :=
  let alpha := if i.transparency.isSome then 1 else 0
  let channels := match i.header.color with
    | .grayscale | .rgb | .indexed => i.header.color.channels + alpha
    | c => c.channels
  w * channels

/-- Bytes one decoded row of the whole image takes. -/
def Info.lineBytes (i : Info) : Nat := i.lineBytesOf i.header.width

/-- The header of the frame the image data holds: the image's, at the frame control's size when
there is one. -/
def Info.frameHeader (i : Info) : Header :=
  match i.frame with
  | some fc => fc.header i.header
  | none => i.header

/-- The information with the header of the frame the image data holds. -/
def Info.ofFrame (i : Info) : Info := { i with header := i.frameHeader }

/-- How many frames are left to read: an animation's frames, plus the image data itself when no
frame control comes before it; one for an image that is not animated. -/
def Info.remainingFrames (i : Info) : Nat :=
  match i.frames with
  | some n => if i.frame.isSome then n else n + 1
  | none => 1

/-- **Reads a PNG up to its image data**: the signature, then the chunks before the first data
chunk, and last one decoded row of its frame taken from the budget. -/
def readInfo (file : ByteArray) : Except PngFault Info := do
  if file.size < 4 then throw .endOfFile
  if Bytes.slice file 0 4 != Bytes.slice signature 0 4 then throw .signature
  if file.size < 8 then throw .endOfFile
  if Bytes.slice file 4 4 != Bytes.slice signature 4 4 then throw .signature
  let info ← readChunks file file.size 8 {}
  if info.lineBytesOf info.frameHeader.width > info.budget then throw .limits
  return info

end Raster.Png
