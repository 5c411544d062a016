import Raster.Png.Info
import Raster.Png.Interlace
import Raster.Png.Filter
import Raster.Deflate.Inflate

set_option autoImplicit false

/-!
# Reading a PNG's image data

The image data is a zlib stream spread over a run of consecutive data chunks of one type (IDAT,
or fdAT with a sequence number before the data); a chunk of another type ends the run, and
nothing after it is read. The stream inflates to the scanlines of the frame, pass after pass,
each a filter type byte and the filtered bytes.

A reader takes the run in steps and looks at the scanlines between steps. A step feeds what is
left of the current chunk's data to the inflater, or checks the chunk's CRC, or reads the header
of the next chunk (and, in an fdAT run, its sequence number). After each step the reader takes
every scanline now complete, in order: its filter type must be 0 to 4, and an indexed image
needs a palette by its first scanline, one the decoder can expand the image with
(`paletteFault`). Once all scanlines are in, the reader still reads to the
end of the run, so a fault in the rest of the stream or a bad CRC after the last scanline is
reported too. When the run ends, the stream must be complete; a run that ends before the last
scanline does not have enough data.

How much the inflater does in one step is decided by the output buffer it is lent
(`Raster.Png.Window`): the buffer first stops at the bound the header sets (`Header.dataBound`),
so for an image that is not interlaced the inflater stops at the end of the scanlines, and they
are looked at before any data after them is inflated. A frame control read before the image data
lifts the bound.
-/

namespace Raster.Png

/-! ## The inflater's output buffer -/

/-- The step by which the output buffer grows, and the window of history it keeps. -/
def bufferStep : Nat := 32 * 1024

/-- The output buffer a reader lends the inflater, as lengths: its size, where the next byte
goes, and how far it may grow. -/
structure Window where
  size : Nat
  pos : Nat
  bound : Option Nat

/-- **Grows the buffer before a read**: by its own size, at least a step, while less than a step
is free, but not past the bound. A bound the output has reached is dropped. -/
def Window.prepare (w : Window) : Window :=
  let bound := match w.bound with
    | some b => if w.pos ≥ b then none else some b
    | none => none
  let capped (n : Nat) : Nat := match bound with
    | some b => min n b
    | none => n
  if w.size ≥ capped (w.pos + bufferStep) then { w with bound := bound }
  else { w with size := capped (w.size + max bufferStep w.size), bound := bound }

/-- Keeps only the last step of output once more than four steps are in. -/
def Window.compact (w : Window) : Window :=
  if w.pos > 4 * bufferStep then { w with pos := bufferStep } else w

/-- The compressed image data as a reader holds it: the inflater, its buffer, whether any input
went in, and all output so far. -/
structure Stream where
  inf : Deflate.Inflater
  window : Window
  started : Bool
  out : ByteArray

/-- **Feeds bytes `pos` up to `stop` of the file** to the inflater, giving the stream and how
many bytes it took. A complete stream takes everything and ignores it. -/
def Stream.feed (st : Stream) (file : ByteArray) (pos stop : Nat) :
    Except PngFault (Stream × Nat) :=
  let ⟨inf, window, started, out⟩ := st
  if inf.isDone then .ok (⟨inf, window, started, out⟩, stop - pos)
  else
    let w := window.prepare
    let before := out.size
    match inf.read ⟨file, pos, stop⟩ out (before + (w.size - w.pos)) false with
    | .error f => .error (.corruptStream f)
    | .ok p =>
      let w := { w with pos := w.pos + (p.out.size - before) }
      .ok (⟨p.inf, w.compact, true, p.out⟩, p.src.pos - pos)

/-- Reads on with no more input until the stream is complete. Each read adds output or ends
the stream, and at most 63 bits and one owed copy are left, so a few thousand reads are more
than enough. -/
def Stream.drain : Nat → Stream → Except PngFault Stream
  | 0, st => .ok st
  | fuel + 1, ⟨inf, window, started, out⟩ =>
    if inf.isDone then .ok ⟨inf, window, started, out⟩
    else
      let w := window.prepare
      let before := out.size
      match inf.read ⟨ByteArray.empty, 0, 0⟩ out (before + (w.size - w.pos)) true with
      | .error f => .error (.corruptStream f)
      | .ok p =>
        let w := { w with pos := w.pos + (p.out.size - before) }
        Stream.drain fuel ⟨p.inf, if p.inf.isDone then w else w.compact, true, p.out⟩

/-- **Ends the stream** when the run of data chunks ends: a stream that got input must be
complete. -/
def Stream.finish (st : Stream) : Except PngFault Stream :=
  if st.started then Stream.drain 20000 st else .ok st

/-! ## The run of data chunks -/

/-- Where a reader is in the run of data chunks; `cp` is the offset of a chunk's length field. -/
inductive Place where
  /-- Before the sequence number of a frame data chunk. -/
  | sequence (cp : Nat)
  /-- Inside a chunk's image data, `q` bytes in. -/
  | data (cp q : Nat)
  /-- Before a chunk's CRC. -/
  | crc (cp : Nat)
  /-- Before the chunk at `cp`. -/
  | next (cp : Nat)
  /-- After the run. -/
  | flushed
  deriving DecidableEq

/-- A reader of the image data. -/
structure Reading where
  place : Place
  stream : Stream
  /-- The sequence number of the last animation chunk read. -/
  sequence : Option Nat

/-- Bytes before the image data of a chunk of the run: four for a sequence number. -/
def dataOffset (kind : ChunkKind) : Nat :=
  if kind == .frameData then 4 else 0

/-- **One step** through the run of data chunks of type `kind` in `file`. -/
def Reading.step (file : ByteArray) (kind : ChunkKind) : Reading → Except PngFault Reading
  | ⟨.flushed, stream, last⟩ => return ⟨.flushed, stream, last⟩
  | ⟨.sequence cp, stream, last⟩ => do
    if cp + 12 > file.size then throw .endOfFile
    let seq := Bytes.u32be file (cp + 8)
    if seq != nextSequence last then throw (.sequenceOrder (nextSequence last) seq)
    return ⟨.data cp 0, stream, some seq⟩
  | ⟨.data cp q, stream, last⟩ => do
    let len := Bytes.u32be file cp
    let start := cp + 8 + dataOffset kind
    let size := len - dataOffset kind
    if start + q ≥ file.size then throw .endOfFile
    let (stream, taken) ← stream.feed file (start + q) (min (start + size) file.size)
    let q := q + taken
    return ⟨if q ≥ size then .crc cp else .data cp q, stream, last⟩
  | ⟨.crc cp, stream, last⟩ => do
    let len := Bytes.u32be file cp
    if cp + 12 + len > file.size then throw .endOfFile
    let stored := Bytes.u32be file (cp + 8 + len)
    let computed := chunkCrc kind (Bytes.slice file (cp + 8) len)
    if stored != computed && kind.isCritical then throw (.crcMismatch stored computed kind)
    return ⟨.next (cp + 12 + len), stream, last⟩
  | ⟨.next cp, stream, last⟩ => do
    if cp + 8 > file.size then throw .endOfFile
    if ChunkKind.read file (cp + 4) != kind then
      return ⟨.flushed, ← stream.finish, last⟩
    if kind == .frameData then
      if Bytes.u32be file cp < 4 then throw .shortFrameData
      return ⟨.sequence cp, stream, last⟩
    return ⟨.data cp 0, stream, last⟩

/-! ## Scanlines -/

/-- One scanline to read: its pass and its length with the filter byte. -/
structure Line where
  pass : Nat
  length : Nat

/-- The scanlines of an image in stored order. -/
def Header.lines (h : Header) : Array Line :=
  (List.range (Pass.of h.interlaced).size).foldl
    (fun acc k =>
      let p := (Pass.of h.interlaced).getD k Pass.whole
      let w := p.width h.width
      let rows := p.height h.height
      if w == 0 || rows == 0 then acc
      else acc ++ Array.replicate rows ⟨k, 1 + h.rowBytes w⟩)
    #[]

/-- What stops the expansion of an indexed image with a palette of `n` bytes: the table of 256
entries is filled three bytes at a time, four bytes read while they last, so more than 768 bytes
overrun it, and a length that is not a multiple of three leaves a cut entry. -/
def paletteFault (n : Nat) : Option PngFault :=
  if n > 768 then some .paletteOverflow
  else if n % 3 != 0 then some (.paletteRemainder (n % 3))
  else none

/-- **Takes the scanlines that are complete** in `raw`, from line `i` at byte `off` on: each
filter type must be 0 to 4, and an indexed image needs a sound palette by its first line. Gives
how far the lines go now. -/
def takeLines (info : Info) (lines : Array Line) (raw : ByteArray) :
    Nat → Nat → Nat → Except PngFault (Nat × Nat)
  | 0, i, off => .ok (i, off)
  | fuel + 1, i, off =>
    match lines[i]? with
    | none => .ok (i, off)
    | some line =>
      if off + line.length > raw.size then .ok (i, off)
      else
        let kind := Bytes.get raw off
        if kind > 4 then .error (.filterMethod kind)
        else if i == 0 && info.header.color == .indexed then
          match info.palette with
          | none => .error .missingPalette
          | some p =>
            match paletteFault p.size with
            | some f => .error f
            | none => takeLines info lines raw fuel (i + 1) (off + line.length)
        else takeLines info lines raw fuel (i + 1) (off + line.length)

/-- Steps until the run ends. -/
def Reading.toEnd (file : ByteArray) (kind : ChunkKind) : Nat → Reading → Except PngFault Reading
  | 0, r => .ok r
  | fuel + 1, r =>
    if r.place == .flushed then .ok r
    else do Reading.toEnd file kind fuel (← r.step file kind)

/-- Steps through the run, taking scanlines after each step; once all are in, reads on to the
end of the run. -/
def Reading.run (file : ByteArray) (info : Info) (lines : Array Line) :
    Nat → Reading → Nat → Nat → Except PngFault Reading
  | 0, r, _, _ => .ok r
  | fuel + 1, r, i, off => do
    let (i, off) ← takeLines info lines r.stream.out (lines.size + 1) i off
    if i ≥ lines.size then Reading.toEnd file info.dataKind fuel r
    else if r.place == .flushed then throw .notEnoughData
    else Reading.run file info lines fuel (← r.step file info.dataKind) i off

/-- Unfilters the scanlines of `raw`: line `i` starts at byte `off`, and `prev` is the decoded
line above in the same pass. -/
def unfilterLines (info : Info) (lines : Array Line) (raw : ByteArray) :
    Nat → Nat → Nat → ByteArray → Array ByteArray → Array ByteArray
  | 0, _, _, _, rows => rows
  | fuel + 1, i, off, prev, rows =>
    match lines[i]? with
    | none => rows
    | some line =>
      let above := if i > 0 && (lines[i - 1]?.map (·.pass)) == some line.pass then prev
        else ByteArray.empty
      let row := unfilter (Bytes.get raw off) info.header.filterStride above
        (Bytes.slice raw (off + 1) (line.length - 1))
      unfilterLines info lines raw fuel (i + 1) (off + line.length) row (rows.push row)

/-- **Reads the image data** of a PNG whose chunks before it say `info`, giving the decoded
scanlines of every pass of the frame, in stored order and without their filter bytes. An
animation whose frames all come after the image data has no frame to give. -/
def readFrame (file : ByteArray) (info : Info) : Except PngFault (Array ByteArray) := do
  if info.remainingFrames == 0 then throw .endOfImage
  let frame := info.ofFrame
  let lines := frame.header.lines
  let bound := if info.frame.isSome then none else some info.header.dataBound
  let start : Reading :=
    ⟨if info.dataKind == .frameData then .sequence info.firstData else .data info.firstData 0,
      ⟨{}, ⟨0, 0, bound⟩, false, ByteArray.empty⟩, info.sequence⟩
  let r ← Reading.run file frame lines (2100 * file.size + 4 * lines.size + 64) start 0 0
  return unfilterLines frame lines r.stream.out (lines.size + 1) 0 0 ByteArray.empty #[]

end Raster.Png
