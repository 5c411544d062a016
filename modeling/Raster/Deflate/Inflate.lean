import Raster.Deflate.Table
import Raster.Deflate.Fault
import Raster.Deflate.Store

set_option autoImplicit false

/-!
# Inflating a zlib stream

A zlib stream is a two-byte header, deflate blocks (stored, fixed-code or dynamic-code), and a
four-byte checksum after the final block. The inflater here reads it in pieces: each `read` takes
some input and room for some output, goes as far as both allow, and says how much input it took.
What a reader does between reads (check a chunk's CRC, hand out rows of an image) can depend on
where a read stopped, so where it stops is part of the contract:

* Input is taken a whole byte at a time into a buffer of at most 63 bits, as many bytes as fit,
  whenever the inflater looks for more bits. A read therefore takes the rest of its input as soon
  as that is at most seven bytes, and leaves the rest of a stored block's input it has no room
  for.
* Each part of the stream waits until all of its bits are in: a block header for ten bits (a
  stored block's for its length fields, a dynamic block's for seventeen), a code length for seven
  bits, a symbol for the bits its table entry spans (`Raster.Deflate.Table`). A distance code that
  names no distance is a fault only once ten more bits than the length code are in.
* Output stops at the room given. A literal pair or a copy that does not fit is owed, and paid
  first by the next read. An end-of-block code needs no room: once the room is full, it is still
  read, and so is whatever follows the block up to the next symbol.
* A read that is told its input is final reports `insufficientInput` when it stops before the
  end of the stream with room to spare.

The checksum is compared with the output only when asked; otherwise it is skipped.
-/

namespace Raster.Deflate

/-! ## Input -/

/-- Bits taken from the input and not yet used, the oldest in the lowest place. -/
structure BitBuffer where
  value : UInt64
  count : Nat

/-- The part of a buffer still to be read: bytes `pos` up to `stop`. -/
structure Source where
  bytes : ByteArray
  pos : Nat
  stop : Nat

/-- How many bytes of the source are left. -/
def Source.left (s : Source) : Nat := s.stop - s.pos

/-- Moves `k` bytes from the source into the bit buffer. -/
def BitBuffer.take : Nat → BitBuffer → Source → BitBuffer × Source
  | 0, b, s => (b, s)
  | k + 1, b, s =>
    BitBuffer.take k
      ⟨b.value ||| ((Bytes.byteAt s.bytes s.pos).toUInt64 <<< b.count.toUInt64), b.count + 8⟩
      { s with pos := s.pos + 1 }

/-- **Refills the bit buffer**: takes whole bytes from the source while they fit in 63 bits. -/
def BitBuffer.fill (b : BitBuffer) (s : Source) : BitBuffer × Source :=
  BitBuffer.take (min s.left ((63 - b.count) / 8)) b s

/-- The oldest `n` bits of the buffer as a number. -/
@[inline] def BitBuffer.peek (b : BitBuffer) (n : Nat) : Nat :=
  b.value.toNat % (1 <<< n)

/-- Drops the oldest `n` bits. -/
@[inline] def BitBuffer.drop (b : BitBuffer) (n : Nat) : BitBuffer :=
  ⟨b.value >>> n.toUInt64, b.count - n⟩

/-! ## State -/

/-- Where the inflater is in the stream. -/
inductive Stage where
  | header
  | block
  /-- The lengths of the code-length code are due. -/
  | codeLengthCodes (hlit hdist hclen : Nat)
  /-- The code lengths of a dynamic block are due; `lengths` holds those read so far. -/
  | codeLengths (hlit hdist : Nat) (cl : Code) (lengths : Array Nat)
  | compressed (codes : BlockCodes)
  /-- Inside a stored block with `left` bytes to go. -/
  | stored (left : Nat)
  | checksum
  | done

/-- A number for each kind of stage, to tell whether a step moved on to another kind. -/
def Stage.kind : Stage → Nat
  | .header => 0
  | .block => 1
  | .codeLengthCodes .. => 2
  | .codeLengths .. => 3
  | .compressed .. => 4
  | .stored _ => 5
  | .checksum => 6
  | .done => 7

/-- Output that a read had no room for. -/
inductive Owed where
  /-- `n` more copies of a byte. -/
  | repeat (byte : UInt8) (n : Nat)
  /-- `n` more bytes copied from `dist` bytes back. -/
  | copy (dist n : Nat)

/-- An inflater between reads. -/
structure Inflater where
  stage : Stage := .header
  bits : BitBuffer := ⟨0, 0⟩
  /-- Whether the current block is the final one. -/
  last : Bool := false
  owed : Option Owed := none
  /-- Whether the checksum is compared with the output. -/
  verify : Bool := false

/-- An inflater with the input left and the output so far. -/
structure Progress where
  inf : Inflater
  src : Source
  out : ByteArray

/-- Refills the bit buffer of a progress. -/
def Progress.fill (p : Progress) : Progress :=
  let (b, s) := p.inf.bits.fill p.src
  { p with inf := { p.inf with bits := b }, src := s }

/-- Drops `n` bits. -/
@[inline] def Progress.drop (p : Progress) (n : Nat) : Progress :=
  { p with inf := { p.inf with bits := p.inf.bits.drop n } }

/-- Moves to another stage. -/
@[inline] def Progress.moveTo (p : Progress) (s : Stage) : Progress :=
  { p with inf := { p.inf with stage := s } }

/-! ## Output -/

/-- Appends `n` bytes copied from `dist` bytes back, one at a time so that the copy may overlap
itself. -/
def copyBack (dist : Nat) : Nat → ByteArray → ByteArray
  | 0, out => out
  | n + 1, out => copyBack dist n (out.push (Bytes.byteAt out (out.size - dist)))

/-- Appends `n` copies of a byte. -/
def pushRepeat (b : UInt8) : Nat → ByteArray → ByteArray
  | 0, out => out
  | n + 1, out => pushRepeat b n (out.push b)

/-- Pays as much owed output as the room up to `limit` allows, giving what is still owed. -/
def Owed.pay (o : Owed) (limit : Nat) (out : ByteArray) : ByteArray × Option Owed :=
  match o with
  | .repeat b n =>
    let k := min n (limit - out.size)
    (pushRepeat b k out, if k < n then some (.repeat b (n - k)) else none)
  | .copy dist n =>
    let k := min n (limit - out.size)
    (copyBack dist k out, if k < n then some (.copy dist (n - k)) else none)

/-! ## Headers -/

/-- Reads the zlib header once sixteen bits are in. -/
def headerStep (p : Progress) : Except Fault Progress :=
  let p := p.fill
  let b := p.inf.bits
  if b.count < 16 then .ok p
  else
    let cmf := b.peek 8
    let flg := b.peek 16 / 256
    if cmf % 16 != 8 || cmf / 16 > 7 || (flg / 32) % 2 == 1 || (cmf * 256 + flg) % 31 != 0 then
      .error .badHeader
    else .ok ((p.drop 16).moveTo .block)

/-- Skips empty non-final fixed-code blocks, ten bits each, while they are in. -/
def skipEmptyBlocks : Nat → Progress → Progress
  | 0, p => p
  | fuel + 1, p =>
    let b := p.inf.bits
    if b.count ≥ 10 && b.peek 10 == 2 then skipEmptyBlocks fuel (p.drop 10).fill else p

/-- **Reads a block header** once ten bits are in, and the fields after it that decide where the
block goes: a stored block's lengths, or a dynamic block's three counts. An empty fixed-code
block is passed over at once, and so are the empty non-final ones after it. -/
def blockStep : Nat → Progress → Except Fault Progress
  | 0, p => .ok p
  | fuel + 1, p =>
    let p := p.fill
    let b := p.inf.bits
    if b.count < 10 then .ok p
    else
      let start := b.peek 3
      let last := start % 2 == 1
      let p := { p with inf := { p.inf with last := last } }
      match start / 2 with
      | 0 =>
        let align := (b.count - 3) % 8
        let headerBits := 35 + align
        if b.count < headerBits then .ok p
        else
          let len := (b.peek (align + 19) >>> (align + 3)) % 65536
          let nlen := b.peek headerBits >>> (align + 19)
          if len + nlen != 65535 then .error .invalidStoredLength
          else .ok ((p.drop headerBits).moveTo (.stored len))
      | 1 =>
        let p := p.drop 3
        if p.inf.bits.peek 7 == 0 then
          let p := p.drop 7
          if last then .ok (p.moveTo .checksum)
          else blockStep fuel (skipEmptyBlocks (p.inf.bits.count + 8 * p.src.left) p)
        else .ok (p.moveTo (.compressed fixedCodes))
      | 2 =>
        if b.count < 17 then .ok p
        else
          let hlit := b.peek 8 / 8 + 257
          let hdist := (b.peek 13 / 256) % 32 + 1
          let hclen := (b.peek 17 / 8192) % 16 + 4
          if hlit > 286 then .error .invalidLiteralCount
          else if hdist > 30 then .error .invalidDistanceCount
          else .ok ((p.drop 17).moveTo (.codeLengthCodes hlit hdist hclen))
      | _ => .error .invalidBlockType

/-- The order in which a dynamic block lists the code lengths of the code-length code. -/
def codeLengthOrder : Array Nat :=
  #[16, 17, 18, 0, 8, 7, 9, 6, 10, 5, 11, 4, 12, 3, 13, 2, 14, 1, 15]

/-- Reads the three-bit lengths of the code-length code, from the `i`-th on, refilling once after
the eighteenth. -/
def readCodeLengthCodes (hclen : Nat) : Nat → Nat → Array Nat → Progress → Array Nat × Progress
  | 0, _, acc, p => (acc, p)
  | fuel + 1, i, acc, p =>
    if i ≥ hclen then (acc, p)
    else
      let v := p.inf.bits.peek 3
      let p := p.drop 3
      let p := if i == 17 then p.fill else p
      readCodeLengthCodes hclen fuel (i + 1) (acc.set! (codeLengthOrder.getD i 0) v) p

/-- Reads the code-length code once all of its bits are in, counting input not yet taken. -/
def codeLengthCodesStep (hlit hdist hclen : Nat) (p : Progress) : Except Fault Progress :=
  let p := p.fill
  if p.inf.bits.count + 8 * p.src.left < 3 * hclen then .ok p
  else
    let (lengths, p) := readCodeLengthCodes hclen hclen 0 (Array.replicate 19 0) p
    if !isComplete lengths then .error .badCodeLengthCode
    else .ok (p.moveTo (.codeLengths hlit hdist (Code.ofLengths lengths) #[]))

/-- The tables of a dynamic block from its code lengths: the end-of-block symbol needs a code,
the literal/length code must be complete, and the distance code complete, a single one-bit code,
or empty. -/
def blockCodes (hlit : Nat) (lengths : Array Nat) : Except Fault BlockCodes :=
  let lit := lengths.extract 0 hlit
  let dist := lengths.extract hlit lengths.size
  if lit.getD 256 0 == 0 then .error .missingEndOfBlock
  else if !isComplete lit then .error .badLiteralLengthCode
  else if !(isComplete dist || (used dist == 1 && longest dist == 1) || used dist == 0) then
    .error .badDistanceCode
  else .ok ⟨LiteralTable.ofCode (Code.ofLengths lit), DistanceTable.ofLengths dist⟩

/-- What reading code lengths leads to. -/
inductive LengthsRead where
  /-- All lengths are in. -/
  | complete (lengths : Array Nat) (p : Progress)
  /-- More bits are needed; `lengths` holds those read so far. -/
  | waiting (lengths : Array Nat) (p : Progress)

/-- Reads code lengths with the code-length code `cl` until `count` are in, each once seven bits
are in, and a repeat once its extra bits are too. -/
def readLengths (cl : Code) (count : Nat) :
    Nat → Array Nat → Progress → Except Fault LengthsRead
  | 0, acc, p => .ok (.waiting acc p)
  | fuel + 1, acc, p =>
    if acc.size ≥ count then .ok (.complete acc p)
    else
      let p := p.fill
      let b := p.inf.bits
      if b.count < 7 then .ok (.waiting acc p)
      else
        let (sym, len) := (cl.lookup (b.peek 7) 7).getD (0, 7)
        if sym < 16 then readLengths cl count fuel (acc.push sym) (p.drop len)
        else
          let extra := if sym == 16 then 2 else if sym == 17 then 3 else 7
          if b.count < len + extra then .ok (.waiting acc p)
          else if sym == 16 && acc.size == 0 then .error .invalidRepeat
          else
            let times := (if sym == 18 then 11 else 3) + (b.peek (len + extra) >>> len)
            if acc.size + times > count then .error .invalidRepeat
            else
              let value := if sym == 16 then acc.getD (acc.size - 1) 0 else 0
              readLengths cl count fuel (acc ++ Array.replicate times value)
                (p.drop (len + extra))

/-- Reads the code lengths of a dynamic block and builds its tables once all are in. -/
def codeLengthsStep (hlit hdist : Nat) (cl : Code) (lengths : Array Nat) (p : Progress) :
    Except Fault Progress := do
  match ← readLengths cl (hlit + hdist) (hlit + hdist + 1) lengths p with
  | .waiting acc p => return p.moveTo (.codeLengths hlit hdist cl acc)
  | .complete acc p =>
    let codes ← blockCodes hlit acc
    return p.moveTo (.compressed codes)

/-! ## Compressed data -/

/-- What a back-reference's distance code gives, once its length is known. -/
inductive DistanceRead where
  /-- The distance and the bits that length and distance take together. -/
  | found (dist bits : Nat)
  /-- More bits are needed. -/
  | waiting

/-- Decodes the distance of a back-reference whose length code and extra bits take `lbits` bits
of `v`; `count` bits are in. -/
def readDistance (t : DistanceTable) (v count lbits : Nat) : Except Fault DistanceRead :=
  let w := v >>> lbits
  let finish (base extra bits : Nat) : DistanceRead :=
    .found (base + (w >>> bits) % (1 <<< extra)) (lbits + bits + extra)
  match t.entry w with
  | .distance base extra bits => .ok (finish base extra bits)
  | .invalid => if count > lbits + 9 then .error .invalidDistanceSymbol else .ok .waiting
  | .long =>
    if count > lbits + 9 then
      match t.code.lookup w 15 with
      | some (s, bits) =>
        if s < 30 then .ok (finish (distanceBase.getD s 0) (distanceExtra.getD s 0) bits)
        else .error .invalidDistanceSymbol
      | none => .error .invalidDistanceSymbol
    else .ok .waiting

/-- Ends the current block. -/
@[inline] def Progress.endBlock (p : Progress) (bits : Nat) : Progress :=
  (p.drop bits).moveTo (if p.inf.last then .checksum else .block)

/-- Drops `bits` bits and appends a byte. -/
@[inline] def Progress.emit (p : Progress) (bits : Nat) (byte : UInt8) : Progress :=
  let ⟨inf, src, out⟩ := p
  ⟨{ inf with bits := inf.bits.drop bits }, src, out.push byte⟩

/-- Copies a back-reference of `length` bytes from `dist` back, whose codes take `bits` bits, as
far as the room up to `limit` allows; the rest is owed. -/
def Progress.backReference (p : Progress) (limit length dist bits : Nat) : Progress :=
  let ⟨inf, src, out⟩ := p
  let k := min length (limit - out.size)
  let last := Bytes.byteAt out (out.size - 1)
  let inf := { inf with bits := inf.bits.drop bits }
  if k < length then
    let owed := if dist == 1 then Owed.repeat last (length - k) else Owed.copy dist (length - k)
    ⟨{ inf with owed := some owed }, src, copyBack dist k out⟩
  else ⟨inf, src, copyBack dist k out⟩

/-- What one symbol of a compressed block leads to. -/
inductive SymbolStep where
  /-- Go on with the next symbol. -/
  | next (p : Progress)
  /-- Stop here: the block ended, the room is full, or bits are missing. -/
  | stop (p : Progress)

/-- Continues a match of a length symbol with base `base`, `extra` extra bits and a code of
`bits` bits: reads its distance and copies, or waits. A copy that does not fit stops the run. -/
def Progress.matchStep (p : Progress) (codes : BlockCodes) (limit base extra bits : Nat) :
    Except Fault SymbolStep := do
  let b := p.inf.bits
  let v := b.value.toNat
  let length := base + (v >>> bits) % (1 <<< extra)
  match ← readDistance codes.dist v b.count (bits + extra) with
  | .waiting => return .stop p
  | .found dist total =>
    if b.count < total then return .stop p
    else if dist > p.out.size then throw .distanceTooFarBack
    else
      let q := p.backReference limit length dist total
      return if q.inf.owed.isSome then .stop q else .next q

/-- **Decodes one symbol** of a compressed block with tables `codes`, if the room up to `limit`
and the bits that are in allow. The end of the block needs no room, so it is read even when the
room is full. -/
def symbolStep (codes : BlockCodes) (limit : Nat) (p : Progress) : Except Fault SymbolStep := do
  let p := p.fill
  let b := p.inf.bits
  let v := b.value.toNat
  let room := p.out.size < limit
  match codes.lit.entry v with
  | .endOfBlock bits =>
    if b.count < bits then return .stop p else return .stop (p.endBlock bits)
  | .literal byte bits =>
    if !room || b.count < bits then return .stop p
    else return .next (p.emit bits byte)
  | .pair first second bits =>
    if !room || b.count < bits then return .stop p
    else if p.out.size + 1 < limit then return .next ((p.emit bits first).emit 0 second)
    else
      let q := p.emit bits first
      return .stop { q with inf := { q.inf with owed := some (.repeat second 1) } }
  | .length base extra bits =>
    if room then p.matchStep codes limit base extra bits else return .stop p
  | .long =>
    match codes.lit.code.lookup v 15 with
    | none => return .stop p
    | some (s, bits) =>
      if b.count < bits then return .stop p
      else if s < 256 then
        if room then return .next (p.emit bits (Bytes.low s)) else return .stop p
      else
        match LiteralEntry.ofSymbol s bits with
        | .length base extra bits =>
          if room then p.matchStep codes limit base extra bits else return .stop p
        | _ => return .stop (p.endBlock bits)

/-- Decodes symbols until the block ends, the room is full or bits are missing. Each symbol but
the last adds output, so the room plus one bounds the steps. -/
def compressedRun (codes : BlockCodes) (limit : Nat) : Nat → Progress → Except Fault Progress
  | 0, p => .ok p
  | fuel + 1, p => do
    match ← symbolStep codes limit p with
    | .next q => compressedRun codes limit fuel q
    | .stop q => return q

/-! ## Stored data and the checksum -/

/-- Passes whole bytes left in the bit buffer on to a stored block's output. -/
def drainStored (limit : Nat) : Nat → Nat → Progress → Nat × Progress
  | 0, left, p => (left, p)
  | fuel + 1, left, p =>
    if p.inf.bits.count > 0 && left > 0 && p.out.size < limit then
      drainStored limit fuel (left - 1) (p.emit 8 (Bytes.low (p.inf.bits.peek 8)))
    else (left, p)

/-- **Copies a stored block's bytes** as far as the input and the room allow: first those in the
bit buffer, then straight from the input. -/
def storedStep (limit left : Nat) (p : Progress) : Progress :=
  let (left, p) := drainStored limit 8 left p
  let ⟨inf, src, out⟩ := p
  let n := min left (min src.left (limit - out.size))
  let p : Progress :=
    ⟨inf, { src with pos := src.pos + n }, src.bytes.copySlice src.pos out out.size n false⟩
  let left := left - n
  if left == 0 then p.moveTo (if p.inf.last then .checksum else .block)
  else p.moveTo (.stored left)

/-- The checksum stored after the final block, most significant byte first, from the 32 bits at
the front of the buffer. -/
def storedChecksum (b : BitBuffer) : Nat :=
  let v := b.peek 32
  (v % 256) * 16777216 + (v / 256 % 256) * 65536 + (v / 65536 % 256) * 256 + v / 16777216

/-- Reads the checksum once it is in, after skipping to a byte boundary. -/
def checksumStep (p : Progress) : Except Fault Progress :=
  let p := p.fill
  let align := p.inf.bits.count % 8
  if p.inf.bits.count < 32 + align then .ok p
  else
    let p := p.drop align
    if p.inf.verify && storedChecksum p.inf.bits != adler32 p.out then .error .wrongChecksum
    else .ok ((p.drop 32).moveTo .done)

/-! ## Reads -/

/-- One step in the current stage. -/
def stageStep (limit : Nat) (p : Progress) : Except Fault Progress :=
  match p.inf.stage with
  | .header => headerStep p
  | .block => blockStep (p.inf.bits.count + 8 * p.src.left + 2) p
  | .codeLengthCodes hlit hdist hclen => codeLengthCodesStep hlit hdist hclen p
  | .codeLengths hlit hdist cl lengths => codeLengthsStep hlit hdist cl lengths p
  | .compressed codes => compressedRun codes limit (limit - p.out.size + 1) p
  | .stored left => .ok (storedStep limit left p)
  | .checksum => checksumStep p
  | .done => .ok p

/-- Runs steps while each moves on to another kind of stage. Every move but the last reads at
least one bit, so the bits available bound the steps. -/
def runStages (limit : Nat) : Nat → Progress → Except Fault Progress
  | 0, p => .ok p
  | fuel + 1, p => do
    let before := p.inf.stage.kind
    if before == Stage.kind .done then return p
    let q ← stageStep limit p
    if q.inf.stage.kind == before then return q else runStages limit fuel q

/-- **Reads from `src`** with room for output up to `limit` bytes in all, first paying what is
owed. With `final`, a read that stops before the end of the stream with room to spare reports
`insufficientInput`. -/
def Inflater.read (d : Inflater) (src : Source) (out : ByteArray) (limit : Nat) (final : Bool) :
    Except Fault Progress := do
  if d.stage.kind == Stage.kind .done then return ⟨d, src, out⟩
  let (out, owed) := match d.owed with
    | some o => o.pay limit out
    | none => (out, none)
  if owed.isSome then return ⟨{ d with owed := owed }, src, out⟩
  let p ← runStages limit (d.bits.count + 8 * src.left + 16) ⟨{ d with owed := none }, src, out⟩
  if p.inf.stage.kind == Stage.kind .done || !final || p.out.size ≥ limit then return p
  else throw .insufficientInput

/-- Whether the inflater has read the whole stream. -/
def Inflater.isDone (d : Inflater) : Bool := d.stage.kind == Stage.kind .done

/-- **Inflates a whole zlib stream** and checks its checksum, giving the output if the stream is
complete and its output stays below `bound` bytes. -/
def inflateAll (bytes : ByteArray) (bound : Nat) : Option ByteArray :=
  match Inflater.read { verify := true } ⟨bytes, 0, bytes.size⟩ ByteArray.empty bound true with
  | .ok p => if p.inf.isDone then some p.out else none
  | .error _ => none

end Raster.Deflate
