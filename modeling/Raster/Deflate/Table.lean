import Raster.Deflate.Huffman

set_option autoImplicit false

/-!
# Lookup tables of compressed blocks

An inflater decodes a compressed block by looking the next bits of input up in two tables built
from the block's codes. The literal/length table is indexed by twelve bits. Its entry names the
symbol whose code those bits start with; when that symbol is a literal and the bits after its
code start a second literal whose code has at least two bits, the entry holds both literals.
The distance table does the same with nine bits and single symbols. Codes longer than a table's
index are marked `long` and decoded canonically when met.

An entry records how many bits it spans, and an inflater that has little input left takes an
entry only once all of them are in. For a pair that is the bits of both codes, so a reader can
stop short of a literal whose own code is already complete.
-/

namespace Raster.Deflate

/-! ## Fixed data of the format -/

/-- Base lengths of length symbols 257 to 285. -/
def lengthBase : Array Nat :=
  #[3, 4, 5, 6, 7, 8, 9, 10, 11, 13, 15, 17, 19, 23, 27, 31, 35, 43, 51, 59, 67, 83, 99, 115,
    131, 163, 195, 227, 258]

/-- Extra bits of length symbols 257 to 285. -/
def lengthExtra : Array Nat :=
  #[0, 0, 0, 0, 0, 0, 0, 0, 1, 1, 1, 1, 2, 2, 2, 2, 3, 3, 3, 3, 4, 4, 4, 4, 5, 5, 5, 5, 0]

/-- Base distances of distance symbols 0 to 29. -/
def distanceBase : Array Nat :=
  #[1, 2, 3, 4, 5, 7, 9, 13, 17, 25, 33, 49, 65, 97, 129, 193, 257, 385, 513, 769, 1025, 1537,
    2049, 3073, 4097, 6145, 8193, 12289, 16385, 24577]

/-- Extra bits of distance symbols 0 to 29. -/
def distanceExtra : Array Nat :=
  #[0, 0, 0, 0, 1, 1, 2, 2, 3, 3, 4, 4, 5, 5, 6, 6, 7, 7, 8, 8, 9, 9, 10, 10, 11, 11, 12, 12, 13,
    13]

/-- Code lengths of the fixed literal/length code. -/
def fixedLiteralLengths : Array Nat :=
  Array.ofFn (n := 288) fun i =>
    if i.val < 144 then 8 else if i.val < 256 then 9 else if i.val < 280 then 7 else 8

/-- Code lengths of the fixed distance code: 32 codes of five bits. -/
def fixedDistanceLengths : Array Nat := Array.replicate 32 5

/-! ## Literal/length entries -/

/-- What twelve bits of a compressed block start, as far as they tell. -/
inductive LiteralEntry where
  /-- One literal byte, whose code is `bits` long. -/
  | literal (byte : UInt8) (bits : Nat)
  /-- Two literal bytes, whose codes together are `bits` long. -/
  | pair (first second : UInt8) (bits : Nat)
  /-- A length symbol: its base length, its extra bits, and its code length. -/
  | length (base extra bits : Nat)
  /-- The end of the block. The fixed code's symbols 286 and 287 end the block as well. -/
  | endOfBlock (bits : Nat)
  /-- A code longer than twelve bits. -/
  | long
  deriving Inhabited

/-- The entry for the symbol `s` with a code of `bits` bits, not paired. -/
def LiteralEntry.ofSymbol (s bits : Nat) : LiteralEntry :=
  if s < 256 then .literal (Bytes.low s) bits
  else if 256 < s && s < 286 then
    .length (lengthBase.getD (s - 257) 0) (lengthExtra.getD (s - 257) 0) bits
  else .endOfBlock bits

/-- **The literal/length entry for the twelve bits `i`**: the symbol they start with, paired with
the next literal when both are literals, the second code has at least two bits and both codes
fit in the twelve. -/
def literalEntry (c : Code) (i : Nat) : LiteralEntry :=
  match c.lookup i 12 with
  | none => .long
  | some (s, l) =>
    if s < 256 then
      match c.lookup (i >>> l) (12 - l) with
      | some (t, m) =>
        if t < 256 && m ≥ 2 then .pair (Bytes.low s) (Bytes.low t) (l + m)
        else .literal (Bytes.low s) l
      | none => .literal (Bytes.low s) l
    else LiteralEntry.ofSymbol s l

/-- A literal/length code with its table of twelve-bit entries. -/
structure LiteralTable where
  code : Code
  entries : Array LiteralEntry

/-- The table of a literal/length code. -/
def LiteralTable.ofCode (c : Code) : LiteralTable :=
  ⟨c, Array.ofFn (n := 4096) fun i => literalEntry c i.val⟩

/-- The entry for the low twelve bits of `v`. -/
@[inline] def LiteralTable.entry (t : LiteralTable) (v : Nat) : LiteralEntry :=
  t.entries.getD (v % 4096) .long

/-! ## Distance entries -/

/-- What nine bits of a compressed block start where a distance code is due. -/
inductive DistanceEntry where
  /-- A distance symbol: its base distance, its extra bits, and its code length. -/
  | distance (base extra bits : Nat)
  /-- Bits that start no usable distance code: symbols 30 and 31, or no code at all. -/
  | invalid
  /-- A code longer than nine bits. -/
  | long
  deriving Inhabited

/-- The entry for distance symbol `s` with a code of `bits` bits. -/
def DistanceEntry.ofSymbol (s bits : Nat) : DistanceEntry :=
  if s < 30 then .distance (distanceBase.getD s 0) (distanceExtra.getD s 0) bits else .invalid

/-- A distance code with its table of nine-bit entries. -/
structure DistanceTable where
  code : Code
  entries : Array DistanceEntry

/-- **The table of a distance code.** No code at all leaves every entry invalid; a single code
of one bit is the bit 0, so an entry starting with 1 is invalid. -/
def DistanceTable.ofLengths (lengths : Array Nat) : DistanceTable :=
  let c := Code.ofLengths lengths
  if used lengths == 0 then ⟨c, Array.replicate 512 .invalid⟩
  else if used lengths == 1 && longest lengths == 1 then
    let s := c.symbols.getD 0 0
    ⟨c, Array.ofFn (n := 512) fun i =>
      if i.val % 2 == 0 then DistanceEntry.ofSymbol s 1 else .invalid⟩
  else
    ⟨c, Array.ofFn (n := 512) fun i =>
      match c.lookup i.val 9 with
      | some (s, l) => DistanceEntry.ofSymbol s l
      | none => .long⟩

/-- The entry for the low nine bits of `v`. -/
@[inline] def DistanceTable.entry (t : DistanceTable) (v : Nat) : DistanceEntry :=
  t.entries.getD (v % 512) .invalid

/-- The tables of a compressed block. -/
structure BlockCodes where
  lit : LiteralTable
  dist : DistanceTable

/-- The tables of a block with the fixed codes. -/
def fixedCodes : BlockCodes :=
  ⟨LiteralTable.ofCode (Code.ofLengths fixedLiteralLengths),
    DistanceTable.ofLengths fixedDistanceLengths⟩

end Raster.Deflate
