import Raster.Bytes

set_option autoImplicit false

/-!
# Canonical prefix codes

Deflate describes each prefix code by the code length of every symbol; the codes themselves are
the canonical ones, handed out in order of length and then of symbol value. This module builds a
decoder from the lengths, tells whether the lengths describe a complete code, and decodes one
symbol from a bit stream.

A stream is a buffer read least significant bit first, and a code is read most significant bit
first, one bit at a time. Decoding counts, for each length, how many codes of that length come
before the bits read so far. The same walk decodes the low bits of a number, which is how the
lookup tables of `Raster.Deflate.Table` are filled.
-/

namespace Raster.Deflate

/-- Bit `p` of a buffer, counting from the least significant bit of byte 0. -/
@[inline] def bitAt (s : ByteArray) (p : Nat) : Nat :=
  (Bytes.get s (p / 8) >>> (p % 8)) % 2

/-- The `n`-bit number (at most 24 bits) stored least significant bit first from bit `p`. -/
def bitsAt (s : ByteArray) (p n : Nat) : Nat :=
  let i := p / 8
  let w := Bytes.get s i + Bytes.get s (i + 1) * 256 + Bytes.get s (i + 2) * 65536 +
    Bytes.get s (i + 3) * 16777216
  (w >>> (p % 8)) % (1 <<< n)

/-- A canonical prefix code, by how many symbols have each length and the symbols in code order. -/
structure Code where
  /-- Entry `l` is the number of symbols whose code has `l` bits; entry 0 is unused. -/
  counts : Array Nat
  /-- The symbols with a code, shortest code first, then by value. -/
  symbols : Array Nat
  /-- The longest code length, at least 1. -/
  maxLen : Nat

/-- The longest of some code lengths, at least 1. -/
def longest (lengths : Array Nat) : Nat :=
  max 1 (lengths.foldl max 0)

/-- How many symbols have a code of each length from 0 to 15. -/
def lengthCounts (lengths : Array Nat) : Array Nat :=
  lengths.foldl (fun c l => if l < 16 then c.modify l (· + 1) else c) (Array.replicate 16 0)

/-- The symbols with a code, shortest first and then by value. -/
def codeOrder (lengths : Array Nat) : Array Nat :=
  (List.range 15).foldl
    (fun acc l => (List.range lengths.size).foldl
      (fun acc s => if lengths.getD s 0 == l + 1 then acc.push s else acc) acc)
    #[]

/-- **The canonical code with the given lengths**, where length 0 means the symbol has none. -/
def Code.ofLengths (lengths : Array Nat) : Code :=
  ⟨lengthCounts lengths, codeOrder lengths, longest lengths⟩

/-- Kraft's sum of the lengths, scaled by `2 ^ m`. -/
def kraft (lengths : Array Nat) (m : Nat) : Nat :=
  lengths.foldl (fun acc l => if l == 0 then acc else acc + (1 <<< (m - l))) 0

/-- **Whether the lengths describe a complete code**: every bit string long enough starts with
exactly one code, which is Kraft's sum being exactly one. No lengths at all are not complete. -/
def isComplete (lengths : Array Nat) : Bool :=
  kraft lengths (longest lengths) == 1 <<< longest lengths

/-- How many symbols have a code. -/
def used (lengths : Array Nat) : Nat :=
  lengths.foldl (fun acc l => if l == 0 then acc else acc + 1) 0

/-- What reading one symbol from a stream gives. -/
inductive Read where
  /-- The symbol, and the bit position after its code. -/
  | symbol (s next : Nat)
  /-- The bits read up to `next` start no code. -/
  | invalid (next : Nat)
  /-- The stream ends inside a code. -/
  | starved

/-- Reads one more bit of a code; `code` holds the bits read so far, `first` is the first code of
length `len` and `index` counts the symbols with shorter codes. -/
def Code.readFrom (c : Code) (s : ByteArray) (total len code first index p : Nat) : Read :=
  if h : len > c.maxLen then .invalid p
  else if p ≥ total then .starved
  else
    let code := code + bitAt s p
    let count := c.counts.getD len 0
    if code < first + count then .symbol (c.symbols.getD (index + code - first) 0) (p + 1)
    else if h2 : len = c.maxLen then .invalid (p + 1)
    else c.readFrom s total (len + 1) (code * 2) ((first + count) * 2) (index + count) (p + 1)
termination_by c.maxLen + 1 - len
decreasing_by omega

/-- **Reads one symbol** of code `c` from bit `p` of a stream of `total` bits. -/
def Code.read (c : Code) (s : ByteArray) (total p : Nat) : Read :=
  c.readFrom s total 1 0 0 0 p

/-- Looks at bit `len - 1` of `v` as the next bit of a code, as `readFrom` does with a stream;
codes longer than `avail` bits are not looked for. -/
def Code.lookFrom (c : Code) (v avail len code first index : Nat) : Option (Nat × Nat) :=
  if _h : len > c.maxLen then none
  else if len > avail then none
  else
    let code := code + (v >>> (len - 1)) % 2
    let count := c.counts.getD len 0
    if code < first + count then some (c.symbols.getD (index + code - first) 0, len)
    else c.lookFrom v avail (len + 1) (code * 2) ((first + count) * 2) (index + count)
termination_by c.maxLen + 1 - len
decreasing_by omega

/-- **The symbol that the low bits of `v` start with**, read least significant bit first, and the
length of its code; none if no code of at most `avail` bits matches. -/
def Code.lookup (c : Code) (v avail : Nat) : Option (Nat × Nat) :=
  c.lookFrom v avail 1 0 0 0

end Raster.Deflate
