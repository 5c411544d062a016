import Raster.Bytes

set_option autoImplicit false

/-!
# Writing a zlib stream

The simplest zlib stream that holds given bytes: the header of a deflate stream with a 32 KiB
window, the bytes in stored blocks of at most 65535 bytes (the last one marked final), and the
Adler-32 checksum of the bytes. Every inflater reads it back to the same bytes.
-/

namespace Raster.Deflate

/-- The Adler-32 modulus, the largest prime below `2 ^ 16`. -/
def adlerBase : Nat := 65521

/-- Adds `n` bytes of `b` from offset `i` to the two running sums, without reducing them. -/
def adlerRun (b : ByteArray) : Nat → Nat → Nat → Nat → Nat × Nat
  | 0, _, a, s => (a, s)
  | n + 1, i, a, s =>
    let a := a + Bytes.get b i
    adlerRun b n (i + 1) a (s + a)

/-- Feeds the bytes of `b` from offset `i` into the two Adler-32 sums, reducing them after every
run of at most 5552 bytes (the longest run whose sums stay below `2 ^ 32`); reducing late gives
the same remainders. -/
def adlerFrom (b : ByteArray) : Nat → Nat → Nat → Nat → Nat × Nat
  | 0, _, a, s => (a % adlerBase, s % adlerBase)
  | fuel + 1, i, a, s =>
    if i ≥ b.size then (a % adlerBase, s % adlerBase)
    else
      let n := min 5552 (b.size - i)
      let (a, s) := adlerRun b n i a s
      adlerFrom b fuel (i + n) (a % adlerBase) (s % adlerBase)

/-- The Adler-32 checksum: two sums modulo 65521, of the bytes plus one and of those running
sums. -/
def adler32 (b : ByteArray) : Nat :=
  let (a, s) := adlerFrom b b.size 0 1 0
  s * 65536 + a

/-- The largest stored block. -/
def storedBlockMax : Nat := 65535

/-- Appends stored blocks holding `b` from offset `i`, at most `n` of them. -/
def storeFrom (b : ByteArray) : Nat → Nat → ByteArray → ByteArray
  | 0, _, acc => acc
  | n + 1, i, acc =>
    let len := min storedBlockMax (b.size - i)
    let last := i + len ≥ b.size
    let head : ByteArray :=
      ⟨#[if last then 1 else 0, Bytes.low len, Bytes.low (len / 256),
        Bytes.low (65535 - len), Bytes.low ((65535 - len) / 256)]⟩
    let acc := acc ++ head ++ Bytes.slice b i len
    if last then acc else storeFrom b n (i + len) acc

/-- **A zlib stream of stored blocks holding `b`.** -/
def store (b : ByteArray) : ByteArray :=
  let header : ByteArray := ⟨#[0x78, 0x01]⟩
  storeFrom b (b.size / storedBlockMax + 1) 0 header ++ Bytes.ofU32be (adler32 b)

end Raster.Deflate
