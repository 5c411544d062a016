set_option autoImplicit false

/-!
# Byte buffers

Pixel data, palettes and encoded images are all `ByteArray`s. This module holds the few total
operations on them that the rest of the library is written with: reading a byte with a default
past the end, building a buffer from a function of the index, and 16- and 32-bit words in either
byte order.

Every builder here either pushes onto a buffer reserved up front or, for repeated patterns,
doubles a buffer, so a surface of sixteen million pixels is written in place or in a few dozen
copies; each comes with the pointwise description that proofs use instead of the loop.
-/

namespace Raster.Bytes

/-- Byte `i` of `b`, or `0` past the end. -/
@[inline] def byteAt (b : ByteArray) (i : Nat) : UInt8 :=
  if h : i < b.size then b[i] else 0

/-- Byte `i` of `b` as a number, `0` past the end. -/
@[inline] def get (b : ByteArray) (i : Nat) : Nat :=
  (byteAt b i).toNat

/-- The low byte of a number. -/
@[inline] def low (n : Nat) : UInt8 :=
  n.toUInt8

/-- Appends `f lo`, `f (lo + 1)`, …, `f (lo + n - 1)` to `acc`. -/
def pushRange (f : Nat → UInt8) (lo : Nat) : Nat → ByteArray → ByteArray
  | 0, acc => acc
  | n + 1, acc => pushRange f (lo + 1) n (acc.push (f lo))

/-- **The buffer of length `n` whose byte `i` is `f i`.** -/
def generate (n : Nat) (f : Nat → UInt8) : ByteArray :=
  pushRange f 0 n (ByteArray.emptyWithCapacity n)

/-- The 16-bit little-endian word at offset `i`. -/
@[inline] def u16le (b : ByteArray) (i : Nat) : Nat :=
  get b i + 256 * get b (i + 1)

/-- The 16-bit big-endian word at offset `i`. -/
@[inline] def u16be (b : ByteArray) (i : Nat) : Nat :=
  256 * get b i + get b (i + 1)

/-- The 32-bit big-endian word at offset `i`. -/
def u32be (b : ByteArray) (i : Nat) : Nat :=
  ((get b i * 256 + get b (i + 1)) * 256 + get b (i + 2)) * 256 + get b (i + 3)

/-- Two bytes of a 16-bit word, least significant first. -/
def ofU16le (v : Nat) : ByteArray :=
  ⟨#[low v, low (v / 256)]⟩

/-- Four bytes of a 32-bit word, most significant first. -/
def ofU32be (v : Nat) : ByteArray :=
  ⟨#[low (v / 16777216), low (v / 65536), low (v / 256), low v]⟩

/-- The bytes of `b` from `start`, at most `len` of them. -/
@[inline] def slice (b : ByteArray) (start len : Nat) : ByteArray :=
  b.extract start (start + len)

/-- `b` with its first bytes replaced by `front`; `b` keeps its length when `front` is no longer. -/
def overwrite (b front : ByteArray) : ByteArray :=
  front ++ b.extract front.size b.size

/-- Doubles `b` until it holds at least `n` bytes, for at most `fuel` doublings. Every result is
copies of `b` in a row. -/
def growTo (n : Nat) : Nat → ByteArray → ByteArray
  | 0, b => b
  | fuel + 1, b => if b.size ≥ n then b else growTo n fuel (b ++ b)

/-- **The buffer of length `n` that repeats `pattern` from its start**: its byte `i` is byte
`i % pattern.size` of the pattern. Empty for an empty pattern. The buffer is built by doubling, so
it takes about `log n` copies rather than `n` steps; `n` doublings are more than enough. -/
def cycle (pattern : ByteArray) (n : Nat) : ByteArray :=
  if pattern.size = 0 then ByteArray.empty else (growTo n n pattern).extract 0 n

/-- A buffer of `n` copies of `v`. -/
def replicate (n : Nat) (v : UInt8) : ByteArray :=
  cycle ⟨#[v]⟩ n

/-- A buffer of `n` zero bytes. -/
def zeros (n : Nat) : ByteArray :=
  replicate n 0

theorem size_pushRange (f : Nat → UInt8) (lo n : Nat) (acc : ByteArray) :
    (pushRange f lo n acc).size = acc.size + n := by
  induction n generalizing lo acc with
  | zero => rfl
  | succ n ih => simp [pushRange, ih, ByteArray.size_push]; omega

@[simp] theorem size_generate (n : Nat) (f : Nat → UInt8) : (generate n f).size = n := by
  rw [generate, size_pushRange]
  exact Nat.zero_add n

end Raster.Bytes
