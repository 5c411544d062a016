set_option autoImplicit false

/-!
# Noise

A deterministic stream of bytes for test patterns: the 32-bit xorshift generator with shifts 13,
17 and 5. Each byte is the low byte of the state after one step, so a seed of zero gives zeros and
every other seed a long non-repeating stream.
-/

namespace Raster.Noise

/-- One step of the generator, in 32-bit arithmetic. -/
def step (s : UInt32) : UInt32 :=
  let s := s ^^^ (s <<< 13)
  let s := s ^^^ (s >>> 17)
  s ^^^ (s <<< 5)

/-- Appends `n` bytes of the stream that continues from state `s`. -/
def fill : Nat → UInt32 → ByteArray → ByteArray
  | 0, _, acc => acc
  | n + 1, s, acc =>
    let s := step s
    fill n s (acc.push s.toUInt8)

/-- **The first `n` bytes of the stream from `seed`.** -/
def bytes (seed : UInt32) (n : Nat) : ByteArray :=
  fill n seed (ByteArray.emptyWithCapacity n)

end Raster.Noise
