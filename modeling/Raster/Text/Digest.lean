set_option autoImplicit false

/-!
# Digests

A short fingerprint of a large buffer, for reports that cannot carry the buffer itself: 64-bit
FNV-1a, written as sixteen lowercase hexadecimal digits.
-/

namespace Raster.Digest

/-- The FNV-1a offset basis. -/
def offsetBasis : UInt64 := 0xcbf29ce484222325

/-- The FNV-1a prime. -/
def prime : UInt64 := 0x100000001b3

/-- **FNV-1a over a buffer**: xor in each byte, then multiply by the prime, in 64-bit arithmetic. -/
def fnv1a (b : ByteArray) : UInt64 :=
  b.foldl (fun h x => (h ^^^ x.toUInt64) * prime) offsetBasis

/-- A 64-bit value as sixteen lowercase hexadecimal digits. -/
def hex16 (v : UInt64) : String :=
  let digits := Nat.toDigits 16 v.toNat
  String.ofList (List.replicate (16 - digits.length) '0' ++ digits)

end Raster.Digest
