set_option autoImplicit false

/-!
# CRC-32

The checksum PNG puts after every chunk: CRC-32 with the reflected polynomial `0xEDB88320`,
starting from all ones and inverted at the end. A table of the 256 one-byte remainders makes it
one lookup per byte.
-/

namespace Raster.Png.Crc

/-- The remainder of one byte value, by eight steps of polynomial division. -/
def remainder (n : Nat) : UInt32 :=
  (List.range 8).foldl
    (fun (c : UInt32) _ => if c &&& 1 == 1 then (0xEDB88320 : UInt32) ^^^ (c >>> 1) else c >>> 1)
    n.toUInt32

/-- The remainders of all byte values. -/
def table : Array UInt32 :=
  Array.ofFn (n := 256) fun i => remainder i.val

/-- Feeds the bytes of `b` into a running checksum register. -/
def update (c : UInt32) (b : ByteArray) : UInt32 :=
  b.foldl (fun c x => table.getD ((c ^^^ x.toUInt32) &&& 0xFF).toNat 0 ^^^ (c >>> 8)) c

/-- **The CRC-32 of a buffer.** -/
def of (b : ByteArray) : Nat :=
  (update 0xFFFFFFFF b ^^^ 0xFFFFFFFF).toNat

end Raster.Png.Crc
