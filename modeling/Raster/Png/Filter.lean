import Raster.Bytes

set_option autoImplicit false

/-!
# Scanline filters

Each scanline of a PNG starts with a filter type, and each of its bytes is stored as the
difference from a prediction made of the bytes already decoded: nothing (type 0), the byte one
pixel to the left (1), the byte above (2), their average rounded down (3), or the Paeth
predictor (4), the one of left, above and upper-left closest to left + above − upper-left.
Differences are taken modulo 256. Bytes before the start of a row and rows above the first count
as zero.
-/

namespace Raster.Png

/-- The distance between two numbers. -/
def gap (x y : Nat) : Nat :=
  if x ≥ y then x - y else y - x

/-- The Paeth predictor: of `a` (left), `b` (above) and `c` (upper left), the one nearest to
`p = a + b - c`, preferring `a`, then `b`. The distances `p - a = b - c`, `p - b = a - c` and
`p - c = a + b - 2c` are taken without forming `p`. -/
def paeth (a b c : UInt8) : UInt8 :=
  let pa := gap b.toNat c.toNat
  let pb := gap a.toNat c.toNat
  let pc := gap (a.toNat + b.toNat) (2 * c.toNat)
  if pa ≤ pb && pa ≤ pc then a else if pb ≤ pc then b else c

/-- The prediction of filter type `kind` from left, above and upper-left bytes. -/
def predict (kind : Nat) (a b c : UInt8) : UInt8 :=
  match kind with
  | 1 => a
  | 2 => b
  | 3 => ((a.toNat + b.toNat) / 2).toUInt8
  | 4 => paeth a b c
  | _ => 0

/-- Appends the decoded bytes `i, i + 1, …` (`n` of them) of a row to `acc`, which already holds
the decoded bytes before `i`. Sums wrap modulo 256. -/
def unfilterFrom (kind bpp : Nat) (prev raw : ByteArray) : Nat → Nat → ByteArray → ByteArray
  | 0, _, acc => acc
  | n + 1, i, acc =>
    let a := if i ≥ bpp then Bytes.byteAt acc (i - bpp) else 0
    let c := if i ≥ bpp then Bytes.byteAt prev (i - bpp) else 0
    let v := Bytes.byteAt raw i + predict kind a (Bytes.byteAt prev i) c
    unfilterFrom kind bpp prev raw n (i + 1) (acc.push v)

/-- **Decodes one scanline** stored with filter type `kind`, given the decoded row above (empty
for the first row of a pass) and `bpp`, the bytes per pixel. A row stored without a filter is
its own decoding. -/
def unfilter (kind bpp : Nat) (prev raw : ByteArray) : ByteArray :=
  if kind == 0 then raw
  else unfilterFrom kind bpp prev raw raw.size 0 (ByteArray.emptyWithCapacity raw.size)

end Raster.Png
