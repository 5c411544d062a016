import Raster.Surface.Basic

set_option autoImplicit false

/-!
# Blitting

A blit (`blit::blit`, behind `blit::copy` and `blit::copy_with_transparency`) fills the whole of
a destination surface from a source surface. Each destination pixel
`(x, y)` takes the colour of one source pixel: `(x, y)` itself when copying at size, or
`(⌊x · sw / dw⌋, ⌊y · sh / dh⌋)` when stretching (nearest neighbour). The colour is read as
RGB565 and written in the destination's format. With a transparent key, source pixels of exactly
that colour are skipped and the destination keeps what it had there.

Scaling only happens when the sizes differ. A copy at size needs a source at least as large as the
destination in both directions. Every error is found before any pixel is written, so a failed
blit leaves the destination as it was.

When source and destination share format and stride and no key or scaling is asked for, the copy
takes the first rows of the source bytes as they are, and the palette with them.
-/

namespace Raster

/-- **The source index sampled by destination index `i`** when a length `src` is stretched or
shrunk to `dst`: `⌊i · src / dst⌋`. -/
def scaledIndex (i src dst : Nat) : Nat :=
  i * src / dst

/-- Appends the cell of colour `c` in a packed format. -/
@[inline] def PixelFormat.pushCell (f : PixelFormat) (c : Nat) (acc : ByteArray) : ByteArray :=
  match f with
  | .rgb565Le => (acc.push (Bytes.low c)).push (Bytes.low (c / 256))
  | .rgb565Be => (acc.push (Bytes.low (c / 256))).push (Bytes.low c)
  | _ =>
    let (r, g, b) := Rgb565.unpack c
    ((acc.push (Bytes.low r)).push (Bytes.low g)).push (Bytes.low b)

namespace Blit

/-- What one blit does, fixed before any pixel is touched. -/
structure Plan where
  /-- Whether destination indices are scaled to source indices. -/
  scale : Bool
  /-- The colour whose source pixels are skipped, if any. -/
  key : Option Nat

/-- The source column that destination column `x` samples under a plan. -/
@[inline] def Plan.column (p : Plan) (src dst : Surface) (x : Nat) : Nat :=
  if p.scale then scaledIndex x src.width dst.width else x

/-- The source row that destination row `y` samples under a plan. -/
def Plan.row (p : Plan) (src dst : Surface) (y : Nat) : Nat :=
  if p.scale then scaledIndex y src.height dst.height else y

/-- Whether colour `c` is the plan's transparent key. -/
@[inline] def Plan.skips (p : Plan) (c : Nat) : Bool :=
  match p.key with
  | some k => k == c
  | none => false

/-- Appends destination pixel `(x, y)` after the blit, where `base` is where the sampled source
row starts: the old cell if the source colour is the key, the source colour otherwise. -/
@[inline] def Plan.pushPixel (p : Plan) (src dst : Surface) (base x y : Nat) (acc : ByteArray) :
    ByteArray :=
  let c := (src.colorAt base (p.column src dst x)).getD 0
  if p.skips c then
    let bpp := dst.format.bytesPerPixel
    Bytes.pushRange (Bytes.byteAt dst.data) (y * dst.stride + x * bpp) bpp acc
  else dst.format.pushCell c acc

/-- Appends `n` pixels of destination row `y`, from column `x` on. -/
def Plan.paintRow (p : Plan) (src dst : Surface) (base y : Nat) :
    Nat → Nat → ByteArray → ByteArray
  | 0, _, acc => acc
  | n + 1, x, acc => p.paintRow src dst base y n (x + 1) (p.pushPixel src dst base x y acc)

/-- Appends `n` destination rows, from row `y` on. -/
def Plan.paint (p : Plan) (src dst : Surface) : Nat → Nat → ByteArray → ByteArray
  | 0, _, acc => acc
  | n + 1, y, acc =>
    let base := p.row src dst y * src.stride
    p.paint src dst n (y + 1) (p.paintRow src dst base y dst.width 0 acc)

/-- The destination's pixel bytes after a blit along the general path. -/
def Plan.render (p : Plan) (src dst : Surface) : ByteArray :=
  p.paint src dst dst.height 0 (ByteArray.emptyWithCapacity dst.data.size)

end Blit

/-- **Blits `src` into `dst`**, stretching when `scale` is set and the sizes differ, and skipping
source pixels of colour `key` when one is given. Gives the destination after the blit. -/
def Surface.blit (src dst : Surface) (scale : Bool) (key : Option Nat) : Except Error Surface := do
  src.validate
  dst.validate
  let sameSize := src.width == dst.width && src.height == dst.height
  let scale := scale && !sameSize
  if !scale && (dst.width > src.width || dst.height > src.height) then
    throw (.regionOutOfBounds dst.width dst.height src.width src.height)
  if !scale && key.isNone && src.stride == dst.stride && src.format == dst.format then
    let data := src.data.extract 0 (dst.height * dst.stride)
    let palette := match src.palette, dst.palette with
      | some p, some _ => some p
      | _, q => q
    return { dst with data := data, palette := palette }
  if src.format == .pal888 then throw (.unsupportedFormat (.read src.format))
  if dst.format.isPalette then throw (.unsupportedFormat (.write dst.format))
  return { dst with data := Blit.Plan.render ⟨scale, key⟩ src dst }

end Raster
