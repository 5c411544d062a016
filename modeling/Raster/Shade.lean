import Raster.Convert

set_option autoImplicit false

/-!
# Shading and tinting

Both operations (`shade::shade`, `shade::tint`) give a new RGB565 little-endian surface and leave
the source alone. The source is first converted at its own size, then every colour is changed
channel by channel (`shade::map_565`): shading divides
each channel by the divisor (zero counts as one), tinting scales each channel by the matching
channel of a tint colour over that channel's maximum (31 for red and blue, 63 for green). Both
round down.
-/

namespace Raster

namespace Rgb565

/-- A colour with each channel divided by `d`, where a zero `d` counts as one. -/
def darken (d c : Nat) : Nat :=
  let d := max d 1
  join (red c / d) (green c / d) (blue c / d)

/-- A colour with each channel scaled by the matching channel of `t` over its maximum. -/
def tint (t c : Nat) : Nat :=
  join (red c * red t / 31) (green c * green t / 63) (blue c * blue t / 31)

end Rgb565

/-- Appends `f` of each of `n` little-endian RGB565 pixels of `data`, from byte `i` on. -/
def mapPixelsFrom (f : Nat → Nat) (data : ByteArray) : Nat → Nat → ByteArray → ByteArray
  | 0, _, acc => acc
  | n + 1, i, acc =>
    let c := f (Bytes.u16le data i)
    mapPixelsFrom f data n (i + 2) ((acc.push (Bytes.low c)).push (Bytes.low (c / 256)))

/-- Applies `f` to every little-endian RGB565 pixel of a buffer of whole pixels. -/
def mapPixels565 (f : Nat → Nat) (data : ByteArray) : ByteArray :=
  mapPixelsFrom f data (data.size / 2) 0 (ByteArray.emptyWithCapacity data.size)

/-- **Recolours a surface pixel by pixel**, on an RGB565 little-endian copy at the same size. -/
def Surface.map565 (src : Surface) (f : Nat → Nat) : Except Error Surface := do
  let out ← src.convert none none (some .rgb565Le)
  return { out with data := mapPixels565 f out.data }

/-- Darkens every channel by `divisor`; a divisor of 0 or 1 gives an unchanged copy. -/
def Surface.shade (src : Surface) (divisor : Nat) : Except Error Surface :=
  src.map565 (Rgb565.darken divisor)

/-- Scales every channel by the matching channel of `color`. -/
def Surface.tint (src : Surface) (color : Nat) : Except Error Surface :=
  src.map565 (Rgb565.tint color)

end Raster
