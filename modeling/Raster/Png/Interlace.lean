set_option autoImplicit false

/-!
# Interlacing

An interlaced PNG stores its pixels in seven passes (Adam7), each a sub-image of every `xStep`-th
column from `xStart` and every `yStep`-th row from `yStart`. Together the passes hold every pixel
exactly once. A plain image is one pass with steps of one. A pass that holds no pixel stores no
rows at all.
-/

namespace Raster.Png

/-- The pixels of one pass: columns `xStart, xStart + xStep, …` of rows
`yStart, yStart + yStep, …`. -/
structure Pass where
  xStart : Nat
  yStart : Nat
  xStep : Nat
  yStep : Nat
  deriving DecidableEq, Repr

namespace Pass

/-- The seven passes of Adam7. -/
def adam7 : Array Pass :=
  #[⟨0, 0, 8, 8⟩, ⟨4, 0, 8, 8⟩, ⟨0, 4, 4, 8⟩, ⟨2, 0, 4, 4⟩, ⟨0, 2, 2, 4⟩, ⟨1, 0, 2, 2⟩,
    ⟨0, 1, 1, 2⟩]

/-- The single pass of a plain image. -/
def whole : Pass := ⟨0, 0, 1, 1⟩

/-- The passes of an image. -/
def of (interlaced : Bool) : Array Pass :=
  if interlaced then adam7 else #[whole]

/-- How many of `0, 1, …, n - 1` are `start` plus a multiple of `step`. -/
def count (n start step : Nat) : Nat :=
  if n > start then (n - start + step - 1) / step else 0

/-- Columns of the pass in an image `w` wide. -/
def width (p : Pass) (w : Nat) : Nat := count w p.xStart p.xStep

/-- Rows of the pass in an image `h` high. -/
def height (p : Pass) (h : Nat) : Nat := count h p.yStart p.yStep

/-- Whether the pass holds pixel `(x, y)`. -/
def holds (p : Pass) (x y : Nat) : Bool :=
  x ≥ p.xStart && (x - p.xStart) % p.xStep == 0 && y ≥ p.yStart && (y - p.yStart) % p.yStep == 0

end Pass

end Raster.Png
