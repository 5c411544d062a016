import Raster.Blit

set_option autoImplicit false

/-!
# Conversion

Converting (`convert::convert`, `convert::convert_in`) makes a new surface of a chosen size and
format and blits the source into it, stretching as needed. A size of zero, like a missing one, means
"unspecified": with both sides unspecified the source size is kept, and with one unspecified it is
derived from the other so that the aspect ratio is kept, rounding down (`convert::target_size`). A
derived side never exceeds the largest 32-bit value.
-/

namespace Raster

/-- The largest 32-bit value; derived sizes stop there. -/
def maxU32 : Nat := 4294967295

/-- `other · given / sourceGiven`, rounded down, with a zero divisor read as one, and capped at
the largest 32-bit value. -/
def deriveSide (other given sourceGiven : Nat) : Nat :=
  min (other * given / max sourceGiven 1) maxU32

/-- **The size a conversion produces** from a source of `sw × sh` and the requested sides. -/
def targetSize (sw sh : Nat) (width height : Option Nat) : Nat × Nat :=
  match width.filter (· > 0), height.filter (· > 0) with
  | some w, some h => (w, h)
  | none, none => (sw, sh)
  | none, some h => (deriveSide sw h sh, h)
  | some w, none => (w, deriveSide sh w sw)

/-- **Converts through an allocator**: validates the source, allocates the target surface of the
requested size and format (the source's format by default), and blits the source into it,
stretching. -/
def Surface.convertIn (a : Allocator) (src : Surface) (width height : Option Nat)
    (format : Option PixelFormat) : ExceptT Error Alloc Surface := do
  ExceptT.mk (pure src.validate)
  let (w, h) := targetSize src.width src.height width height
  let dst ← Surface.create a w h (format.getD src.format)
  ExceptT.mk (pure (src.blit dst true none))

/-- Converts, allocating the target from the general heap. -/
def Surface.convert (src : Surface) (width height : Option Nat) (format : Option PixelFormat) :
    Except Error Surface :=
  (Surface.runAlloc (src.convertIn .system width height format)).1

end Raster
