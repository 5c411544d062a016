import Raster.Error

set_option autoImplicit false

/-!
# Limits

Two kinds of bound guard a decode. Every surface has width and height in `1 ..= 4096`
(`check_dimensions`). A caller may add its own bounds on width, height, pixel count and the bytes
one decode allocates (`Limits::check`, `Limits::check_memory`); these are checked after the
image's size is known and before anything is allocated.
-/

namespace Raster

/-- Whether a width and height are allowed for a surface. -/
def dimensionsFit (width height : Nat) : Bool :=
  1 ≤ width && width ≤ maxDimension && 1 ≤ height && height ≤ maxDimension

/-- Rejects a width or height outside `1 ..= 4096`. -/
def checkDimensions (width height : Nat) : Except Error Unit :=
  if dimensionsFit width height then .ok () else .error (.invalidSurface (.dimensions width height))

/-- Caller-chosen bounds on a decode; `none` leaves a quantity unbounded. -/
structure Limits where
  maxWidth : Option Nat := none
  maxHeight : Option Nat := none
  maxPixels : Option Nat := none
  maxMemory : Option Nat := none
  deriving Repr, Inhabited

namespace Limits

/-- **Checks a size against the bounds**, width first, then height, then pixel count. -/
def check (l : Limits) (width height : Nat) : Except Error Unit := do
  if let some m := l.maxWidth then
    if width > m then throw (.limitExceeded (.width width m))
  if let some m := l.maxHeight then
    if height > m then throw (.limitExceeded (.height height m))
  if let some m := l.maxPixels then
    if width * height > m then throw (.limitExceeded (.pixels (width * height) m))

/-- Checks the bytes one decode allocates against the memory bound. -/
def checkMemory (l : Limits) (bytes : Nat) : Except Error Unit :=
  match l.maxMemory with
  | some m => if bytes > m then .error (.limitExceeded (.memory bytes m)) else .ok ()
  | none => .ok ()

end Limits

end Raster
