import Raster.Shade

set_option autoImplicit false

/-!
# The image cache

A cache (`ImageCache`) holds images by key, loaded on first use, and darkened variants of them by
key and divisor, computed on first use. A key is looked up exactly as given. A failed load caches
nothing, so the next use tries again. Dropping a key drops its variants with it.

Seen from outside, the cache is a finite map from keys to images (`get?`) together with a finite map
from keys and divisors to shaded images whose keys are always cached images.
-/

namespace Raster

/-- Images by key, and shaded variants by key and divisor. -/
structure ImageCache where
  images : List (String × Surface) := []
  shaded : List ((String × Nat) × Surface) := []

/-- What a lookup that may load gives: the image or the load's error, and whether the loader
ran. -/
structure Fetched where
  result : Except Error Surface
  loaded : Bool

namespace ImageCache

/-- The cached image for a key. -/
def get? (c : ImageCache) (key : String) : Option Surface :=
  c.images.lookup key

/-- The number of cached images. -/
def size (c : ImageCache) : Nat :=
  c.images.length

/-- Whether no image is cached. -/
def isEmpty (c : ImageCache) : Bool :=
  c.images.isEmpty

/-- **The cached image for `key`, loading it on a miss.** A loaded image is cached; a failed load
is not. -/
def getOrInsertWith (c : ImageCache) (key : String) (load : Unit → Except Error Surface) :
    Fetched × ImageCache :=
  match c.get? key with
  | some s => (⟨.ok s, false⟩, c)
  | none =>
    match load () with
    | .ok s => (⟨.ok s, true⟩, { c with images := c.images ++ [(key, s)] })
    | .error e => (⟨.error e, true⟩, c)

/-- An image brought to `width × height`: kept if it has that size, resized otherwise, and kept
as it is if resizing fails. -/
def fit (width height : Nat) (s : Surface) : Surface :=
  if s.width == width && s.height == height then s
  else match s.convert (some width) (some height) none with
    | .ok t => t
    | .error _ => s

/-- Like `getOrInsertWith`, but a freshly loaded image is fitted to `width × height` before it is
cached. -/
def getOrInsertFitted (c : ImageCache) (key : String) (width height : Nat)
    (load : Unit → Except Error Surface) : Fetched × ImageCache :=
  c.getOrInsertWith key fun _ => (load ()).map (fit width height)

/-- **The image for `key` darkened by `divisor`**, computed once per key and divisor; `none` when
the key is not cached. A divisor of 0 or 1 gives the image itself. -/
def shade (c : ImageCache) (key : String) (divisor : Nat) :
    Except Error (Option Surface) × ImageCache :=
  match c.get? key with
  | none => (.ok none, c)
  | some base =>
    if divisor ≤ 1 then (.ok (some base), c)
    else match c.shaded.lookup (key, divisor) with
      | some s => (.ok (some s), c)
      | none =>
        match base.shade divisor with
        | .ok s => (.ok (some s), { c with shaded := c.shaded ++ [((key, divisor), s)] })
        | .error e => (.error e, c)

/-- **Drops `key` and its shaded variants**, telling whether the key was cached. -/
def invalidate (c : ImageCache) (key : String) : Bool × ImageCache :=
  ((c.get? key).isSome,
    { images := c.images.filter (·.1 != key), shaded := c.shaded.filter (·.1.1 != key) })

/-- Drops everything. -/
def clear (_ : ImageCache) : ImageCache := {}

end ImageCache

end Raster
