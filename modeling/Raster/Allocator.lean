import Raster.Bytes

set_option autoImplicit false

/-!
# Allocators

Surface buffers come from an allocator (`SurfaceAllocator`; the general heap is `Global`). An
allocator may refuse a request, and it may hand back
a buffer that is not zeroed or not of the requested length; the surface code, not the allocator,
decides what a usable buffer is. What an allocator answers may depend on how many requests came
before, which is how an allocator that runs dry after a few buffers is described.

Allocation is run in `Alloc`, which records every requested length in order. That record is
observable: it shows, for instance, that a palette surface asks for its pixels before its
palette, and that a failed check allocates nothing.
-/

namespace Raster

/-- A source of buffers. `grant n len` answers the request for `len` bytes that has `n` requests
before it. -/
structure Allocator where
  grant : Nat → Nat → Option ByteArray

/-- A computation that allocates: its state is the list of lengths requested so far. -/
abbrev Alloc := StateM (List Nat)

namespace Allocator

/-- The general heap: every request gets a zeroed buffer of the requested length. -/
def system : Allocator := ⟨fun _ len => some (Bytes.zeros len)⟩

/-- An allocator with nothing left: it refuses every request. -/
def exhausted : Allocator := ⟨fun _ _ => none⟩

/-- Zeroed buffers of at most `max` bytes; larger requests are refused. -/
def capped (max : Nat) : Allocator :=
  ⟨fun _ len => if len > max then none else some (Bytes.zeros len)⟩

/-- Zeroed buffers for the first `count` requests, then nothing. -/
def failingAfter (count : Nat) : Allocator :=
  ⟨fun n len => if n < count then some (Bytes.zeros len) else none⟩

/-- A faulty allocator whose buffers are one byte short. -/
def short : Allocator := ⟨fun _ len => some (Bytes.zeros (len - 1))⟩

/-- A faulty allocator whose buffers are one byte long. -/
def long : Allocator := ⟨fun _ len => some (Bytes.zeros (len + 1))⟩

/-- Buffers of the requested length that hold `b` in every byte instead of zero. -/
def filled (b : UInt8) : Allocator := ⟨fun _ len => some (Bytes.replicate len b)⟩

/-- **Asks for `len` bytes** and records the request. A buffer of any other length counts as a
refusal. -/
def request (a : Allocator) (len : Nat) : Alloc (Option ByteArray) :=
  fun log =>
    let answer := (a.grant log.length len).filter fun b => b.size == len
    (answer, log ++ [len])

end Allocator

end Raster
