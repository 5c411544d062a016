import Raster.Png.Header

set_option autoImplicit false

/-!
# Animation chunks

An animated PNG numbers its frame controls (fcTL) and frame data chunks (fdAT) in one sequence
from 0, each chunk the number after the one before. A frame control gives the frame's size and
offset, a delay, and how the frame is disposed of and blended; the frame must fit inside the
image. The image data that follows a frame control holds that frame alone, at the frame's size.

A frame control is read field by field, and a field is checked as soon as it is read: the
sequence number first, the dispose operation before the blend operation is read, and the size
and offset once all fields are in.
-/

namespace Raster.Png

/-- The fields of a frame control that decoding needs. -/
structure FrameControl where
  sequence : Nat
  width : Nat
  height : Nat
  x : Nat
  y : Nat
  deriving DecidableEq, Repr

/-- The sequence number due after `last`, the number of the animation chunk read last. -/
def nextSequence (last : Option Nat) : Nat :=
  match last with
  | some n => n + 1
  | none => 0

/-- **Reads a frame control** of an image with header `h`, after the animation chunk numbered
`last`. -/
def FrameControl.parse (h : Header) (last : Option Nat) (d : ByteArray) :
    Except PngFault FrameControl := do
  if d.size < 4 then throw (.tooShort .frameControl)
  let seq := Bytes.u32be d 0
  if seq != nextSequence last then throw (.sequenceOrder (nextSequence last) seq)
  if d.size < 25 then throw (.tooShort .frameControl)
  let dispose := Bytes.get d 24
  if dispose > 2 then throw (.disposeOp dispose)
  if d.size < 26 then throw (.tooShort .frameControl)
  let blend := Bytes.get d 25
  if blend > 1 then throw (.blendOp blend)
  let fc : FrameControl :=
    ⟨seq, Bytes.u32be d 4, Bytes.u32be d 8, Bytes.u32be d 12, Bytes.u32be d 16⟩
  if fc.width == 0 || fc.height == 0 then throw .dimensions
  if fc.x + fc.width > h.width || fc.y + fc.height > h.height then throw .subFrameBounds
  return fc

/-- The header of the image a frame control describes: the image's, at the frame's size. -/
def FrameControl.header (fc : FrameControl) (h : Header) : Header :=
  { h with width := fc.width, height := fc.height }

end Raster.Png
