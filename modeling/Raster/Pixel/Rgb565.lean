set_option autoImplicit false

/-!
# RGB565 colours

A 16-bit colour holds five bits of red, six of green and five of blue, red highest. Packing an 8-bit
RGB triple (`pack_rgb565`) keeps the top bits of each channel; unpacking (`unpack_rgb565`) puts the
channel bits back at the top of each byte and leaves the low bits zero, so unpacking and packing
again is the identity on colours.

Colours and channels are natural numbers here. Callers pass bytes below 256 and colours below 65536;
on those the arithmetic below is the usual shift-and-mask layout, with no overlapping fields.
-/

namespace Raster.Rgb565

/-- **Packs an 8-bit RGB triple**, keeping the top 5, 6 and 5 bits. -/
@[inline] def pack (r g b : Nat) : Nat :=
  (r / 8 % 32) * 2048 + (g / 4 % 64) * 32 + b / 8 % 32

/-- **Unpacks a colour to 8-bit channels**, with the low bits of each channel zero. -/
@[inline] def unpack (c : Nat) : Nat × Nat × Nat :=
  ((c / 2048 % 32) * 8, (c / 32 % 64) * 4, (c % 32) * 8)

/-- The red channel, `0` to `31`. -/
def red (c : Nat) : Nat := c / 2048 % 32

/-- The green channel, `0` to `63`. -/
def green (c : Nat) : Nat := c / 32 % 64

/-- The blue channel, `0` to `31`. -/
def blue (c : Nat) : Nat := c % 32

/-- The colour with the given channels, each cut to its width. -/
def join (r g b : Nat) : Nat :=
  (r % 32) * 2048 + (g % 64) * 32 + b % 32

theorem join_channels (c : Nat) (h : c < 65536) : join (red c) (green c) (blue c) = c := by
  simp only [join, red, green, blue]
  omega

theorem pack_unpack (c : Nat) (h : c < 65536) :
    pack (unpack c).1 (unpack c).2.1 (unpack c).2.2 = c := by
  simp only [pack, unpack]
  omega

theorem join_lt (r g b : Nat) : join r g b < 65536 := by
  simp only [join]
  omega

theorem pack_lt (r g b : Nat) : pack r g b < 65536 := by
  simp only [pack]
  omega

end Raster.Rgb565
