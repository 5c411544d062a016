import Raster.Proofs.Raw565

set_option autoImplicit false

/-!
# Writing a decoded frame into pixel bytes

The PNG reader (`png::decode`) walks the surface's pixel bytes two at a time beside the decoded
frame's pixels, `channels` bytes at a time, and stops at the shorter of the two: the pixel bytes
are zipped with the frame (`fillFrame`). So their length never changes (`size_fillFrame`). The
first ones are the packed colours of the frame's first pixels (`byteAt_fillFrame_of_lt`), every
byte of the frame read on the way lies inside the frame (`fillFrame_reads_inside`), and the bytes
the frame does not reach keep what they held (`byteAt_fillFrame_of_le`). A frame that covers the
surface writes every byte, so what they held before is gone (`fillFrame_of_covers`).

Each pixel of a frame the reader accepts takes as many bytes as its colour type has samples
(`rgb8Reader_channels`), so a frame with a pixel for each of the image's covers the surface.
-/

namespace Raster

/-- A chain of checks passes exactly when each passes in turn. -/
theorem bind_eq_ok {ε α β : Type} {x : Except ε α} {f : α → Except ε β} {b : β} :
    (x >>= f) = .ok b ↔ ∃ a, x = .ok a ∧ f a = .ok b := by
  cases x <;> simp [bind, Except.bind]

/-- A check that fails or lets the rest run passes when it lets the rest run and the rest
passes. -/
theorem ite_throw_bind_eq_ok {ε α β : Type} {c : Prop} [Decidable c] {e : ε}
    {k : α → Except ε β} {y : Except ε β} {b : β} :
    (if c then throw e >>= k else y) = .ok b ↔ ¬c ∧ y = .ok b := by
  by_cases hc : c <;> simp [hc, throw, throwThe, MonadExceptOf.throw, bind, Except.bind]

section Frame

variable (channels : Nat) (grey : Bool) (bytes : ByteArray)

/-- Byte `i` of the packed colours of a decoded frame's pixels: the low byte of pixel `i / 2`'s
colour when `i` is even, its high byte when `i` is odd. -/
def frameByte (i : Nat) : UInt8 :=
  let c := frameColor grey bytes (i / 2 * channels)
  if i % 2 = 0 then Bytes.low c else Bytes.low (c / 256)

theorem frameByte_two_mul (k : Nat) :
    frameByte channels grey bytes (2 * k) = Bytes.low (frameColor grey bytes (k * channels)) := by
  simp [frameByte]

theorem frameByte_two_mul_add_one (k : Nat) :
    frameByte channels grey bytes (2 * k + 1) =
      Bytes.low (frameColor grey bytes (k * channels) / 256) := by
  have hhalf : (2 * k + 1) / 2 = k := by omega
  simp [frameByte, hhalf, Nat.add_mod]

/-- The packed colours of `n` pixels from pixel `k` on are the bytes of the frame from `2 · k`
on. -/
theorem pushFramePixels_eq_pushRange (n k : Nat) (acc : ByteArray) :
    pushFramePixels channels grey bytes n k acc =
      Bytes.pushRange (frameByte channels grey bytes) (2 * k) (2 * n) acc := by
  induction n generalizing k acc with
  | zero => rfl
  | succ n ih =>
    rw [pushFramePixels, ih, show 2 * (n + 1) = 2 + 2 * n by ring, Bytes.pushRange_add,
      show 2 * k + 2 = 2 * (k + 1) by ring]
    -- pixel `k` pushes the two bytes of its colour, low byte first
    simp only [Bytes.pushRange, frameByte_two_mul, frameByte_two_mul_add_one]

/-- How the frame writes the pixel bytes `data`: the packed colours of as many pixels as both
have, then the rest of `data`. -/
theorem fillFrame_eq (data : ByteArray) :
    fillFrame channels grey bytes data =
      Bytes.pushRange (frameByte channels grey bytes) 0
          (2 * min (data.size / 2) (bytes.size / channels)) .empty ++
        data.extract (2 * min (data.size / 2) (bytes.size / channels)) data.size := by
  rw [fillFrame, pushFramePixels_eq_pushRange, Nat.mul_zero]
  rfl

/-- **Writing a frame keeps the length of the pixel bytes.** -/
@[simp] theorem size_fillFrame (data : ByteArray) :
    (fillFrame channels grey bytes data).size = data.size := by
  have hn : 2 * min (data.size / 2) (bytes.size / channels) ≤ data.size := by omega
  rw [fillFrame_eq, ByteArray.size_append, Bytes.size_pushRange, ByteArray.size_empty,
    ByteArray.size_extract, Nat.min_self]
  omega

variable {channels grey bytes}

/-- The bytes the frame reaches are its packed colours. -/
theorem byteAt_fillFrame_of_lt {data : ByteArray} {i : Nat}
    (hi : i < 2 * min (data.size / 2) (bytes.size / channels)) :
    Bytes.byteAt (fillFrame channels grey bytes data) i = frameByte channels grey bytes i := by
  rw [fillFrame_eq, Bytes.byteAt_append_left _ _ (by
      rw [Bytes.size_pushRange, ByteArray.size_empty]; omega),
    Bytes.byteAt_pushRange _ _ hi, Nat.zero_add]

/-- The bytes the frame does not reach keep what they held. -/
theorem byteAt_fillFrame_of_le {data : ByteArray} {i : Nat}
    (hi : 2 * min (data.size / 2) (bytes.size / channels) ≤ i) :
    Bytes.byteAt (fillFrame channels grey bytes data) i = Bytes.byteAt data i := by
  rw [fillFrame_eq]
  generalize 2 * min (data.size / 2) (bytes.size / channels) = n at hi ⊢
  obtain ⟨j, rfl⟩ := Nat.exists_eq_add_of_le hi
  have hsize : (Bytes.pushRange (frameByte channels grey bytes) 0 n .empty).size = n := by
    rw [Bytes.size_pushRange, ByteArray.size_empty, Nat.zero_add]
  have hright := Bytes.byteAt_append_right (Bytes.pushRange (frameByte channels grey bytes) 0 n
    .empty) (data.extract n data.size) j
  rw [hsize] at hright
  rw [hright]
  by_cases hin : n + j < data.size
  · exact Bytes.byteAt_extract data hin le_rfl
  · rw [Bytes.byteAt_of_le (by rw [ByteArray.size_extract]; omega),
      Bytes.byteAt_of_le (by omega)]

/-- **The colour of a pixel the frame reaches** is the colour of the frame's pixel in its
place. -/
theorem u16le_fillFrame {data : ByteArray} {k : Nat}
    (hk : k < min (data.size / 2) (bytes.size / channels)) :
    Bytes.u16le (fillFrame channels grey bytes data) (2 * k) =
      frameColor grey bytes (k * channels) := by
  unfold Bytes.u16le Bytes.get
  rw [byteAt_fillFrame_of_lt (by omega), byteAt_fillFrame_of_lt (by omega), frameByte_two_mul,
    frameByte_two_mul_add_one]
  -- a packed colour is a 16-bit number
  have hc : frameColor grey bytes (k * channels) < 65536 := by
    unfold frameColor
    split <;> exact Rgb565.pack_lt _ _ _
  exact Bytes.low_add_low_div hc

/-- **A frame that covers the pixel bytes writes all of them**, whatever they held. -/
theorem fillFrame_of_covers {data : ByteArray} (heven : data.size % 2 = 0)
    (hcover : data.size ≤ 2 * (bytes.size / channels)) :
    fillFrame channels grey bytes data =
      Bytes.pushRange (frameByte channels grey bytes) 0 data.size .empty := by
  have hn : 2 * min (data.size / 2) (bytes.size / channels) = data.size := by omega
  rw [fillFrame_eq, hn, ByteArray.extract_same, ByteArray.append_empty]

/-- **Each pixel of an accepted frame takes as many bytes as its colour type has samples**, and
at least the one byte of grey or the three of red, green and blue that it is read from. -/
theorem rgb8Reader_channels {c : Png.ColorType} {channels : Nat} {grey : Bool}
    (hc : rgb8Reader c = .ok (channels, grey)) :
    channels = c.samples ∧ (if grey then 1 else 3) ≤ channels := by
  cases c <;> simp only [rgb8Reader, Except.ok.injEq, Prod.mk.injEq, reduceCtorEq] at hc <;>
    obtain ⟨rfl, rfl⟩ := hc <;> decide

/-- **A frame is read inside its bytes**: each pixel the frame gives the surface is read from
the bytes of its own `channels`, for each colour type the reader accepts. -/
theorem fillFrame_reads_inside {c : Png.ColorType} (hc : rgb8Reader c = .ok (channels, grey))
    {data : ByteArray} {k j : Nat} (hk : k < min (data.size / 2) (bytes.size / channels))
    (hj : j < (if grey then 1 else 3)) : k * channels + j < bytes.size := by
  obtain ⟨-, hmin⟩ := rgb8Reader_channels hc
  have hlt : k < bytes.size / channels := by omega
  calc k * channels + j < (k + 1) * channels := by rw [Nat.succ_mul]; omega
    _ ≤ bytes.size / channels * channels := Nat.mul_le_mul_right _ hlt
    _ ≤ bytes.size := Nat.div_mul_le_self _ _

end Frame

end Raster
