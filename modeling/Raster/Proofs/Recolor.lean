import Raster.Shade
import Raster.Proofs.Validity

set_option autoImplicit false

/-!
# What shading and tinting do

Shading and tinting both convert the source to RGB565 little-endian at its own size and then
rewrite every 16-bit word of that copy through a colour map (`Surface.map565`). The conversion
keeps every colour of a readable source and refuses only a three-byte palette, so a recolouring
fails exactly on `pal888` and otherwise gives, at every pixel, the map of the source's colour
(`Surface.map565_pixel565?`). Values are never changed in place, so the source stays as it was.

The colour maps work channel by channel on channels below 32 and 64. A channel divided, or
multiplied by another channel and divided by its maximum, is no larger than that maximum, and the
products tinting forms stay below `64 · 64`, far inside 16 bits. So joining the new channels never
cuts a bit (`Rgb565.darken_eq`, `Rgb565.tint_eq`), and shading by 0 or 1 and tinting by white
give the 16-bit copy itself (`Surface.map565_eq_convert`).

A recoloured surface is already 16-bit little-endian, so recolouring it again converts it to
itself and maps its buffer once more: two recolourings are one by the composite map
(`Surface.map565_map565`). Dividing a channel by `a` and then by `b` divides it by `a · b`, and
since channels are below 64 a product past 16 bits may be cut to the largest divisor, so
shading twice is shading once (`Surface.shade_shade_eq_shade_mul`).

The main results are `Surface.shade_tint_per_channel` and `Surface.shade_shade_eq_shade_mul`.
-/

namespace Raster

namespace Rgb565

theorem red_lt (c : Nat) : red c < 32 := Nat.mod_lt _ (by decide)

theorem green_lt (c : Nat) : green c < 64 := Nat.mod_lt _ (by decide)

theorem blue_lt (c : Nat) : blue c < 32 := Nat.mod_lt _ (by decide)

/-- Joining channels that fit their fields lays them side by side. -/
theorem join_of_lt {r g b : Nat} (hr : r < 32) (hg : g < 64) (hb : b < 32) :
    join r g b = r * 2048 + g * 32 + b := by
  simp only [join, Nat.mod_eq_of_lt hr, Nat.mod_eq_of_lt hg, Nat.mod_eq_of_lt hb]

/-- A channel scaled by another channel of at most `m` over `m` is at most `m` again. -/
theorem mul_div_lt {a b m : Nat} (ha : a < m + 1) (hb : b < m + 1) (hm : 0 < m) :
    a * b / m < m + 1 := by
  have hprod : a * b ≤ m * m := Nat.mul_le_mul (Nat.le_of_lt_succ ha) (Nat.le_of_lt_succ hb)
  apply Nat.div_lt_of_lt_mul
  calc a * b ≤ m * m := hprod
    _ < m * (m + 1) := Nat.mul_lt_mul_of_pos_left (Nat.lt_succ_self m) hm

/-- **Shading divides each channel**, and the quotients fit their fields. -/
theorem darken_eq (d c : Nat) :
    darken d c = red c / max d 1 * 2048 + green c / max d 1 * 32 + blue c / max d 1 :=
  join_of_lt (Nat.lt_of_le_of_lt (Nat.div_le_self _ _) (red_lt c))
    (Nat.lt_of_le_of_lt (Nat.div_le_self _ _) (green_lt c))
    (Nat.lt_of_le_of_lt (Nat.div_le_self _ _) (blue_lt c))

/-- **Tinting scales each channel** by the tint's channel over the channel's maximum, and the
results fit their fields. -/
theorem tint_eq (t c : Nat) :
    tint t c = red c * red t / 31 * 2048 + green c * green t / 63 * 32 + blue c * blue t / 31 :=
  join_of_lt (mul_div_lt (red_lt c) (red_lt t) (by decide))
    (mul_div_lt (green_lt c) (green_lt t) (by decide))
    (mul_div_lt (blue_lt c) (blue_lt t) (by decide))

/-- A 16-bit colour is its channels laid side by side. -/
theorem channels_eq {c : Nat} (hc : c < 65536) : red c * 2048 + green c * 32 + blue c = c := by
  simp only [red, green, blue]
  omega

/-- Shading by one leaves every 16-bit colour as it is. -/
theorem darken_one {c : Nat} (hc : c < 65536) : darken 1 c = c := by
  rw [darken_eq, Nat.max_self, Nat.div_one, Nat.div_one, Nat.div_one, channels_eq hc]

/-- Shading by zero is shading by one. -/
theorem darken_zero (c : Nat) : darken 0 c = darken 1 c := rfl

/-- Tinting by white leaves every 16-bit colour as it is: each channel is scaled by its maximum
over its maximum. -/
theorem tint_white {c : Nat} (hc : c < 65536) : tint 65535 c = c := by
  have hr : red 65535 = 31 := rfl
  have hg : green 65535 = 63 := rfl
  have hb : blue 65535 = 31 := rfl
  rw [tint_eq, hr, hg, hb, Nat.mul_div_cancel _ (by decide), Nat.mul_div_cancel _ (by decide),
    Nat.mul_div_cancel _ (by decide), channels_eq hc]

/-- Channels that fit their fields are read back from the colour they are laid into. -/
theorem channels_of_lt {r g b : Nat} (hr : r < 32) (hg : g < 64) (hb : b < 32) :
    red (r * 2048 + g * 32 + b) = r ∧ green (r * 2048 + g * 32 + b) = g ∧
      blue (r * 2048 + g * 32 + b) = b := by
  simp only [red, green, blue]
  omega

/-- The channels of a shaded colour are the colour's channels divided. -/
theorem channels_darken (d c : Nat) :
    red (darken d c) = red c / max d 1 ∧ green (darken d c) = green c / max d 1 ∧
      blue (darken d c) = blue c / max d 1 := by
  rw [darken_eq]
  exact channels_of_lt (Nat.lt_of_le_of_lt (Nat.div_le_self _ _) (red_lt c))
    (Nat.lt_of_le_of_lt (Nat.div_le_self _ _) (green_lt c))
    (Nat.lt_of_le_of_lt (Nat.div_le_self _ _) (blue_lt c))

/-- Dividing a channel by `a` and then by `b` divides it by the product, and a product past
16 bits may be cut to the largest 16-bit divisor: a channel is below 64, so both quotients are
zero there. -/
theorem div_div_capped {x : Nat} (hx : x < 64) (a b : Nat) :
    x / max a 1 / max b 1 = x / max (min (max a 1 * max b 1) 65535) 1 := by
  rw [Nat.div_div_eq_div_mul]
  by_cases hprod : max a 1 * max b 1 ≤ 65535
  · have hpos : 1 ≤ max a 1 * max b 1 :=
      Nat.mul_le_mul (Nat.le_max_right a 1) (Nat.le_max_right b 1)
    rw [Nat.min_eq_left hprod, Nat.max_eq_left hpos]
  · rw [Nat.min_eq_right (by omega), Nat.div_eq_of_lt (by omega), Nat.div_eq_of_lt (by omega)]

/-- **Shading twice is shading once** by the product of the divisors (each zero read as one),
capped at the largest 16-bit divisor. -/
theorem darken_darken (a b c : Nat) :
    darken b (darken a c) = darken (min (max a 1 * max b 1) 65535) c := by
  obtain ⟨hr, hg, hb⟩ := channels_darken a c
  have hr64 : red c < 64 := Nat.lt_of_lt_of_le (red_lt c) (by decide)
  have hb64 : blue c < 64 := Nat.lt_of_lt_of_le (blue_lt c) (by decide)
  rw [darken_eq b, hr, hg, hb, darken_eq, div_div_capped hr64, div_div_capped (green_lt c),
    div_div_capped hb64]

end Rgb565

/-! ## Recolouring a buffer -/

/-- Recolouring appends to what it is given. -/
theorem mapPixelsFrom_eq_append (f : Nat → Nat) (data : ByteArray) :
    ∀ n i (acc : ByteArray), mapPixelsFrom f data n i acc = acc ++ mapPixelsFrom f data n i .empty
  | 0, _, acc => ByteArray.append_empty.symm
  | n + 1, i, acc => by
    simp only [mapPixelsFrom]
    rw [mapPixelsFrom_eq_append f data n (i + 2),
      mapPixelsFrom_eq_append f data n (i + 2) ((ByteArray.empty.push _).push _),
      Bytes.push_eq_append, Bytes.push_eq_append, Bytes.push_eq_append, Bytes.push_eq_append,
      ByteArray.empty_append, ByteArray.append_assoc, ByteArray.append_assoc,
      ByteArray.append_assoc]

/-- **Byte `j` of the `k`-th recoloured pixel** is byte `j` of the little-endian cell of the
mapped colour of the `k`-th word read. -/
theorem byteAt_mapPixelsFrom (f : Nat → Nat) (data : ByteArray) :
    ∀ {n i k j : Nat} (acc : ByteArray), k < n → j < 2 →
      Bytes.byteAt (mapPixelsFrom f data n i acc) (acc.size + (2 * k + j)) =
        Bytes.byteAt (PixelFormat.rgb565Le.cell (f (Bytes.u16le data (i + 2 * k)))) j
  | 0, _, _, _, _, hk, _ => absurd hk (Nat.not_lt_zero _)
  | n + 1, i, k, j, acc, hk, hj => by
    -- the first word's cell is pushed onto the accumulator, the rest come after it
    have hcell : ((acc.push (Bytes.low (f (Bytes.u16le data i)))).push
        (Bytes.low (f (Bytes.u16le data i) / 256))) =
        acc ++ PixelFormat.rgb565Le.cell (f (Bytes.u16le data i)) :=
      PixelFormat.pushCell_eq_append .rgb565Le _ acc
    have hsize : (PixelFormat.rgb565Le.cell (f (Bytes.u16le data i))).size = 2 := rfl
    simp only [mapPixelsFrom]
    rw [hcell]
    cases k with
    | zero =>
      rw [mapPixelsFrom_eq_append, Bytes.byteAt_append_left _ _ (by
          rw [ByteArray.size_append, hsize]; omega),
        Nat.mul_zero, Nat.zero_add, Bytes.byteAt_append_right, Nat.add_zero]
    | succ k =>
      have hpos : acc.size + (2 * (k + 1) + j) = (acc ++ PixelFormat.rgb565Le.cell
          (f (Bytes.u16le data i))).size + (2 * k + j) := by
        rw [ByteArray.size_append, hsize]; omega
      rw [hpos, byteAt_mapPixelsFrom f data _ (by omega) hj]
      congr 4
      omega

/-- Byte `j` of word `k` of a recoloured buffer is byte `j` of the little-endian cell of the
mapped word. -/
theorem byteAt_mapPixels565 (f : Nat → Nat) (data : ByteArray) {k j : Nat}
    (hk : k < data.size / 2) (hj : j < 2) :
    Bytes.byteAt (mapPixels565 f data) (2 * k + j) =
      Bytes.byteAt (PixelFormat.rgb565Le.cell (f (Bytes.u16le data (2 * k)))) j := by
  have h := byteAt_mapPixelsFrom f data (i := 0) ByteArray.empty hk hj
  rw [ByteArray.size_empty, Nat.zero_add, Nat.zero_add] at h
  rw [mapPixels565, show ByteArray.emptyWithCapacity data.size = ByteArray.empty from rfl, h]

/-- A recoloured word reads back as the mapped word when that is 16-bit. -/
theorem u16le_mapPixels565 {f : Nat → Nat} (data : ByteArray) {k : Nat}
    (hk : k < data.size / 2) (hf : f (Bytes.u16le data (2 * k)) < 65536) :
    Bytes.u16le (mapPixels565 f data) (2 * k) = f (Bytes.u16le data (2 * k)) := by
  have h0 := byteAt_mapPixels565 f data hk (j := 0) (by decide)
  have h1 := byteAt_mapPixels565 f data hk (j := 1) (by decide)
  rw [Nat.add_zero] at h0
  simp only [Bytes.u16le, Bytes.get, h0, h1, PixelFormat.cell, Bytes.byteAt_mk]
  exact Bytes.low_add_low_div hf

/-- **Recolouring twice is recolouring once by the composite map**, when the first map keeps
colours 16-bit: every word the second map reads is one the first has written. -/
theorem mapPixels565_mapPixels565 {f : Nat → Nat} (hf : ∀ c, f c < 65536) (g : Nat → Nat)
    (data : ByteArray) :
    mapPixels565 g (mapPixels565 f data) = mapPixels565 (fun c => g (f c)) data := by
  have hwords : (mapPixels565 f data).size / 2 = data.size / 2 := by
    rw [Surface.size_mapPixels565]
    omega
  apply Bytes.ext_byteAt (by
    rw [Surface.size_mapPixels565 g, hwords, Surface.size_mapPixels565 (fun c => g (f c))])
  intro i hi
  rw [Surface.size_mapPixels565 g, hwords] at hi
  -- byte `i` is byte `i % 2` of word `i / 2` on both sides
  have hk : i / 2 < data.size / 2 := by omega
  have hj : i % 2 < 2 := Nat.mod_lt i (by decide)
  rw [← Nat.div_add_mod i 2, byteAt_mapPixels565 g _ (hwords ▸ hk) hj,
    byteAt_mapPixels565 _ data hk hj, u16le_mapPixels565 data hk (hf _)]

namespace Surface

variable {s : Surface} {f : Nat → Nat}

/-- A colour read from a surface is 16-bit. -/
theorem pixel565?_lt {x y c : Nat} (h : s.pixel565? x y = some c) : c < 65536 := by
  unfold pixel565? at h
  split at h
  · exact colorAt_lt h
  · cases h

/-- **A recolouring of a readable surface** succeeds with a valid 16-bit little-endian surface of
the source's size whose every pixel is the map of the source's colour there, when the map keeps
colours 16-bit. -/
theorem map565_pixel565? (hs : s.Valid) (hread : s.format ≠ .pal888)
    (hf : ∀ c, c < 65536 → f c < 65536) :
    ∃ t, s.map565 f = .ok t ∧ t.Valid ∧ t.format = .rgb565Le ∧ t.width = s.width ∧
      t.height = s.height ∧ ∀ x y, t.pixel565? x y = (s.pixel565? x y).map f := by
  obtain ⟨out, hconv, hout, hw, hh, hfmt, hpix⟩ := convert_packed_keeps_colors hs hread
    (f := .rgb565Le) rfl
  have hok : s.map565 f = .ok { out with data := mapPixels565 f out.data } := by
    simp only [map565, hconv, bind, Except.bind, pure, Except.pure]
  have hvalid := map565_ok_valid hok
  refine ⟨_, hok, hvalid, hfmt, hw, hh, fun x y => ?_⟩
  by_cases hin : x < out.width ∧ y < out.height
  · obtain ⟨hx, hy⟩ := hin
    have hpacked : out.format.isPalette = false := by rw [hfmt]; rfl
    have hstride : out.stride = 2 * out.width := by
      rw [stride, hfmt, Nat.mul_comm]; rfl
    -- the colour the copy holds at `(x, y)` is the word at its cell
    have hword : out.colorAt (y * out.stride) x =
        some (Bytes.u16le out.data (y * out.stride + 2 * x)) := by
      unfold colorAt; rw [hfmt]
    have hc := colorAt_lt hword
    rw [← hpix, pixel565?_of_lt hout hx hy, hword, Option.map_some,
      pixel565?_of_lt hvalid hx hy]
    apply colorAt_of_cell (s := { out with data := mapPixels565 f out.data }) hpacked (hf _ hc)
    intro j hj
    have hj2 : j < 2 := by rw [hfmt] at hj; exact hj
    have hk : y * out.width + x < out.data.size / 2 := by
      rw [hout.size_data, hstride, Nat.mul_left_comm, Nat.mul_div_cancel_left _ (by decide)]
      exact Bytes.cell_offset_lt hy hx
    -- pixel `(x, y)` is the `(y · w + x)`-th word of the copy
    have hpos : y * out.stride + x * out.format.bytesPerPixel + j =
        2 * (y * out.width + x) + j := by
      rw [hstride, hfmt]
      simp only [PixelFormat.bytesPerPixel]
      ring
    show Bytes.byteAt (mapPixels565 f out.data)
        (y * out.stride + x * out.format.bytesPerPixel + j) =
      Bytes.byteAt (out.format.cell _) j
    rw [hpos, byteAt_mapPixels565 f out.data hk hj2, hfmt, hstride]
    congr 4
    ring
  · have hout' : s.width ≤ x ∨ s.height ≤ y := by omega
    rw [pixel565?_eq_none hvalid (by rw [hw, hh]; exact hout'), pixel565?_eq_none hs hout',
      Option.map_none]

/-- A three-byte palette surface has no 16-bit copy. -/
theorem convert_rgb565Le_of_pal888 (hs : s.Valid) (hp : s.format = .pal888) :
    s.convert none none (some .rgb565Le) = .error (.unsupportedFormat (.read .pal888)) :=
  convert_of_pal888 hs hp (by decide) hs.dimensionsFit

/-- A recolouring of a three-byte palette surface fails where its conversion does. -/
theorem map565_of_pal888 (hs : s.Valid) (hp : s.format = .pal888) (f : Nat → Nat) :
    s.map565 f = .error (.unsupportedFormat (.read .pal888)) := by
  simp only [map565, convert_rgb565Le_of_pal888 hs hp, bind, Except.bind]

/-- **A map that keeps every 16-bit colour recolours nothing**: the recolouring is the conversion
to 16-bit little-endian, on every valid surface. -/
theorem map565_eq_convert (hs : s.Valid) (hf : ∀ c, c < 65536 → f c = c) :
    s.map565 f = s.convert none none (some .rgb565Le) := by
  by_cases hp : s.format = .pal888
  · rw [map565_of_pal888 hs hp, convert_rgb565Le_of_pal888 hs hp]
  obtain ⟨t, hok, ht, htf, htw, hth, htpix⟩ :=
    map565_pixel565? hs hp fun c hc => (hf c hc).symm ▸ hc
  obtain ⟨out, hconv, hout, hw, hh, hfmt, hpix⟩ := convert_packed_keeps_colors hs hp
    (f := .rgb565Le) rfl
  rw [hok, hconv]
  -- both are valid 16-bit surfaces of one size with the source's colours
  refine congrArg Except.ok (eq_of_pixel565? ht hout (htw.trans hw.symm) (hth.trans hh.symm)
    (htf.trans hfmt.symm) (.inl htf) fun x y => ?_)
  rw [htpix, hpix]
  cases hc : s.pixel565? x y with
  | none => rfl
  | some c => rw [Option.map_some, hf c (pixel565?_lt hc)]

/-- **Shading and tinting, channel by channel.** On a valid surface both fail with the format
gap of reading a three-byte palette exactly when the surface has one. Otherwise shading by `d`
gives a 16-bit little-endian surface of the same size whose every pixel has the source's red,
green and blue divided by `max d 1`, and tinting by `c` one whose channels are the source's
scaled by `c`'s over their maxima (31, 63 and 31). Every product formed stays within 16 bits and
every new channel within its field, so shading by 0 or 1 and tinting by white are the plain
16-bit copy. -/
theorem shade_tint_per_channel (hs : s.Valid) :
    (∀ d c, s.format = .pal888 →
      s.shade d = .error (.unsupportedFormat (.read .pal888)) ∧
        s.tint c = .error (.unsupportedFormat (.read .pal888))) ∧
    (∀ d, s.format ≠ .pal888 → ∃ t, s.shade d = .ok t ∧ t.format = .rgb565Le ∧
      t.width = s.width ∧ t.height = s.height ∧ ∀ x y, t.pixel565? x y = (s.pixel565? x y).map
        fun p => Rgb565.red p / max d 1 * 2048 + Rgb565.green p / max d 1 * 32 +
          Rgb565.blue p / max d 1) ∧
    (∀ c, s.format ≠ .pal888 → ∃ t, s.tint c = .ok t ∧ t.format = .rgb565Le ∧
      t.width = s.width ∧ t.height = s.height ∧ ∀ x y, t.pixel565? x y = (s.pixel565? x y).map
        fun p => Rgb565.red p * Rgb565.red c / 31 * 2048 +
          Rgb565.green p * Rgb565.green c / 63 * 32 + Rgb565.blue p * Rgb565.blue c / 31) ∧
    (∀ p c d, Rgb565.red p * Rgb565.red c < 65536 ∧ Rgb565.green p * Rgb565.green c < 65536 ∧
      Rgb565.blue p * Rgb565.blue c < 65536 ∧
      Rgb565.red p / max d 1 < 32 ∧ Rgb565.green p / max d 1 < 64 ∧
      Rgb565.blue p / max d 1 < 32 ∧
      Rgb565.red p * Rgb565.red c / 31 < 32 ∧ Rgb565.green p * Rgb565.green c / 63 < 64 ∧
      Rgb565.blue p * Rgb565.blue c / 31 < 32) ∧
    (s.shade 0 = s.convert none none (some .rgb565Le) ∧
      s.shade 1 = s.convert none none (some .rgb565Le) ∧
      s.tint 65535 = s.convert none none (some .rgb565Le)) := by
  refine ⟨fun d c hp => ⟨map565_of_pal888 hs hp _, map565_of_pal888 hs hp _⟩,
    fun d hread => ?_, fun c hread => ?_, fun p c d => ?_, ?_⟩
  · obtain ⟨t, hok, -, htf, htw, hth, htpix⟩ :=
      map565_pixel565? (f := Rgb565.darken d) hs hread fun _ _ => Rgb565.join_lt _ _ _
    exact ⟨t, hok, htf, htw, hth, fun x y => by rw [htpix, funext (Rgb565.darken_eq d)]⟩
  · obtain ⟨t, hok, -, htf, htw, hth, htpix⟩ :=
      map565_pixel565? (f := Rgb565.tint c) hs hread fun _ _ => Rgb565.join_lt _ _ _
    exact ⟨t, hok, htf, htw, hth, fun x y => by rw [htpix, funext (Rgb565.tint_eq c)]⟩
  · -- channels are below 32 and 64, so products stay below `64 · 64`
    have hr := Rgb565.red_lt p
    have hg := Rgb565.green_lt p
    have hb := Rgb565.blue_lt p
    have hr' := Rgb565.red_lt c
    have hg' := Rgb565.green_lt c
    have hb' := Rgb565.blue_lt c
    refine ⟨?_, ?_, ?_, Nat.lt_of_le_of_lt (Nat.div_le_self _ _) hr,
      Nat.lt_of_le_of_lt (Nat.div_le_self _ _) hg, Nat.lt_of_le_of_lt (Nat.div_le_self _ _) hb,
      Rgb565.mul_div_lt hr hr' (by decide), Rgb565.mul_div_lt hg hg' (by decide),
      Rgb565.mul_div_lt hb hb' (by decide)⟩ <;> nlinarith
  · exact ⟨map565_eq_convert hs fun _ hc => (Rgb565.darken_zero _).trans (Rgb565.darken_one hc),
      map565_eq_convert hs fun _ hc => Rgb565.darken_one hc,
      map565_eq_convert hs fun _ hc => Rgb565.tint_white hc⟩

/-- Shading a white three-byte pixel by zero gives its 16-bit copy. -/
theorem shade_tint_per_channel_white :
    (⟨1, 1, .rgb888, ⟨#[255, 255, 255]⟩, none⟩ : Surface).Valid ∧
      (⟨1, 1, .rgb888, ⟨#[255, 255, 255]⟩, none⟩ : Surface).shade 0 =
        (⟨1, 1, .rgb888, ⟨#[255, 255, 255]⟩, none⟩ : Surface).convert none none
          (some .rgb565Le) := by
  have hs : (⟨1, 1, .rgb888, ⟨#[255, 255, 255]⟩, none⟩ : Surface).Valid := by decide
  exact ⟨hs, (shade_tint_per_channel hs).2.2.2.2.1⟩

/-! ## Recolouring twice -/

/-- Recolouring a valid 16-bit little-endian surface maps its own buffer: the conversion it
starts with gives the surface back. -/
theorem map565_of_rgb565Le (hs : s.Valid) (hf : s.format = .rgb565Le) (g : Nat → Nat) :
    s.map565 g = .ok { s with data := mapPixels565 g s.data } := by
  have hconv : s.convert none none (some .rgb565Le) = .ok s := convert_self hs rfl rfl hf.symm
  simp only [map565, hconv, bind, Except.bind, pure, Except.pure]

/-- **Recolouring twice is recolouring once by the composite map**, on a readable surface and
for a first map that keeps colours 16-bit. The first recolouring gives a 16-bit little-endian
surface, which the second converts to itself before mapping its buffer. -/
theorem map565_map565 (hs : s.Valid) (hread : s.format ≠ .pal888) (hf : ∀ c, f c < 65536)
    (g : Nat → Nat) :
    ∃ t, s.map565 f = .ok t ∧ t.map565 g = s.map565 (fun c => g (f c)) := by
  obtain ⟨out, hconv, -, -, -, hfmt, -⟩ := convert_packed_keeps_colors hs hread
    (f := .rgb565Le) rfl
  have hok : ∀ h : Nat → Nat, s.map565 h = .ok { out with data := mapPixels565 h out.data } :=
    fun h => by simp only [map565, hconv, bind, Except.bind, pure, Except.pure]
  refine ⟨_, hok f, ?_⟩
  rw [map565_of_rgb565Le (map565_ok_valid (hok f)) hfmt, hok, mapPixels565_mapPixels565 hf]

/-- **Shading composes multiplicatively.** On a valid surface without a three-byte palette,
shading by `a` succeeds, and shading its result by `b` is shading the source once by
`max a 1 · max b 1`, capped at the largest 16-bit divisor. -/
theorem shade_shade_eq_shade_mul (hs : s.Valid) (hread : s.format ≠ .pal888) (a b : Nat) :
    ∃ t, s.shade a = .ok t ∧ t.shade b = s.shade (min (max a 1 * max b 1) 65535) := by
  obtain ⟨t, hok, htwice⟩ :=
    map565_map565 (f := Rgb565.darken a) hs hread (fun _ => Rgb565.join_lt _ _ _) (Rgb565.darken b)
  have hcomp : (fun c => Rgb565.darken b (Rgb565.darken a c)) =
      Rgb565.darken (min (max a 1 * max b 1) 65535) :=
    funext (Rgb565.darken_darken a b)
  refine ⟨t, hok, ?_⟩
  rw [Surface.shade, htwice, Surface.shade, hcomp]

/-- Shading a white pixel by 300 twice is shading it once by the largest 16-bit divisor. -/
theorem shade_shade_eq_shade_mul_saturated :
    (⟨1, 1, .rgb565Le, ⟨#[255, 255]⟩, none⟩ : Surface).Valid ∧
      (⟨1, 1, .rgb565Le, ⟨#[255, 255]⟩, none⟩ : Surface).format ≠ .pal888 ∧
      ∃ t, (⟨1, 1, .rgb565Le, ⟨#[255, 255]⟩, none⟩ : Surface).shade 300 = .ok t ∧
        t.shade 300 = (⟨1, 1, .rgb565Le, ⟨#[255, 255]⟩, none⟩ : Surface).shade 65535 := by
  have hs : (⟨1, 1, .rgb565Le, ⟨#[255, 255]⟩, none⟩ : Surface).Valid := by decide
  obtain ⟨t, hok, htwice⟩ := shade_shade_eq_shade_mul hs (by decide) 300 300
  have hcap : min (max 300 1 * max 300 1) 65535 = 65535 := by decide
  rw [hcap] at htwice
  exact ⟨hs, by decide, t, hok, htwice⟩

end Surface

end Raster
