import Raster.Proofs.Validity

set_option autoImplicit false

/-!
# Writing whole surfaces and reading them back

Two ways of writing every pixel of a surface, and what reading the surface back gives.

Filling a packed surface with a colour repeats the colour's cell over the pixel buffer
(`Bytes.cycle`). A valid surface's buffer is a whole number of cells, so the cell of every pixel
is exactly the colour's cell (`Bytes.byteAt_cycle`), and reading a cell back gives its colour
(`PixelFormat.readCell_cell`; for a three-byte cell this is the round trip through
`Rgb565.unpack` and `Rgb565.pack`). An indexed surface has no colour to fill and is refused
before anything is written (`Surface.fill_paints_every_pixel`).

An RGB view is copied into a fresh three-byte surface one row after another (`gatherRows`), and
handing a three-byte surface out as RGB converts it to its own format, which copies its buffer
verbatim (`Surface.convert_self`). So a view's bytes come back row by row with nothing cut, and a
three-byte surface handed out and taken back in is the same surface
(`Surface.rgb_view_round_trip`).
-/

namespace Raster

/-! ## Gathering rows -/

/-- Gathering rows appends to what it is given. -/
theorem gatherRows_eq_append (pixels : ByteArray) (width stride : Nat) :
    ∀ n y (acc : ByteArray),
      gatherRows pixels width stride n y acc = acc ++ gatherRows pixels width stride n y .empty
  | 0, _, acc => ByteArray.append_empty.symm
  | n + 1, y, acc => by
    simp only [gatherRows]
    rw [gatherRows_eq_append pixels width stride n (y + 1),
      gatherRows_eq_append pixels width stride n (y + 1) (.empty ++ _), ByteArray.empty_append,
      ByteArray.append_assoc]

/-- **Byte `i` of gathered row `k`** is byte `i` of row `y + k` of the view, when the rows lie
inside the view's buffer. -/
theorem byteAt_gatherRows (pixels : ByteArray) (width stride : Nat) :
    ∀ {n y k i : Nat} (acc : ByteArray),
      (∀ r < n, 3 * ((y + r) * stride) + 3 * width ≤ pixels.size) → k < n → i < 3 * width →
      Bytes.byteAt (gatherRows pixels width stride n y acc) (acc.size + (k * (3 * width) + i)) =
        Bytes.byteAt pixels (3 * ((y + k) * stride) + i)
  | 0, _, _, _, _, _, hk, _ => absurd hk (Nat.not_lt_zero _)
  | n + 1, y, k, i, acc, hrows, hk, hi => by
    have hrow : 3 * (y * stride) + 3 * width ≤ pixels.size := by
      simpa using hrows 0 (Nat.succ_pos n)
    have hslice : (Bytes.slice pixels (3 * (y * stride)) (3 * width)).size = 3 * width := by
      rw [Bytes.slice, ByteArray.size_extract]
      omega
    rw [gatherRows]
    cases k with
    | zero =>
      -- the byte lies in the row just appended
      rw [gatherRows_eq_append, Bytes.byteAt_append_left _ _ (by
          rw [ByteArray.size_append, hslice]; omega),
        Nat.zero_mul, Nat.zero_add, Bytes.byteAt_append_right, Bytes.slice,
        Bytes.byteAt_extract _ (by omega) (by omega), Nat.add_zero]
    | succ k =>
      -- the byte lies in a later row, gathered after this one
      have hpos : acc.size + ((k + 1) * (3 * width) + i) =
          (acc ++ Bytes.slice pixels (3 * (y * stride)) (3 * width)).size +
            (k * (3 * width) + i) := by
        rw [ByteArray.size_append, hslice]
        ring
      have hrows' : ∀ r < n, 3 * ((y + 1 + r) * stride) + 3 * width ≤ pixels.size := by
        intro r hr
        rw [Nat.add_assoc, Nat.add_comm 1 r]
        exact hrows (r + 1) (by omega)
      have hyk : y + 1 + k = y + (k + 1) := by omega
      rw [hpos, byteAt_gatherRows pixels width stride _ hrows' (by omega) hi, hyk]

namespace Surface

variable {s : Surface}

/-! ## Filling -/

/-- Filling an indexed surface fails before anything is written. -/
theorem fill565_of_palette (hs : s.Valid) (hp : s.format.isPalette = true) (c : Nat) :
    s.fill565 c = .error (.unsupportedFormat (.fill s.format)) := by
  simp [fill565, validate_of_valid hs, hp, bind, Except.bind, throw, throwThe,
    MonadExceptOf.throw]

/-- Filling a packed surface repeats the colour's cell over its buffer. -/
theorem fill565_of_packed (hs : s.Valid) (hp : s.format.isPalette = false) (c : Nat) :
    s.fill565 c = .ok { s with data := Bytes.cycle (s.format.cell c) s.data.size } := by
  simp [fill565, validate_of_valid hs, hp, bind, Except.bind, pure, Except.pure]

/-- **Every pixel of a filled packed surface has the fill colour**: the buffer is a whole number
of cells, so the cell of every pixel is the colour's cell. -/
theorem pixel565?_fill (hs : s.Valid) (hp : s.format.isPalette = false) {c : Nat}
    (hc : c < 65536) {x y : Nat} (hx : x < s.width) (hy : y < s.height) :
    ({ s with data := Bytes.cycle (s.format.cell c) s.data.size } : Surface).pixel565? x y =
      some c := by
  have hcell : (s.format.cell c).size = s.format.bytesPerPixel := PixelFormat.size_cell _ hp c
  have hpos : 0 < (s.format.cell c).size := hcell ▸ PixelFormat.bytesPerPixel_pos _
  have ht : ({ s with data := Bytes.cycle (s.format.cell c) s.data.size } : Surface).Valid :=
    hs.with_data (by rw [Bytes.size_cycle _ _ hpos, hs.size_data])
  rw [pixel565?_of_lt ht hx hy]
  apply colorAt_of_cell (s := { s with data := Bytes.cycle (s.format.cell c) s.data.size }) hp hc
  intro j hj
  have hj' : j < s.format.bytesPerPixel := hj
  -- byte `j` of the cell lies inside the buffer, `j` bytes past a whole number of cells
  have hin : y * s.stride + x * s.format.bytesPerPixel + j < s.data.size := by
    rw [hs.size_data, stride, Nat.add_assoc]
    exact Bytes.cell_offset_lt hy (Bytes.cell_offset_lt hx hj')
  have hmod : (y * s.stride + x * s.format.bytesPerPixel + j) % s.format.bytesPerPixel = j := by
    rw [stride, show y * (s.width * s.format.bytesPerPixel) + x * s.format.bytesPerPixel + j =
        j + s.format.bytesPerPixel * (y * s.width + x) by ring,
      Nat.add_mul_mod_self_left, Nat.mod_eq_of_lt hj']
  show Bytes.byteAt (Bytes.cycle (s.format.cell c) s.data.size)
    (y * s.stride + x * s.format.bytesPerPixel + j) = Bytes.byteAt (s.format.cell c) j
  rw [Bytes.byteAt_cycle hpos hin, hcell, hmod]

/-- **Filling paints every pixel.** On a valid surface, filling with a 16-bit colour fails
exactly when the format is indexed, and then with the format gap of filling that format, before
anything is written; otherwise it gives a valid surface of the same size and format whose every
pixel has the colour. -/
theorem fill_paints_every_pixel (hs : s.Valid) {c : Nat} (hc : c < 65536) :
    ((∃ e, s.fill565 c = .error e) ↔ s.format.isPalette = true) ∧
    (s.format.isPalette = true → s.fill565 c = .error (.unsupportedFormat (.fill s.format))) ∧
    (s.format.isPalette = false → ∃ t, s.fill565 c = .ok t ∧ t.Valid ∧ t.width = s.width ∧
      t.height = s.height ∧ t.format = s.format ∧
      ∀ x y, x < s.width → y < s.height → t.pixel565? x y = some c) := by
  refine ⟨⟨?_, fun hp => ⟨_, fill565_of_palette hs hp c⟩⟩, fun hp => fill565_of_palette hs hp c,
    fun hp => ?_⟩
  · rintro ⟨e, he⟩
    by_contra hp
    rw [fill565_of_packed hs (Bool.eq_false_iff.mpr hp)] at he
    cases he
  · have hok := fill565_of_packed hs hp c
    exact ⟨_, hok, fill565_ok_valid hok, rfl, rfl, rfl,
      fun x y hx hy => pixel565?_fill hs hp hc hx hy⟩

/-- Filling two three-byte pixels with pure red makes both read pure red. -/
theorem fill_paints_every_pixel_red :
    (⟨2, 1, .rgb888, ⟨#[0, 0, 0, 0, 0, 0]⟩, none⟩ : Surface).Valid ∧ 63488 < 65536 ∧
      ∃ t, (⟨2, 1, .rgb888, ⟨#[0, 0, 0, 0, 0, 0]⟩, none⟩ : Surface).fill565 63488 = .ok t ∧
        ∀ x y, x < 2 → y < 1 → t.pixel565? x y = some 63488 := by
  have hs : (⟨2, 1, .rgb888, ⟨#[0, 0, 0, 0, 0, 0]⟩, none⟩ : Surface).Valid := by decide
  obtain ⟨-, -, hpacked⟩ := fill_paints_every_pixel hs (c := 63488) (by decide)
  obtain ⟨t, hok, -, -, -, -, hpix⟩ := hpacked rfl
  exact ⟨hs, by decide, t, hok, hpix⟩

/-! ## RGB views -/

theorem stride_of_rgb888 (hf : s.format = .rgb888) : s.stride = 3 * s.width := by
  rw [stride, hf]
  simp only [PixelFormat.bytesPerPixel]
  ring

/-- Handing a valid three-byte surface out as RGB gives its buffer: the conversion to its own
format copies the buffer verbatim. -/
theorem toRgbPixels_of_rgb888 (hs : s.Valid) (hf : s.format = .rgb888) :
    s.toRgbPixels = .ok s.data := by
  have hconv : s.convert none none (some .rgb888) = .ok s := convert_self hs rfl rfl hf.symm
  simp only [toRgbPixels, hconv, bind, Except.bind, pure, Except.pure]

/-- **An RGB view becomes a three-byte surface holding its rows**, when its sides fit and its
buffer reaches the last pixel of its last row: byte `i` of row `y` of the surface is byte `i` of
row `y` of the view. -/
theorem ofRgbPixels_rows {w h stride : Nat} {pixels : ByteArray}
    (hfit : dimensionsFit w h = true) (hfits : 3 * ((h - 1) * stride + w) ≤ pixels.size) :
    ∃ t, ofRgbPixels w h stride pixels = .ok t ∧ t.Valid ∧ t.width = w ∧ t.height = h ∧
      t.format = .rgb888 ∧ ∀ y i, y < h → i < 3 * w →
        Bytes.byteAt t.data (y * (3 * w) + i) = Bytes.byteAt pixels (3 * (y * stride) + i) := by
  obtain ⟨d, hnew⟩ := exists_new .rgb888 hfit
  obtain ⟨hw, hh, hf, -⟩ := new_ok hnew
  -- sides of at most 4096 fit in 32 bits
  have hsmall : (w > maxU32 || h > maxU32) = false := by
    obtain ⟨-, hw, -, hh⟩ := dimensionsFit_iff.mp hfit
    unfold maxDimension at hw hh
    rw [Bool.or_eq_false_iff]
    exact ⟨decide_eq_false (by unfold maxU32; omega), decide_eq_false (by unfold maxU32; omega)⟩
  have hok : ofRgbPixels w h stride pixels =
      .ok { d with data := gatherRows pixels w stride h 0 .empty } := by
    simp only [ofRgbPixels, hsmall, Bool.false_eq_true, if_false, hnew, bind, Except.bind, pure,
      Except.pure]
  refine ⟨_, hok, ofRgbPixels_ok_valid hfits hok, hw, hh, hf, fun y i hy hi => ?_⟩
  have hrow := byteAt_gatherRows pixels w stride (y := 0) .empty (rows_inside hfits) hy hi
  rw [ByteArray.size_empty, Nat.zero_add, Nat.zero_add] at hrow
  exact hrow

/-- **Taking a three-byte surface's own buffer back in**, rows one width apart, gives the
surface. -/
theorem ofRgbPixels_data (hs : s.Valid) (hf : s.format = .rgb888) :
    ofRgbPixels s.width s.height s.width s.data = .ok s := by
  have hsize : s.data.size = s.height * (3 * s.width) := by
    rw [hs.size_data, stride_of_rgb888 hf]
  have hfits : 3 * ((s.height - 1) * s.width + s.width) ≤ s.data.size := by
    obtain ⟨k, hk⟩ : ∃ k, s.height = k + 1 := ⟨s.height - 1, by have := hs.height_pos; omega⟩
    rw [hsize, hk, Nat.add_sub_cancel]
    exact Nat.le_of_eq (by ring)
  obtain ⟨t, hok, ht, hw, hh, htf, hrows⟩ := ofRgbPixels_rows hs.dimensionsFit hfits
  rw [hok]
  -- the rows are one width apart, so the gathered buffer is the buffer itself
  have hw3 : 0 < 3 * s.width := Nat.mul_pos (by decide) hs.width_pos
  have hdata : t.data = s.data := by
    apply Bytes.ext_byteAt (by rw [ht.size_data, stride_of_rgb888 htf, hw, hh, hsize])
    intro i hi
    rw [ht.size_data, stride_of_rgb888 htf, hw, hh] at hi
    have hy : i / (3 * s.width) < s.height :=
      Nat.div_lt_of_lt_mul (lt_of_lt_of_eq hi (Nat.mul_comm _ _))
    rw [← Nat.div_add_mod' i (3 * s.width), hrows _ _ hy (Nat.mod_lt i hw3),
      show 3 * (i / (3 * s.width) * s.width) = i / (3 * s.width) * (3 * s.width) by ring]
  have hpal : t.palette = s.palette := by
    rw [ht.palette_eq_none (by rw [htf]; rfl), hs.palette_eq_none (by rw [hf]; rfl)]
  have heq : t = s := by
    cases t
    cases s
    simp only [Surface.mk.injEq]
    exact ⟨hw, hh, htf.trans hf.symm, hdata, hpal⟩
  rw [heq]

/-- **RGB views round-trip exactly.** An RGB view with sides from 1 to 4096 whose buffer reaches
the last pixel of its last row becomes a three-byte surface of its size, and handing that out as
RGB gives the view's rows in order, byte for byte, with no channel bit cut; and a valid
three-byte surface handed out as RGB and taken back in, rows one width apart, is the same
surface. -/
theorem rgb_view_round_trip :
    (∀ (w h stride : Nat) (pixels : ByteArray), 1 ≤ w → w ≤ 4096 → 1 ≤ h → h ≤ 4096 →
      3 * ((h - 1) * stride + w) ≤ pixels.size →
      ∃ t, ofRgbPixels w h stride pixels = .ok t ∧ t.width = w ∧ t.height = h ∧
        ∃ out, t.toRgbPixels = .ok out ∧ out.size = h * (3 * w) ∧
          ∀ y i, y < h → i < 3 * w →
            Bytes.byteAt out (y * (3 * w) + i) = Bytes.byteAt pixels (3 * (y * stride) + i)) ∧
    (∀ s : Surface, s.Valid → s.format = .rgb888 →
      ∃ out, s.toRgbPixels = .ok out ∧ ofRgbPixels s.width s.height s.width out = .ok s) := by
  refine ⟨fun w h stride pixels hw1 hw hh1 hh hfits => ?_, fun s hs hf =>
    ⟨s.data, toRgbPixels_of_rgb888 hs hf, ofRgbPixels_data hs hf⟩⟩
  obtain ⟨t, hok, ht, htw, hth, htf, hrows⟩ :=
    ofRgbPixels_rows (dimensionsFit_iff.mpr ⟨hw1, hw, hh1, hh⟩) hfits
  have hsize : t.data.size = h * (3 * w) := by
    rw [ht.size_data, stride_of_rgb888 htf, htw, hth]
  exact ⟨t, hok, htw, hth, t.data, toRgbPixels_of_rgb888 ht htf, hsize, hrows⟩

/-- A one-pixel-wide view of two rows, two pixels apart, comes back without the pixel between
them. -/
theorem rgb_view_round_trip_skips_gap :
    ∃ t, ofRgbPixels 1 2 2 ⟨#[1, 2, 3, 9, 9, 9, 4, 5, 6]⟩ = .ok t ∧
      ∃ out, t.toRgbPixels = .ok out ∧ Bytes.byteAt out 3 = 4 := by
  obtain ⟨t, hok, -, -, out, hout, -, hrows⟩ := rgb_view_round_trip.1 1 2 2
    ⟨#[1, 2, 3, 9, 9, 9, 4, 5, 6]⟩ (by decide) (by decide) (by decide) (by decide) (by decide)
  have hsecond := hrows 1 0 (by decide) (by decide)
  have hbyte : Bytes.byteAt (⟨#[1, 2, 3, 9, 9, 9, 4, 5, 6]⟩ : ByteArray) (3 * (1 * 2) + 0) = 4 := by
    decide
  rw [hbyte] at hsecond
  exact ⟨t, hok, out, hout, hsecond⟩

end Surface

end Raster
