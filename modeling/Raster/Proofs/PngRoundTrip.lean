import Raster.Proofs.PngFrame

set_option autoImplicit false

/-!
# Writing a PNG and reading it back

`encodePng` (`encode::encode_png`) writes a surface as an 8-bit RGB PNG through an encoder, after
converting it to three-byte RGB at the requested size, and `decode` reads a PNG through a decoder
into a 16-bit little-endian surface. Together they are the conversion to 16-bit little-endian at
that size (`png_round_trip_eq_convert`): both succeed with the same surface or both fail with the
same error. At the source's own size the round trip keeps every colour, and gives a 16-bit
little-endian surface back byte for byte.

The codec is trusted on one point only, at the one image a round trip writes: that the stream the
encoder writes opens with the PNG signature and that the decoder reads it back as the image
written, with its size and its RGB bytes (`Png.ReadsBack`). The rest is proved. The image written
is the conversion to RGB (`Surface.forPng_eq_convert`), because a size that `targetSize` resolved
resolves to itself and the shortcut for an RGB source at its own size gives what the conversion
gives. Each decoded pixel is the packed colour of the written pixel (`pixel565?_fillFrame_rgb`).
And the conversions to RGB and to 16-bit sample the same source pixels and fail at the same
check.
-/

namespace Raster

/-! ## Reading back what the encoder writes -/

/-- **What the round trip asks of a PNG codec** at a `w × h` image of 8-bit RGB pixel bytes `px`:
the stream the encoder writes is long enough to be an image and opens with the signature, and
the decoder reads it back at the image's size, as one frame of 8-bit RGB holding `px`. -/
structure Png.ReadsBack (dec : Png.Decoder) (enc : Png.Encoder) (w h : Nat) (px : ByteArray) :
    Prop where
  long : minImageLen ≤ (enc.writeRgb8 w h px).size
  magic : (enc.writeRgb8 w h px).extract 0 4 = pngMagic
  info : ∃ n, dec.readInfo (enc.writeRgb8 w h px) = .ok ⟨w, h, n⟩
  frame : dec.nextFrame (enc.writeRgb8 w h px) = .ok ⟨.rgb, .eight, px⟩

/-- **An 8-bit RGB frame decodes to the colours of its pixels**: the 16-bit surface the frame
`px` is written into has, at every position, the colour the three-byte surface of `px` has
there. -/
theorem pixel565?_fillFrame_rgb {w h : Nat} (hfit : dimensionsFit w h = true) {px : ByteArray}
    (hsize : px.size = h * (w * 3)) (x y : Nat) :
    (⟨w, h, .rgb565Le, fillFrame 3 false px (Bytes.zeros (h * (w * 2))), none⟩ :
        Surface).pixel565? x y =
      (⟨w, h, .rgb888, px, none⟩ : Surface).pixel565? x y := by
  have hD : (⟨w, h, .rgb565Le, fillFrame 3 false px (Bytes.zeros (h * (w * 2))), none⟩ :
      Surface).Valid :=
    Surface.valid_of_packed hfit rfl (by rw [size_fillFrame, Bytes.size_zeros]; rfl)
  have hR : (⟨w, h, .rgb888, px, none⟩ : Surface).Valid := Surface.valid_of_packed hfit rfl hsize
  by_cases hin : x < w ∧ y < h
  · obtain ⟨hx, hy⟩ := hin
    rw [Surface.pixel565?_of_lt hD hx hy, Surface.pixel565?_of_lt hR hx hy]
    simp only [Surface.colorAt, Surface.stride, PixelFormat.bytesPerPixel]
    -- the pixel is number `y · w + x` of both the frame and the surface
    have hk : y * w + x < min ((Bytes.zeros (h * (w * 2))).size / 2) (px.size / 3) := by
      have hlt : y * w + x < h * w := by
        calc y * w + x < (y + 1) * w := by rw [Nat.succ_mul]; omega
          _ ≤ h * w := Nat.mul_le_mul_right _ hy
      rw [Bytes.size_zeros, hsize, show h * (w * 2) = h * w * 2 by ring,
        show h * (w * 3) = h * w * 3 by ring, Nat.mul_div_cancel _ (by decide),
        Nat.mul_div_cancel _ (by decide), Nat.min_self]
      exact hlt
    have h565 : y * (w * 2) + 2 * x = 2 * (y * w + x) := by ring
    have h888 : y * (w * 3) + 3 * x = (y * w + x) * 3 := by ring
    rw [h565, u16le_fillFrame hk, h888]
    rfl
  · have hout : w ≤ x ∨ h ≤ y := by omega
    rw [Surface.pixel565?_eq_none hD hout, Surface.pixel565?_eq_none hR hout]

/-- **Decoding a written image**: when the decoder reads the stream the encoder wrote from the
pixel bytes `px` back as the image written, the decoded surface has the image's size and,
everywhere, the colour of the three-byte surface of `px`. -/
theorem decode_of_readsBack {dec : Png.Decoder} {enc : Png.Encoder} {w h : Nat} {px : ByteArray}
    (hfit : dimensionsFit w h = true) (hsize : px.size = h * (w * 3))
    (hread : Png.ReadsBack dec enc w h px) :
    ∃ d, decode dec (enc.writeRgb8 w h px) = .ok d ∧ d.Valid ∧ d.width = w ∧ d.height = h ∧
      d.format = .rgb565Le ∧
      ∀ x y, d.pixel565? x y = (⟨w, h, .rgb888, px, none⟩ : Surface).pixel565? x y := by
  obtain ⟨n, hinfo⟩ := hread.info
  refine ⟨⟨w, h, .rgb565Le, fillFrame 3 false px (Bytes.zeros (h * (w * 2))), none⟩, ?_,
    Surface.valid_of_packed hfit rfl (by rw [size_fillFrame, Bytes.size_zeros]; rfl), rfl, rfl,
    rfl, pixel565?_fillFrame_rgb hfit hsize⟩
  rw [decode_eq, Container.detect_png hread.long hread.magic]
  dsimp only
  -- the frame is 8-bit RGB, so three bytes make each pixel
  rw [decodePngIn_system, hinfo]
  simp only [Except.mapError, bind, Except.bind, checkDimensions_of_fit hfit, fillPng,
    hread.frame, bne_self_eq_false, Bool.false_eq_true, if_false, rgb8Reader, pure, Except.pure]

/-! ## The image the encoder writes -/

theorem Surface.Valid.size_rgb888 {s : Surface} (hs : s.Valid) (hf : s.format = .rgb888) :
    s.data.size = s.height * (s.width * 3) := by
  rw [hs.size_data, Surface.stride, hf]
  rfl

/-- **The surface a PNG is written from is the conversion to three-byte RGB** at the requested
size: the conversion inside resolves the size once more, to the same size, and an RGB source
already at that size, written as it is, is what the conversion gives. -/
theorem Surface.forPng_eq_convert {s : Surface} (hs : s.Valid) (width height : Option Nat) :
    s.forPng width height = s.convert width height (some .rgb888) := by
  have hfix := targetSize_targetSize s.width s.height width height
  unfold forPng
  rw [validate_of_valid hs]
  simp only [bind, Except.bind]
  generalize hsize : targetSize s.width s.height width height = p at hfix
  obtain ⟨w, h⟩ := p
  dsimp only at hfix ⊢
  by_cases hborrow : (s.format == .rgb888 && s.width == w && s.height == h) = true
  · simp only [Bool.and_eq_true, beq_iff_eq] at hborrow
    obtain ⟨⟨hf, hw⟩, hh⟩ := hborrow
    rw [if_pos (by simp [hf, hw, hh]), convert_self hs (by rw [hsize, hw]) (by rw [hsize, hh])
      (by rw [Option.getD_some, hf])]
    rfl
  · rw [if_neg hborrow, convert_congr_targetSize (hfix.trans hsize.symm)]

/-! ## The round trip -/

theorem encodePng_bind_decode {dec : Png.Decoder} {enc : Png.Encoder} {s : Surface} (hs : s.Valid)
    (width height : Option Nat)
    (hread : ∀ rgb : Surface, s.forPng width height = .ok rgb →
      Png.ReadsBack dec enc rgb.width rgb.height rgb.data) :
    (encodePng enc s width height >>= decode dec) = s.convert width height (some .rgb565Le) := by
  unfold encodePng
  rw [Surface.forPng_eq_convert hs] at hread ⊢
  -- both conversions fail at the same check, or both succeed
  cases hfit : dimensionsFit (targetSize s.width s.height width height).1
      (targetSize s.width s.height width height).2
  · rw [Surface.convert_of_not_fit hs hfit, Surface.convert_of_not_fit hs hfit]
    rfl
  by_cases hp : s.format = .pal888
  · rw [Surface.convert_of_pal888 hs hp (by decide) hfit,
      Surface.convert_of_pal888 hs hp (by decide) hfit]
    rfl
  obtain ⟨rgb, hrgb⟩ : ∃ rgb, s.convert width height (some .rgb888) = .ok rgb :=
    (Surface.convert_ok_iff hs).mpr ⟨hfit, .inr ⟨hp, rfl⟩⟩
  obtain ⟨t, ht⟩ : ∃ t, s.convert width height (some .rgb565Le) = .ok t :=
    (Surface.convert_ok_iff hs).mpr ⟨hfit, .inr ⟨hp, rfl⟩⟩
  obtain ⟨hw, hh, hf, hv, hpix⟩ := Surface.convert_ok hs hrgb
  obtain ⟨hw', hh', hf', hv', hpix'⟩ := Surface.convert_ok hs ht
  rw [Option.getD_some] at hf hf'
  obtain ⟨d, hdec, hd, hdw, hdh, hdf, hdpix⟩ :=
    decode_of_readsBack hv.dimensionsFit (hv.size_rgb888 hf) (hread rgb hrgb)
  rw [hrgb, ht]
  simp only [bind, Except.bind, pure, Except.pure]
  rw [hdec]
  refine congrArg Except.ok ?_
  have hrgb_eq : (⟨rgb.width, rgb.height, .rgb888, rgb.data, none⟩ : Surface) = rgb := by
    have hpal : rgb.palette = none := hv.palette_eq_none (by rw [hf]; rfl)
    cases rgb
    dsimp only at hf hpal ⊢
    rw [hf, hpal]
  -- the decoded surface and the 16-bit conversion have one size and one colour everywhere:
  -- both sample the source at the same pixel
  apply Surface.eq_of_pixel565? hd hv' (by rw [hdw, hw, hw']) (by rw [hdh, hh, hh'])
    (by rw [hdf, hf']) (.inl hdf)
  intro x y
  rw [hdpix, hrgb_eq]
  by_cases hin : x < rgb.width ∧ y < rgb.height
  · rw [hpix x y hin.1 hin.2, hpix' x y (by rw [hw', ← hw]; exact hin.1)
      (by rw [hh', ← hh]; exact hin.2), hw', hh', ← hw, ← hh]
  · have hout : rgb.width ≤ x ∨ rgb.height ≤ y := by omega
    rw [Surface.pixel565?_eq_none hv hout,
      Surface.pixel565?_eq_none hv' (by rw [hw', hh', ← hw, ← hh]; exact hout)]

/-- **Writing a PNG and reading it back is converting to 16-bit little-endian**, for every valid
surface and every requested size, given that the codec reads the image it writes back as it
was written: both succeed with the same surface or both fail with the same error. At the
surface's own size every readable surface comes back with its colours, and a 16-bit
little-endian surface comes back as it is. -/
theorem png_round_trip_eq_convert (dec : Png.Decoder) (enc : Png.Encoder) (s : Surface)
    (hs : s.Valid) (width height : Option Nat)
    (hread : ∀ rgb : Surface, s.forPng width height = .ok rgb →
      Png.ReadsBack dec enc rgb.width rgb.height rgb.data) :
    (encodePng enc s width height >>= decode dec) = s.convert width height (some .rgb565Le) ∧
    (s.format ≠ .pal888 → targetSize s.width s.height width height = (s.width, s.height) →
      ∃ t, (encodePng enc s width height >>= decode dec) = .ok t ∧ t.Valid ∧
        t.format = .rgb565Le ∧ t.width = s.width ∧ t.height = s.height ∧
        ∀ x y, t.pixel565? x y = s.pixel565? x y) ∧
    (s.format = .rgb565Le → targetSize s.width s.height width height = (s.width, s.height) →
      (encodePng enc s width height >>= decode dec) = .ok s) := by
  have hround := encodePng_bind_decode hs width height hread
  refine ⟨hround, fun hp hsize => ?_, fun hf hsize => ?_⟩
  · -- at the surface's own size the conversion is a re-encoding, which keeps every colour
    obtain ⟨t, ht, htv, htw, hth, htf, htpix⟩ : ∃ t, s.convert none none (some .rgb565Le) = .ok t ∧
        t.Valid ∧ t.width = s.width ∧ t.height = s.height ∧ t.format = .rgb565Le ∧
        ∀ x y, t.pixel565? x y = s.pixel565? x y :=
      Surface.convert_packed_keeps_colors hs hp rfl
    have hsame : targetSize s.width s.height none none = targetSize s.width s.height width height :=
      by rw [hsize]; rfl
    rw [← Surface.convert_congr_targetSize hsame] at hround
    exact ⟨t, hround.trans ht, htv, htf, htw, hth, htpix⟩
  · rw [hround]
    exact Surface.convert_self hs (by rw [hsize]) (by rw [hsize]) (by rw [Option.getD_some, hf])

/-- A single 16-bit pixel survives the round trip through the model of the codec. -/
theorem png_round_trip_eq_convert_one_pixel :
    (encodePng Png.modelEncoder ⟨1, 1, .rgb565Le, ⟨#[52, 18]⟩, none⟩ none none >>=
        decode Png.modelDecoder) =
      .ok ⟨1, 1, .rgb565Le, ⟨#[52, 18]⟩, none⟩ := by
  have hs : (⟨1, 1, .rgb565Le, ⟨#[52, 18]⟩, none⟩ : Surface).Valid := by decide
  refine (png_round_trip_eq_convert Png.modelDecoder Png.modelEncoder _ hs none none ?_).2.2 rfl rfl
  intro rgb hrgb
  -- the image written is the pixel converted to three-byte RGB
  have hconv : (Surface.forPng ⟨1, 1, .rgb565Le, ⟨#[52, 18]⟩, none⟩ none none).map
      (fun rgb => (rgb.width, rgb.height, rgb.data)) = .ok (1, 1, ⟨#[16, 68, 160]⟩) := by
    decide +kernel
  rw [hrgb] at hconv
  obtain ⟨hw, hh, hd⟩ : rgb.width = 1 ∧ rgb.height = 1 ∧ rgb.data = ⟨#[16, 68, 160]⟩ := by
    simpa [Except.map] using hconv
  rw [hw, hh, hd]
  exact ⟨by decide +kernel, by decide +kernel, ⟨3, by decide +kernel⟩, by decide +kernel⟩

end Raster
