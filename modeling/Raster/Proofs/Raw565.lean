import Raster.Codec.Encode
import Raster.Png.Model
import Raster.Proofs.Convert

set_option autoImplicit false

/-!
# Decoding, and the raw565 container

Decoding runs on the general heap, which never refuses, so what `decode` does is decided by the
container checks and by the checks of the chosen reader alone. This file states both readers
once as plain `Except` computations (`Raw565.decodeIn_system`, `decodePngIn_system`), and reads
everything else off those two equations. The PNG reader takes its decoder as an argument and
assumes nothing of it: whatever the decoder does, the reader fails only with PNG failures or an
invalid surface (`fillPng_error`), never with a length.

The main results:

* `decode_accepts_exactly_raw565`: inputs under 16 bytes, and only they, are too short; beyond
  that, bytes that do not start like a PNG decode exactly when their length is the one the 4-byte
  header promises and both sides are at most 4096, and then to the RGB565 little-endian surface
  of that size whose pixel bytes are the rest of the input. A wrong length is an unknown format,
  an oversized side an invalid surface.
* `raw565_round_trip`: writing a readable surface as raw565 and decoding it gives its RGB565
  little-endian conversion, except that surfaces of at most five pixels make containers under the
  16-byte minimum; and bytes that decode as raw565 are written back to the same bytes.
-/

namespace Raster

/-! ## Running allocating computations -/

/-- A computation after an allocating one sees the first one's result and log. -/
theorem run_bind_ok {α β : Type} (x : ExceptT Error Alloc α) (f : α → ExceptT Error Alloc β)
    (log : List Nat) :
    ((x >>= f).run.run log).1 =
      match x.run.run log with
      | (.ok a, log') => ((f a).run.run log').1
      | (.error e, _) => .error e := by
  simp only [ExceptT.run_bind, StateT.run_bind]
  obtain ⟨r, log'⟩ := x.run.run log
  cases r <;> rfl

/-- A check that cannot allocate runs before the rest without touching the log. -/
theorem run_liftChecked_bind {α β : Type} (r : Except Error α) (f : α → ExceptT Error Alloc β)
    (log : List Nat) :
    ((liftChecked r >>= f).run.run log).1 =
      match r with
      | .ok a => ((f a).run.run log).1
      | .error e => .error e := by
  cases r <;> rfl

theorem dimensionsFit_of_checkDimensions {w h : Nat} {u : Unit}
    (hd : checkDimensions w h = .ok u) : dimensionsFit w h = true := by
  unfold checkDimensions at hd
  split at hd
  · assumption
  · cases hd

theorem checkDimensions_of_fit {w h : Nat} (hfit : dimensionsFit w h = true) :
    checkDimensions w h = .ok () := by
  rw [checkDimensions, if_pos hfit]

/-- The only fault of the dimension check is an invalid surface of those dimensions. -/
theorem checkDimensions_error {w h : Nat} {e : Error} (hd : checkDimensions w h = .error e) :
    e = .invalidSurface (.dimensions w h) := by
  unfold checkDimensions at hd
  split at hd
  · cases hd
  · exact (Except.error.inj hd).symm

theorem dimensionsFit_iff {w h : Nat} :
    dimensionsFit w h = true ↔ 1 ≤ w ∧ w ≤ maxDimension ∧ 1 ≤ h ∧ h ≤ maxDimension := by
  simp only [dimensionsFit, Bool.and_eq_true, decide_eq_true_eq, and_assoc]

/-! ## 16-bit fields -/

namespace Bytes

/-- Buffers compare equal exactly when they are equal. -/
theorem beq_eq_true_iff {a b : ByteArray} : (a == b) = true ↔ a = b := by
  show (a.data == b.data) = true ↔ a = b
  rw [beq_iff_eq, ByteArray.ext_iff]

/-- A 16-bit field written after `a` reads back at `a.size`, whatever follows it. -/
theorem u16le_append_ofU16le (a rest : ByteArray) {v : Nat} (hv : v < 65536) :
    u16le (a ++ ofU16le v ++ rest) a.size = v := by
  have hsize : (ofU16le v).size = 2 := rfl
  have h0 := byteAt_append_right a (ofU16le v ++ rest) 0
  rw [Nat.add_zero] at h0
  unfold u16le get
  rw [ByteArray.append_assoc, h0, byteAt_append_right, byteAt_append_left _ _ (by omega),
    byteAt_append_left _ _ (by omega)]
  simp only [ofU16le, byteAt_mk, List.getD_cons_zero, List.getD_cons_succ, low,
    Nat.toUInt8_eq, UInt8.toNat_ofNat', Nat.reducePow]
  omega

/-- Writing the 16-bit field read at `i` gives the two bytes it was read from. -/
theorem ofU16le_u16le (b : ByteArray) {i : Nat} (h : i + 2 ≤ b.size) :
    ofU16le (u16le b i) = b.extract i (i + 2) := by
  have h0 := get_lt b i
  have h1 := get_lt b (i + 1)
  apply ext_byteAt (by rw [ByteArray.size_extract]; show 2 = _; omega)
  intro j hj
  have hj2 : j = 0 ∨ j = 1 := by
    have : (ofU16le (u16le b i)).size = 2 := rfl
    omega
  rw [byteAt_extract b (by omega) (by omega)]
  apply UInt8.toNat_inj.mp
  rcases hj2 with rfl | rfl
  · simp [ofU16le, u16le, get, low] at h0 h1 ⊢
  · simp [ofU16le, u16le, get, low] at h0 h1 ⊢
    omega

end Bytes

/-! ## The raw565 reader -/

namespace Raw565

theorem header?_of_le {b : ByteArray} (h : 4 ≤ b.size) :
    header? b = some (Bytes.u16le b 0, Bytes.u16le b 2) := by
  simp [header?, headerLen, Nat.not_lt.mpr h]

/-- **The raw565 reader on the general heap**: the length must be what the header promises, the
sides must fit, and the surface is the rest of the input. -/
theorem decodeIn_system {b : ByteArray} (h4 : 4 ≤ b.size) (log : List Nat) :
    ((decodeIn .system none b).run.run log).1 =
      if expectedLen (Bytes.u16le b 0) (Bytes.u16le b 2) = b.size then
        if dimensionsFit (Bytes.u16le b 0) (Bytes.u16le b 2) then
          .ok ⟨Bytes.u16le b 0, Bytes.u16le b 2, .rgb565Le, b.extract headerLen b.size, none⟩
        else .error (.invalidSurface (.dimensions (Bytes.u16le b 0) (Bytes.u16le b 2)))
      else .error .unrecognizedFormat := by
  unfold decodeIn
  rw [header?_of_le h4]
  by_cases hl : expectedLen (Bytes.u16le b 0) (Bytes.u16le b 2) = b.size
  · simp only [hl, bne_self_eq_false, Bool.false_eq_true, if_false, if_true]
    rw [run_bind_ok]
    -- the general heap answers exactly when the sides fit
    have hc := Surface.create_system (Bytes.u16le b 0) (Bytes.u16le b 2) .rgb565Le log
    by_cases hfit : dimensionsFit (Bytes.u16le b 0) (Bytes.u16le b 2) = true
    · rw [if_pos hfit] at hc ⊢
      generalize (Surface.create .system (Bytes.u16le b 0) (Bytes.u16le b 2) .rgb565Le).run.run log
        = p at hc ⊢
      obtain ⟨r, log'⟩ := p
      dsimp only at hc
      subst hc
      rfl
    · rw [if_neg hfit] at hc ⊢
      generalize (Surface.create .system (Bytes.u16le b 0) (Bytes.u16le b 2) .rgb565Le).run.run log
        = p at hc ⊢
      obtain ⟨r, log'⟩ := p
      dsimp only at hc
      subst hc
      rfl
  · simp only [hl, if_false, bne_iff_ne, ne_eq, not_false_eq_true, if_true]
    rfl

end Raw565

/-! ## What decoding does -/

/-- Decoding recognises the container, then runs its reader on the general heap. -/
theorem decode_eq (dec : Png.Decoder) (b : ByteArray) :
    decode dec b =
      match Container.detect b with
      | .error e => .error e
      | .ok .png => ((decodePngIn dec .system none b).run.run []).1
      | .ok .raw565 => ((Raw565.decodeIn .system none b).run.run []).1 := by
  unfold decode DecodeRequest.run Surface.runAlloc liftChecked
  cases Container.detect b with
  | error e => rfl
  | ok c => cases c <;> rfl

/-- **The PNG reader on the general heap**: the decoder's report before the image data, the
dimension check, and the frame written into a zeroed surface of the image's size. -/
theorem decodePngIn_system (dec : Png.Decoder) (b : ByteArray) (log : List Nat) :
    ((decodePngIn dec .system none b).run.run log).1 =
      ((dec.readInfo b).mapError (Error.png ∘ PngFailure.decoder) >>= fun info =>
        checkDimensions info.width info.height >>= fun _ =>
        fillPng dec b ⟨info.width, info.height, .rgb565Le,
          Bytes.zeros (info.height * (info.width * 2)), none⟩) := by
  unfold decodePngIn
  conv_rhs => simp only [bind, Except.bind]
  rw [run_liftChecked_bind]
  cases (dec.readInfo b).mapError (Error.png ∘ PngFailure.decoder) with
  | error e => rfl
  | ok info =>
    dsimp only
    rw [run_liftChecked_bind]
    cases hd : checkDimensions info.width info.height with
    | error e => rfl
    | ok u =>
      dsimp only
      rw [run_bind_ok]
      -- the general heap hands over a zeroed buffer of the image's size
      have hc := Surface.create_system info.width info.height .rgb565Le log
      rw [if_pos (dimensionsFit_of_checkDimensions hd)] at hc
      generalize (Surface.create .system info.width info.height .rgb565Le).run.run log = p at hc ⊢
      obtain ⟨r, log'⟩ := p
      dsimp only at hc
      subst hc
      rfl

/-- A frame's colour type is refused only when it is palette indices. -/
theorem rgb8Reader_error {c : Png.ColorType} {e : Error} (h : rgb8Reader c = .error e) :
    e = .png .notExpanded := by
  cases c <;> simp [rgb8Reader] at h
  exact h.symm

/-- **Filling a surface from a frame fails only with a PNG failure**: the decoder's, a depth
other than 8 bits, or palette indices. -/
theorem fillPng_error {dec : Png.Decoder} {b : ByteArray} {s : Surface} {e : Error}
    (h : fillPng dec b s = .error e) : ∃ f, e = .png f := by
  unfold fillPng at h
  cases hf : dec.nextFrame b with
  | error m => exact ⟨.decoder m, by simpa [hf, Except.mapError, bind, Except.bind] using h.symm⟩
  | ok frame =>
    simp only [hf, Except.mapError, bind, Except.bind] at h
    split at h
    · exact ⟨_, (Except.error.inj h).symm⟩
    · cases hr : rgb8Reader frame.color with
      | error e' =>
        simp only [hr, Except.error.injEq] at h
        exact ⟨_, h ▸ rgb8Reader_error hr⟩
      | ok r => simp [hr, pure, Except.pure] at h

/-- **What filling a surface from the decoder's frame gives**: the frame is 8 bits deep, its
colour type is read with `channels` bytes a pixel, and the frame is written into the surface's
pixel bytes. -/
theorem fillPng_eq_ok {dec : Png.Decoder} {b : ByteArray} {s t : Surface}
    (h : fillPng dec b s = .ok t) :
    ∃ frame channels grey, dec.nextFrame b = .ok frame ∧ frame.depth = .eight ∧
      rgb8Reader frame.color = .ok (channels, grey) ∧
      t = { s with data := fillFrame channels grey frame.bytes s.data } := by
  unfold fillPng at h
  cases hf : dec.nextFrame b with
  | error m => simp [hf, Except.mapError, bind, Except.bind] at h
  | ok frame =>
    simp only [hf, Except.mapError, bind, Except.bind] at h
    split at h
    · cases h
    · rename_i hdepth
      cases hc : rgb8Reader frame.color with
      | error e => simp [hc] at h
      | ok cg =>
        obtain ⟨channels, grey⟩ := cg
        simp only [hc, pure, Except.pure, Except.ok.injEq] at h
        exact ⟨frame, channels, grey, rfl, by simpa using hdepth, hc, h.symm⟩

/-- **A PNG is never too short**: the PNG reader reports the decoder's faults and its own as PNG
failures, and an image of the wrong size as an invalid surface. -/
theorem decodePngIn_ne_inputTooShort (dec : Png.Decoder) (b : ByteArray) (log : List Nat)
    (n : Nat) : ((decodePngIn dec .system none b).run.run log).1 ≠ .error (.inputTooShort n) := by
  rw [decodePngIn_system]
  cases dec.readInfo b with
  | error m => simp [Except.mapError, bind, Except.bind]
  | ok info =>
    simp only [Except.mapError, bind, Except.bind]
    cases hd : checkDimensions info.width info.height with
    | error e =>
      rw [checkDimensions_error hd]
      simp
    | ok u =>
      cases hf : fillPng dec b ⟨info.width, info.height, .rgb565Le,
          Bytes.zeros (info.height * (info.width * 2)), none⟩ with
      | error e =>
        obtain ⟨f, rfl⟩ := fillPng_error hf
        simp
      | ok t => simp

/-- Bytes of the minimum length that start with the magic are a PNG. -/
theorem Container.detect_png {b : ByteArray} (hlen : minImageLen ≤ b.size)
    (hmagic : b.extract 0 4 = pngMagic) : Container.detect b = .ok .png := by
  rw [Container.detect, if_neg (by omega), if_pos (Bytes.beq_eq_true_iff.mpr hmagic)]

theorem decode_of_short {dec : Png.Decoder} {b : ByteArray} (h : b.size < minImageLen) :
    decode dec b = .error (.inputTooShort b.size) := by
  rw [decode_eq, Container.detect, if_pos h]

/-- Sides whose product is at least six are both positive. -/
theorem pos_of_six_le_mul {w h : Nat} (hwh : 6 ≤ w * h) : 1 ≤ w ∧ 1 ≤ h := by
  constructor
  · exact Nat.pos_of_ne_zero fun hw => by simp [hw] at hwh
  · exact Nat.pos_of_ne_zero fun hh => by simp [hh] at hwh

/-- **Decoding bytes that do not start like a PNG.** The header's sides are positive once the
input has the minimum length, so only their upper bound is left to check. -/
theorem decode_of_not_png {dec : Png.Decoder} {b : ByteArray} (hlen : minImageLen ≤ b.size)
    (hmagic : b.extract 0 4 ≠ pngMagic) :
    decode dec b =
      if b.size = 4 + 2 * (Bytes.u16le b 0 * Bytes.u16le b 2) then
        if Bytes.u16le b 0 ≤ maxDimension ∧ Bytes.u16le b 2 ≤ maxDimension then
          .ok ⟨Bytes.u16le b 0, Bytes.u16le b 2, .rgb565Le, b.extract 4 b.size, none⟩
        else .error (.invalidSurface (.dimensions (Bytes.u16le b 0) (Bytes.u16le b 2)))
      else .error .unrecognizedFormat := by
  have h16 : 16 ≤ b.size := hlen
  have h4 : 4 ≤ b.size := by omega
  have hexpected : Raw565.expectedLen (Bytes.u16le b 0) (Bytes.u16le b 2) =
      4 + 2 * (Bytes.u16le b 0 * Bytes.u16le b 2) := by
    simp only [Raw565.expectedLen, Raw565.headerLen]; ring
  have hfits : Raw565.fits b = true ↔ 4 + 2 * (Bytes.u16le b 0 * Bytes.u16le b 2) = b.size := by
    simp only [Raw565.fits, Raw565.header?_of_le h4, hexpected, beq_iff_eq]
  have hdetect : Container.detect b =
      if 4 + 2 * (Bytes.u16le b 0 * Bytes.u16le b 2) = b.size then .ok .raw565
      else .error .unrecognizedFormat := by
    simp only [Container.detect, Nat.not_lt.mpr hlen, if_false, Bytes.beq_eq_true_iff, hmagic,
      hfits]
  rw [decode_eq, hdetect]
  by_cases hl : b.size = 4 + 2 * (Bytes.u16le b 0 * Bytes.u16le b 2)
  · rw [if_pos hl.symm, if_pos hl, Raw565.decodeIn_system h4, hexpected, if_pos hl.symm]
    -- at the minimum length the header promises at least six pixels
    have hpos := pos_of_six_le_mul (show 6 ≤ Bytes.u16le b 0 * Bytes.u16le b 2 by omega)
    simp only [dimensionsFit_iff, hpos.1, hpos.2, true_and, Raw565.headerLen]
  · rw [if_neg (Ne.symm hl), if_neg hl]

/-- **Decoding accepts exactly the raw565 containers outside PNG.** Under 16 bytes, and only
there, the input is too short. From 16 bytes on, bytes that do not start with the PNG magic
decode exactly when their length is `4 + 2 · w · h` for the header's little-endian sides `w` and
`h`, both at most 4096, and then to the RGB565 little-endian `w × h` surface whose pixel bytes
are the input after the header; a wrong length is an unknown format, and the right length with
an oversized side an invalid surface. -/
theorem decode_accepts_exactly_raw565 (dec : Png.Decoder) (b : ByteArray) :
    (decode dec b = .error (.inputTooShort b.size) ↔ b.size < 16) ∧
    (16 ≤ b.size → b.extract 0 4 ≠ pngMagic →
      (∀ t, decode dec b = .ok t ↔
        b.size = 4 + 2 * (Bytes.u16le b 0 * Bytes.u16le b 2) ∧
          Bytes.u16le b 0 ≤ 4096 ∧ Bytes.u16le b 2 ≤ 4096 ∧
          t = ⟨Bytes.u16le b 0, Bytes.u16le b 2, .rgb565Le, b.extract 4 b.size, none⟩) ∧
      (b.size ≠ 4 + 2 * (Bytes.u16le b 0 * Bytes.u16le b 2) →
        decode dec b = .error .unrecognizedFormat) ∧
      (b.size = 4 + 2 * (Bytes.u16le b 0 * Bytes.u16le b 2) →
        (4096 < Bytes.u16le b 0 ∨ 4096 < Bytes.u16le b 2) →
        decode dec b =
          .error (.invalidSurface (.dimensions (Bytes.u16le b 0) (Bytes.u16le b 2))))) := by
  refine ⟨⟨fun h => ?_, decode_of_short⟩, fun hlen hmagic => ?_⟩
  · -- from 16 bytes on, neither reader reports a short input
    by_contra hlong
    have hlen : minImageLen ≤ b.size := by unfold minImageLen; omega
    by_cases hpng : b.extract 0 4 = pngMagic
    · have hdetect : Container.detect b = .ok .png := by
        simp only [Container.detect, Nat.not_lt.mpr hlen, if_false, hpng, Bytes.beq_eq_true_iff,
          if_true]
      rw [decode_eq, hdetect] at h
      exact decodePngIn_ne_inputTooShort dec b [] b.size h
    · rw [decode_of_not_png hlen hpng] at h
      split at h
      · split at h <;> cases h
      · cases h
  · have hlen' : minImageLen ≤ b.size := hlen
    rw [decode_of_not_png hlen' hmagic, show maxDimension = 4096 from rfl]
    refine ⟨fun t => ?_, fun hl => by rw [if_neg hl], fun hl hbig => ?_⟩
    · by_cases hl : b.size = 4 + 2 * (Bytes.u16le b 0 * Bytes.u16le b 2)
      · by_cases hfit : Bytes.u16le b 0 ≤ 4096 ∧ Bytes.u16le b 2 ≤ 4096
        · rw [if_pos hl, if_pos hfit]
          simp only [Except.ok.injEq, hl, hfit, true_and]
          exact eq_comm
        · rw [if_pos hl, if_neg hfit]
          simp only [reduceCtorEq, false_iff]
          exact fun h => hfit ⟨h.2.1, h.2.2.1⟩
      · rw [if_neg hl]
        simp [hl]
    · rw [if_pos hl, if_neg (by omega)]

/-- A container of a 3 × 2 image decodes to its pixels. -/
theorem decode_accepts_exactly_raw565_three_by_two :
    16 ≤ (⟨#[3, 0, 2, 0, 1, 2, 3, 4, 5, 6, 7, 8, 9, 10, 11, 12]⟩ : ByteArray).size ∧
      (⟨#[3, 0, 2, 0, 1, 2, 3, 4, 5, 6, 7, 8, 9, 10, 11, 12]⟩ : ByteArray).extract 0 4 ≠ pngMagic ∧
      decode Png.modelDecoder ⟨#[3, 0, 2, 0, 1, 2, 3, 4, 5, 6, 7, 8, 9, 10, 11, 12]⟩ =
        .ok ⟨3, 2, .rgb565Le, ⟨#[1, 2, 3, 4, 5, 6, 7, 8, 9, 10, 11, 12]⟩, none⟩ := by
  have hlen : 16 ≤ (⟨#[3, 0, 2, 0, 1, 2, 3, 4, 5, 6, 7, 8, 9, 10, 11, 12]⟩ : ByteArray).size := by
    decide
  have hmagic :
      (⟨#[3, 0, 2, 0, 1, 2, 3, 4, 5, 6, 7, 8, 9, 10, 11, 12]⟩ : ByteArray).extract 0 4 ≠
        pngMagic := by decide
  refine ⟨hlen, hmagic, ?_⟩
  apply (((decode_accepts_exactly_raw565 _ _).2 hlen hmagic).1 _).mpr
  exact ⟨by decide, by decide, by decide, rfl⟩

/-! ## The round trip -/

/-- An RGB565 little-endian surface is written as its sides and its pixel bytes. -/
theorem encodeRaw_of_rgb565Le {t : Surface} (ht : t.Valid) (hf : t.format = .rgb565Le) :
    encodeRaw t = .ok (Bytes.ofU16le t.width ++ Bytes.ofU16le t.height ++ t.data) := by
  simp [encodeRaw, Raw565.encode, Surface.validate_of_valid ht, hf, bind, Except.bind, pure,
    Except.pure]

/-- **Writing a readable surface as raw565** writes its RGB565 little-endian conversion, which
keeps its size; a surface already in that format is its own conversion. -/
theorem encodeRaw_of_valid {s : Surface} (hs : s.Valid) (hread : s.format ≠ .pal888) :
    ∃ t, s.convert none none (some .rgb565Le) = .ok t ∧ t.Valid ∧ t.width = s.width ∧
      t.height = s.height ∧ t.format = .rgb565Le ∧
      encodeRaw s = .ok (Bytes.ofU16le t.width ++ Bytes.ofU16le t.height ++ t.data) := by
  obtain ⟨t, hconv, ht, hw, hh, hf, -⟩ :=
    Surface.convert_packed_keeps_colors hs hread (f := .rgb565Le) rfl
  refine ⟨t, hconv, ht, hw, hh, hf, ?_⟩
  by_cases h565 : s.format = .rgb565Le
  · -- the writer skips the conversion, which would give the surface back anyway
    have hself : s.convert none none (some .rgb565Le) = .ok s :=
      Surface.convert_self hs rfl rfl (by rw [h565]; rfl)
    rw [hconv, Except.ok.injEq] at hself
    subst hself
    exact encodeRaw_of_rgb565Le hs h565
  · simp [encodeRaw, Raw565.encode, Surface.validate_of_valid hs, h565, hconv, bind, Except.bind,
      pure, Except.pure]

/-- Bytes whose second byte is not the PNG magic's do not start like a PNG. -/
theorem ne_pngMagic_of_byteAt_one {b : ByteArray} (h4 : 4 ≤ b.size)
    (h1 : (Bytes.byteAt b 1).toNat < 80) : b.extract 0 4 ≠ pngMagic := by
  intro hmagic
  have hread := congrArg (Bytes.byteAt · 1) hmagic
  simp only [Bytes.byteAt_extract b (show 0 + 1 < 4 by decide) h4] at hread
  rw [hread] at h1
  exact absurd h1 (by decide)

/-- **A written header reads back as the sides**, which fit its 16-bit fields. -/
theorem Raw565.header_written {t : Surface} (ht : t.Valid) :
    Bytes.u16le (Bytes.ofU16le t.width ++ Bytes.ofU16le t.height ++ t.data) 0 = t.width ∧
      Bytes.u16le (Bytes.ofU16le t.width ++ Bytes.ofU16le t.height ++ t.data) 2 = t.height := by
  have hbounds := dimensionsFit_iff.mp ht.dimensionsFit
  simp only [maxDimension] at hbounds
  constructor
  · have h := Bytes.u16le_append_ofU16le .empty (Bytes.ofU16le t.height ++ t.data)
      (show t.width < 65536 by omega)
    rwa [ByteArray.empty_append, ← ByteArray.append_assoc] at h
  · exact Bytes.u16le_append_ofU16le (Bytes.ofU16le t.width) t.data (show t.height < 65536 by omega)

/-- **Decoding what the writer wrote**: an RGB565 little-endian surface comes back as itself
once it has six pixels, and its container is too short below that. -/
theorem decode_written {dec : Png.Decoder} {t : Surface} (ht : t.Valid)
    (hf : t.format = .rgb565Le) :
    decode dec (Bytes.ofU16le t.width ++ Bytes.ofU16le t.height ++ t.data) =
      if 6 ≤ t.width * t.height then .ok t
      else .error (.inputTooShort (4 + 2 * (t.width * t.height))) := by
  have hbounds := dimensionsFit_iff.mp ht.dimensionsFit
  simp only [maxDimension] at hbounds
  have hhead : (Bytes.ofU16le t.width ++ Bytes.ofU16le t.height).size = 4 := rfl
  have hsize : (Bytes.ofU16le t.width ++ Bytes.ofU16le t.height ++ t.data).size =
      4 + 2 * (t.width * t.height) := by
    rw [ByteArray.size_append, hhead, ht.size_data, Surface.stride, hf]
    simp only [PixelFormat.bytesPerPixel]
    ring
  obtain ⟨hw, hh⟩ := Raw565.header_written ht
  split
  · rename_i h6
    have hlen : minImageLen ≤ (Bytes.ofU16le t.width ++ Bytes.ofU16le t.height ++ t.data).size := by
      rw [hsize]; unfold minImageLen; omega
    -- the second byte is the width's high byte, at most 16
    have hmagic := ne_pngMagic_of_byteAt_one (by rw [hsize]; omega) (by
      rw [ByteArray.append_assoc,
        Bytes.byteAt_append_left _ _ (Nat.lt_of_lt_of_eq Nat.one_lt_two rfl)]
      simp only [Bytes.ofU16le, Bytes.byteAt_mk, List.getD_cons_succ, List.getD_cons_zero,
        Bytes.low, Nat.toUInt8_eq, UInt8.toNat_ofNat', Nat.reducePow]
      omega)
    rw [decode_of_not_png hlen hmagic, hw, hh, if_pos hsize,
      if_pos ⟨hbounds.2.1, hbounds.2.2.2⟩, ByteArray.extract_append_eq_right hhead.symm
        (by rw [ByteArray.size_append, hhead])]
    rw [← hf, ← ht.palette_eq_none (by rw [hf]; rfl)]
  · rename_i h6
    rw [decode_of_short (by rw [hsize]; unfold minImageLen; omega), hsize]

/-- **Raw565 bytes are written back as they were read.** -/
theorem encodeRaw_of_decode {dec : Png.Decoder} {b : ByteArray} {t : Surface}
    (hmagic : b.extract 0 4 ≠ pngMagic) (h : decode dec b = .ok t) : encodeRaw t = .ok b := by
  have hlen : minImageLen ≤ b.size := by
    by_contra hshort
    rw [decode_of_short (Nat.lt_of_not_le hshort)] at h
    cases h
  have h16 : 16 ≤ b.size := hlen
  rw [decode_of_not_png hlen hmagic] at h
  split at h
  · rename_i hl
    split at h
    · rename_i hfit
      cases h
      have hpos := pos_of_six_le_mul (show 6 ≤ Bytes.u16le b 0 * Bytes.u16le b 2 by omega)
      have hdata : (b.extract 4 b.size).size = Bytes.u16le b 2 * (Bytes.u16le b 0 * 2) := by
        rw [ByteArray.size_extract, Nat.min_self, hl]
        ring_nf
        omega
      have hvalid : (⟨Bytes.u16le b 0, Bytes.u16le b 2, .rgb565Le, b.extract 4 b.size, none⟩ :
          Surface).Valid :=
        Surface.valid_of_packed (dimensionsFit_iff.mpr ⟨hpos.1, hfit.1, hpos.2, hfit.2⟩) rfl hdata
      rw [encodeRaw_of_rgb565Le hvalid rfl]
      -- the header is the first four bytes again, and the pixels the rest
      simp only [Except.ok.injEq]
      rw [Bytes.ofU16le_u16le b (by omega),
        Bytes.ofU16le_u16le b (by omega),
        ByteArray.extract_append_extract, show min 0 (0 + 2) = 0 from rfl,
        show max (0 + 2) (2 + 2) = 4 from rfl, ByteArray.extract_append_extract,
        show min 0 4 = 0 from rfl, Nat.max_eq_right (by omega),
        ByteArray.extract_zero_size]
    · cases h
  · cases h

/-- **The raw565 codec is inverse in both directions.** A readable surface of at least six pixels
is written and decoded to its RGB565 little-endian conversion, so an RGB565 little-endian
surface comes back as itself; one of at most five pixels gives a container under the 16-byte
minimum, which decoding refuses as too short. Bytes that do not start like a PNG and decode are
written back to the same bytes. -/
theorem raw565_round_trip (dec : Png.Decoder) :
    (∀ s : Surface, s.Valid → s.format ≠ .pal888 → 6 ≤ s.width * s.height →
      ∃ b t, encodeRaw s = .ok b ∧ s.convert none none (some .rgb565Le) = .ok t ∧
        decode dec b = .ok t) ∧
    (∀ s : Surface, s.Valid → s.format = .rgb565Le → 6 ≤ s.width * s.height →
      ∃ b, encodeRaw s = .ok b ∧ decode dec b = .ok s) ∧
    (∀ s : Surface, s.Valid → s.format ≠ .pal888 → s.width * s.height ≤ 5 →
      ∃ b, encodeRaw s = .ok b ∧
        decode dec b = .error (.inputTooShort (4 + 2 * (s.width * s.height)))) ∧
    (∀ (b : ByteArray) (t : Surface), b.extract 0 4 ≠ pngMagic → decode dec b = .ok t →
      encodeRaw t = .ok b) := by
  refine ⟨fun s hs hread h6 => ?_, fun s hs h565 h6 => ?_, fun s hs hread h5 => ?_,
    fun _ _ hmagic h => encodeRaw_of_decode hmagic h⟩
  · obtain ⟨t, hconv, ht, hw, hh, hf, henc⟩ := encodeRaw_of_valid hs hread
    refine ⟨_, t, henc, hconv, ?_⟩
    rw [decode_written ht hf, hw, hh, if_pos h6]
  · obtain ⟨t, hconv, ht, hw, hh, hf, henc⟩ := encodeRaw_of_valid hs (by rw [h565]; decide)
    -- converting to the surface's own format gives the surface
    have hself : s.convert none none (some .rgb565Le) = .ok s :=
      Surface.convert_self hs rfl rfl (by rw [h565]; rfl)
    rw [hconv, Except.ok.injEq] at hself
    subst hself
    exact ⟨_, henc, by rw [decode_written ht hf, if_pos h6]⟩
  · obtain ⟨t, -, ht, hw, hh, hf, henc⟩ := encodeRaw_of_valid hs hread
    refine ⟨_, henc, ?_⟩
    rw [decode_written ht hf, hw, hh, if_neg (by omega)]

/-- A big-endian 3 × 2 surface comes back little-endian, a single three-byte pixel is too
short to decode, and a 3 × 2 container is written back as it was read. -/
theorem raw565_round_trip_small :
    (∃ b t, encodeRaw ⟨3, 2, .rgb565Be, ⟨#[1, 2, 3, 4, 5, 6, 7, 8, 9, 10, 11, 12]⟩, none⟩ = .ok b ∧
      Surface.convert ⟨3, 2, .rgb565Be, ⟨#[1, 2, 3, 4, 5, 6, 7, 8, 9, 10, 11, 12]⟩, none⟩
        none none (some .rgb565Le) = .ok t ∧ decode Png.modelDecoder b = .ok t) ∧
    (∃ b, encodeRaw ⟨3, 2, .rgb565Le, ⟨#[1, 2, 3, 4, 5, 6, 7, 8, 9, 10, 11, 12]⟩, none⟩ = .ok b ∧
      decode Png.modelDecoder b =
        .ok ⟨3, 2, .rgb565Le, ⟨#[1, 2, 3, 4, 5, 6, 7, 8, 9, 10, 11, 12]⟩, none⟩) ∧
    (∃ b, encodeRaw ⟨1, 1, .rgb888, ⟨#[8, 4, 8]⟩, none⟩ = .ok b ∧
      decode Png.modelDecoder b = .error (.inputTooShort 6)) ∧
    encodeRaw ⟨3, 2, .rgb565Le, ⟨#[1, 2, 3, 4, 5, 6, 7, 8, 9, 10, 11, 12]⟩, none⟩ =
      .ok ⟨#[3, 0, 2, 0, 1, 2, 3, 4, 5, 6, 7, 8, 9, 10, 11, 12]⟩ := by
  obtain ⟨hconv, hself, hshort, hback⟩ := raw565_round_trip Png.modelDecoder
  refine ⟨hconv _ (by decide) (by decide) (by decide), hself _ (by decide) rfl (by decide),
    hshort _ (by decide) (by decide) (by decide), hback _ _ (by decide) ?_⟩
  rw [decode_of_not_png (by decide) (by decide), if_pos (by decide), if_pos (by decide)]
  rfl

end Raster
