import Raster.Convert
import Raster.Proofs.Blit

set_option autoImplicit false

/-!
# What a conversion does

A conversion allocates a zeroed surface of the target size and format on the general heap and
blits the source into it with stretching on. The general heap never refuses, and a stretching
blit never overruns, so a conversion of a valid surface fails only when the target size is out
of range or the pixel-by-pixel path meets a format it cannot handle; the verbatim copy handles
every format, and it is taken exactly when size and format stay the same.

The main result is `convert_spec`: when a conversion succeeds, the pixel at `(x, y)` of the
result has the colour of source pixel `(⌊x · sw / tw⌋, ⌊y · sh / th⌋)`; at the source's own size
and format the result is the source itself; and re-encoding at the source's size through any
chain of packed formats keeps every colour, and gives back a 16-bit surface byte for byte.
-/

namespace Raster

@[simp] theorem deriveSide_zero (given sourceGiven : Nat) : deriveSide 0 given sourceGiven = 0 := by
  simp [deriveSide]

/-- **Asking again for a resolved size gives it back**: a positive side is taken as given, and a
side that resolved to zero reads as unspecified and is derived again, to zero. -/
theorem targetSize_targetSize (sw sh : Nat) (width height : Option Nat) :
    targetSize sw sh (some (targetSize sw sh width height).1)
        (some (targetSize sw sh width height).2) =
      targetSize sw sh width height := by
  rcases width with _ | w <;> rcases height with _ | h <;>
    simp only [targetSize, Option.filter_none, Option.filter_some] <;>
    split_ifs <;> simp_all

namespace Surface

variable {s d : Surface}

/-! ## Conversion as allocation followed by a blit -/

/-- Without a requested size the target keeps the source's size. -/
@[simp] theorem targetSize_none_none (sw sh : Nat) : targetSize sw sh none none = (sw, sh) := rfl

theorem convert_eq (s : Surface) (width height : Option Nat) (format : Option PixelFormat) :
    s.convert width height format =
      (s.validate >>= fun _ =>
        Surface.new (targetSize s.width s.height width height).1
          (targetSize s.width s.height width height).2 (format.getD s.format) >>= fun d =>
        s.blit d true none) := by
  simp only [Surface.convert, Surface.convertIn, Surface.runAlloc, Surface.new]
  cases hv : s.validate with
  | error e =>
    simp [ExceptT.run, ExceptT.mk, bind, ExceptT.bind, ExceptT.bindCont, StateT.bind, StateT.run,
      pure, StateT.pure, Except.bind]
  | ok u =>
    simp only [ExceptT.run, ExceptT.mk, bind, ExceptT.bind, ExceptT.bindCont, StateT.bind,
      StateT.run, pure, StateT.pure, Except.bind]
    -- the allocation's log does not reach the blit
    generalize create _ _ _ _ [] = p
    obtain ⟨r, log⟩ := p
    cases r <;> rfl

/-- A conversion reads the requested sides only through the size they resolve to. -/
theorem convert_congr_targetSize {width height width' height' : Option Nat}
    (h : targetSize s.width s.height width' height' = targetSize s.width s.height width height)
    (format : Option PixelFormat) :
    s.convert width' height' format = s.convert width height format := by
  rw [convert_eq, convert_eq, h]

theorem new_ok {w h : Nat} {f : PixelFormat} (hnew : Surface.new w h f = .ok d) :
    d.width = w ∧ d.height = h ∧ d.format = f ∧ d.Valid := by
  have hvalid := valid_of_new hnew
  rw [new_eq] at hnew
  split at hnew
  · cases hnew
    exact ⟨rfl, rfl, rfl, hvalid⟩
  · cases hnew

theorem exists_new {w h : Nat} (f : PixelFormat) (hfit : dimensionsFit w h = true) :
    ∃ d, Surface.new w h f = .ok d := by
  rw [new_eq, if_pos hfit]
  exact ⟨_, rfl⟩

theorem new_of_not_fit {w h : Nat} (f : PixelFormat) (hfit : dimensionsFit w h = false) :
    Surface.new w h f = .error (.invalidSurface (.dimensions w h)) := by
  rw [new_eq, if_neg (by rw [hfit]; decide)]

end Surface

namespace Blit

variable {src dst : Surface}

/-- A blit asked to stretch never overruns: it stretches whenever the sizes differ. -/
theorem overruns_stretching : overruns src dst true = false := by
  simp only [overruns, stretches, Bool.true_and, Bool.not_not, Bool.and_eq_false_imp,
    Bool.and_eq_true, beq_iff_eq, Bool.or_eq_false_iff, decide_eq_false_iff_not, Nat.not_lt]
  omega

/-- A blit asked to stretch copies verbatim exactly when size and format stay the same. -/
theorem copiesVerbatim_stretching :
    copiesVerbatim src dst true none = true ↔
      src.width = dst.width ∧ src.height = dst.height ∧ src.format = dst.format := by
  simp only [copiesVerbatim, stretches, Bool.true_and, Bool.not_not, Option.isNone_none,
    Bool.and_true, Bool.and_eq_true, beq_iff_eq, Surface.stride]
  constructor
  · rintro ⟨⟨⟨hw, hh⟩, -⟩, hf⟩
    exact ⟨hw, hh, hf⟩
  · rintro ⟨hw, hh, hf⟩
    exact ⟨⟨⟨hw, hh⟩, by rw [hw, hf]⟩, hf⟩

/-- Where a stretching blit does not stretch, the sizes are equal. -/
theorem size_eq_of_not_stretches (hst : stretches src dst true = false) :
    src.width = dst.width ∧ src.height = dst.height := by
  simpa [stretches] using hst

end Blit

namespace Surface

variable {s d : Surface} {width height : Option Nat} {format : Option PixelFormat}

/-- A conversion of a valid surface whose target size fits is the blit into the zeroed target. -/
theorem convert_of_fit (hs : s.Valid)
    (hfit : dimensionsFit (targetSize s.width s.height width height).1
      (targetSize s.width s.height width height).2 = true) :
    ∃ dst, dst.Valid ∧ dst.width = (targetSize s.width s.height width height).1 ∧
      dst.height = (targetSize s.width s.height width height).2 ∧
      dst.format = format.getD s.format ∧
      s.convert width height format = s.blit dst true none := by
  obtain ⟨dst, hnew⟩ := exists_new (format.getD s.format) hfit
  obtain ⟨hw, hh, hf, hd⟩ := new_ok hnew
  refine ⟨dst, hd, hw, hh, hf, ?_⟩
  rw [convert_eq, validate_of_valid hs]
  simp only [bind, Except.bind, hnew]

theorem convert_of_not_fit (hs : s.Valid)
    (hfit : dimensionsFit (targetSize s.width s.height width height).1
      (targetSize s.width s.height width height).2 = false) :
    s.convert width height format = .error (.invalidSurface (.dimensions
      (targetSize s.width s.height width height).1
      (targetSize s.width s.height width height).2)) := by
  rw [convert_eq, validate_of_valid hs]
  simp only [bind, Except.bind, new_of_not_fit _ hfit]

/-- A three-byte palette source cannot be read pixel by pixel, so converting it to another
format fails once the target size fits. -/
theorem convert_of_pal888 (hs : s.Valid) (hp : s.format = .pal888) {f : PixelFormat}
    (hf : f ≠ .pal888)
    (hfit : dimensionsFit (targetSize s.width s.height width height).1
      (targetSize s.width s.height width height).2 = true) :
    s.convert width height (some f) = .error (.unsupportedFormat (.read .pal888)) := by
  obtain ⟨dst, hd, -, -, hfd, hconv⟩ := convert_of_fit hs hfit
  -- the target's format differs from the source's, so the blit goes pixel by pixel
  have hv : ¬Blit.copiesVerbatim s dst true none = true := by
    intro hv
    have hsame : s.format = dst.format := (Blit.copiesVerbatim_stretching.mp hv).2.2
    rw [hfd, Option.getD_some, hp] at hsame
    exact hf hsame.symm
  rw [hconv, Blit.blit_of_valid hs hd, Blit.overruns_stretching, if_neg (by decide), if_neg hv,
    if_pos hp, hp]

/-- **When a conversion succeeds**: the target size fits, and either size and format stay the
same, or the source is readable and the target format packed. -/
theorem convert_ok_iff (hs : s.Valid) :
    (∃ d, s.convert width height format = .ok d) ↔
      dimensionsFit (targetSize s.width s.height width height).1
          (targetSize s.width s.height width height).2 = true ∧
        (((targetSize s.width s.height width height).1 = s.width ∧
            (targetSize s.width s.height width height).2 = s.height ∧
            format.getD s.format = s.format) ∨
          (s.format ≠ .pal888 ∧ (format.getD s.format).isPalette = false)) := by
  cases hfit : dimensionsFit (targetSize s.width s.height width height).1
      (targetSize s.width s.height width height).2
  · simp [convert_of_not_fit hs hfit]
  · obtain ⟨dst, hd, hw, hh, hf, hconv⟩ := convert_of_fit hs hfit
    rw [hconv, Blit.blit_of_valid hs hd, Blit.overruns_stretching, ← hw, ← hh, ← hf]
    simp only [Bool.false_eq_true, if_false, true_and]
    by_cases hv : Blit.copiesVerbatim s dst true none = true
    · have hsame := Blit.copiesVerbatim_stretching.mp hv
      simp only [hv, if_true]
      exact ⟨fun _ => .inl ⟨hsame.1.symm, hsame.2.1.symm, hsame.2.2.symm⟩, fun _ => ⟨_, rfl⟩⟩
    · have hdiff : ¬(dst.width = s.width ∧ dst.height = s.height ∧ dst.format = s.format) :=
        fun ⟨a, b, c⟩ => hv (Blit.copiesVerbatim_stretching.mpr ⟨a.symm, b.symm, c.symm⟩)
      simp only [hv, Bool.false_eq_true, if_false, hdiff, false_or]
      by_cases hp : s.format = .pal888
      · simp [hp]
      · cases dst.format.isPalette <;> simp [hp]

/-- **A successful conversion samples the source**: the result has the target size and format,
and its pixel `(x, y)` has the colour of source pixel `(⌊x · sw / tw⌋, ⌊y · sh / th⌋)`. -/
theorem convert_ok (hs : s.Valid) (h : s.convert width height format = .ok d) :
    d.width = (targetSize s.width s.height width height).1 ∧
      d.height = (targetSize s.width s.height width height).2 ∧
      d.format = format.getD s.format ∧ d.Valid ∧
      ∀ x y, x < d.width → y < d.height →
        d.pixel565? x y = s.pixel565? (x * s.width / d.width) (y * s.height / d.height) := by
  cases hfit : dimensionsFit (targetSize s.width s.height width height).1
      (targetSize s.width s.height width height).2
  · rw [convert_of_not_fit hs hfit] at h; cases h
  · obtain ⟨dst, -, hw, hh, hf, hconv⟩ := convert_of_fit hs hfit
    rw [hconv] at h
    obtain ⟨hw', hh', hf'⟩ := Blit.blit_ok_shape h
    refine ⟨hw'.trans hw, hh'.trans hh, hf'.trans hf, Blit.blit_ok_valid h, fun x y hx hy => ?_⟩
    rw [hw'] at hx ⊢
    rw [hh'] at hy ⊢
    rw [Blit.blit_ok_pixel565? h hx hy]
    simp only [Option.isSome_none, Bool.false_eq_true, false_and, if_false]
    -- without stretching the sizes agree and `⌊x · w / w⌋ = x`
    unfold Blit.Plan.column Blit.Plan.row
    cases hst : Blit.stretches s dst true
    · obtain ⟨hsw, hsh⟩ := Blit.size_eq_of_not_stretches hst
      simp only [hst, Bool.false_eq_true, if_false, hsw, hsh,
        Nat.mul_div_cancel _ (Nat.zero_lt_of_lt hx), Nat.mul_div_cancel _ (Nat.zero_lt_of_lt hy)]
    · simp only [hst, if_true, scaledIndex]

/-- **Converting to the source's own size and format gives the source back**, pixels and
palette, for every format. -/
theorem convert_self (hs : s.Valid)
    (hw : (targetSize s.width s.height width height).1 = s.width)
    (hh : (targetSize s.width s.height width height).2 = s.height)
    (hf : format.getD s.format = s.format) :
    s.convert width height format = .ok s := by
  have hfit : dimensionsFit (targetSize s.width s.height width height).1
      (targetSize s.width s.height width height).2 = true := by
    rw [hw, hh]; exact hs.dimensionsFit
  obtain ⟨dst, hd, hw', hh', hf', hconv⟩ := convert_of_fit hs hfit
  have hv : Blit.copiesVerbatim s dst true none = true :=
    Blit.copiesVerbatim_stretching.mpr ⟨(hw'.trans hw).symm, (hh'.trans hh).symm,
      (hf'.trans hf).symm⟩
  rw [hconv, Blit.blit_of_valid hs hd, Blit.overruns_stretching, if_neg (by decide), if_pos hv]
  -- the verbatim copy of all rows of a surface of the same shape is the surface
  have hsize : s.data.size = dst.height * dst.stride := by
    rw [hs.size_data, Surface.stride, Surface.stride, hh'.trans hh, hw'.trans hw, hf'.trans hf]
  rw [← hsize, ByteArray.extract_zero_size]
  cases s
  cases dst
  simp_all

/-! ## Re-encoding at the source's size -/

/-- **A 16-bit surface is its colours**: two valid surfaces of one size and one 16-bit format
with the same colour everywhere are equal, because each of their cells is written back byte for
byte from its colour. -/
theorem eq_of_pixel565? {t : Surface} (hs : s.Valid) (ht : t.Valid) (hw : s.width = t.width)
    (hh : s.height = t.height) (hf : s.format = t.format)
    (h565 : s.format = .rgb565Le ∨ s.format = .rgb565Be)
    (hpix : ∀ x y, s.pixel565? x y = t.pixel565? x y) : s = t := by
  have hpacked : s.format.isPalette = false := PixelFormat.isPalette_of_rgb565 h565
  have hpal : s.palette = t.palette := by
    rw [hs.palette_eq_none hpacked, ht.palette_eq_none (hf ▸ hpacked)]
  have hstride : s.stride = t.stride := by rw [Surface.stride, Surface.stride, hw, hf]
  have hdata : s.data = t.data := by
    apply Bytes.ext_byteAt (by rw [hs.size_data, ht.size_data, hstride, hh])
    intro i hi
    rw [hs.size_data, Surface.stride] at hi
    obtain ⟨y, x, j, hy, hx, hj, rfl⟩ := Bytes.exists_cell_of_lt hi
    -- the cell's colour is the same on both sides, and each cell is its colour's cell
    have hc := hpix x y
    rw [pixel565?_of_lt hs hx hy, pixel565?_of_lt ht (hw ▸ hx) (hh ▸ hy),
      colorAt_of_packed hpacked, colorAt_of_packed (hf ▸ hpacked), ← hstride, ← hf] at hc
    have hs' := PixelFormat.byteAt_cell_readCell h565 s.data
      (y * s.stride + x * s.format.bytesPerPixel) hj
    have ht' := PixelFormat.byteAt_cell_readCell h565 t.data
      (y * s.stride + x * s.format.bytesPerPixel) hj
    rw [← Surface.stride, ← hs', ← ht', Option.some.inj hc]
  cases s
  cases t
  simp only [Surface.mk.injEq]
  exact ⟨hw, hh, hf, hdata, hpal⟩

/-- One re-encoding of a readable surface into a packed format at its own size succeeds and
keeps every colour. -/
theorem convert_packed_keeps_colors (hs : s.Valid) (hread : s.format ≠ .pal888)
    {f : PixelFormat} (hf : f.isPalette = false) :
    ∃ d, s.convert none none (some f) = .ok d ∧ d.Valid ∧ d.width = s.width ∧
      d.height = s.height ∧ d.format = f ∧ ∀ x y, d.pixel565? x y = s.pixel565? x y := by
  obtain ⟨d, h⟩ := (@convert_ok_iff s none none (some f) hs).mpr
    ⟨hs.dimensionsFit, .inr ⟨hread, hf⟩⟩
  obtain ⟨hw, hh, hfd, hd, hpix⟩ := convert_ok hs h
  simp only [targetSize_none_none, Option.getD_some] at hw hh hfd
  refine ⟨d, h, hd, hw, hh, hfd, fun x y => ?_⟩
  by_cases hin : x < d.width ∧ y < d.height
  · rw [hpix x y hin.1 hin.2, hw, hh, Nat.mul_div_cancel _ hs.width_pos,
      Nat.mul_div_cancel _ hs.height_pos]
  · have hout : s.width ≤ x ∨ s.height ≤ y := by omega
    rw [pixel565?_eq_none hd (by omega), pixel565?_eq_none hs hout]

/-- **A chain of re-encodings into packed formats keeps every colour**, and ends in the chain's
last format. The induction is on the chain, one conversion at a time. -/
theorem convert_chain_keeps_colors :
    ∀ (fs : List PixelFormat) (s : Surface), (∀ f ∈ fs, f.isPalette = false) → s.Valid →
      s.format ≠ .pal888 →
      ∃ d, fs.foldlM (fun t f => t.convert none none (some f)) s = .ok d ∧ d.Valid ∧
        d.width = s.width ∧ d.height = s.height ∧ d.format = fs.getLast?.getD s.format ∧
        ∀ x y, d.pixel565? x y = s.pixel565? x y
  | [], s, _, hs, _ => ⟨s, rfl, hs, rfl, rfl, rfl, fun _ _ => rfl⟩
  | f :: fs, s, hfs, hs, hread => by
    have hf := hfs f (List.mem_cons_self ..)
    obtain ⟨u, hu, hvu, hwu, hhu, hfu, hpu⟩ := convert_packed_keeps_colors hs hread hf
    have hreadu : u.format ≠ .pal888 := PixelFormat.ne_pal888_of_packed (hfu ▸ hf)
    obtain ⟨d, hd, hvd, hwd, hhd, hfd, hpd⟩ :=
      convert_chain_keeps_colors fs u (fun g hg => hfs g (List.mem_cons_of_mem _ hg)) hvu hreadu
    refine ⟨d, ?_, hvd, hwd.trans hwu, hhd.trans hhu, ?_, fun x y => (hpd x y).trans (hpu x y)⟩
    · simp only [List.foldlM_cons, hu, bind, Except.bind]
      exact hd
    · rw [hfd, hfu, List.getLast?_cons]
      rfl

/-- **What a conversion does.** For a valid surface and any requested size and format: the
conversion succeeds exactly when the target size fits and either size and format stay the same
or the source is readable and the target format packed; a result has the target size and format
and samples the source; at the source's own size and format the result is the source; and a
chain of packed re-encodings at the source's size keeps every colour, and gives a 16-bit
surface back byte for byte when it ends in that surface's format. -/
theorem convert_spec (hs : s.Valid) :
    (∀ width height format,
      (∃ d, s.convert width height format = .ok d) ↔
        dimensionsFit (targetSize s.width s.height width height).1
            (targetSize s.width s.height width height).2 = true ∧
          (((targetSize s.width s.height width height).1 = s.width ∧
              (targetSize s.width s.height width height).2 = s.height ∧
              format.getD s.format = s.format) ∨
            (s.format ≠ .pal888 ∧ (format.getD s.format).isPalette = false))) ∧
    (∀ width height format d, s.convert width height format = .ok d →
      d.width = (targetSize s.width s.height width height).1 ∧
        d.height = (targetSize s.width s.height width height).2 ∧
        d.format = format.getD s.format ∧
        ∀ x y, x < d.width → y < d.height →
          d.pixel565? x y = s.pixel565? (x * s.width / d.width) (y * s.height / d.height)) ∧
    (∀ width height format,
      (targetSize s.width s.height width height).1 = s.width →
        (targetSize s.width s.height width height).2 = s.height →
        format.getD s.format = s.format → s.convert width height format = .ok s) ∧
    (∀ fs : List PixelFormat, (∀ f ∈ fs, f.isPalette = false) → s.format ≠ .pal888 →
      ∃ d, fs.foldlM (fun t f => t.convert none none (some f)) s = .ok d ∧
        d.format = fs.getLast?.getD s.format ∧ (∀ x y, d.pixel565? x y = s.pixel565? x y) ∧
        ((s.format = .rgb565Le ∨ s.format = .rgb565Be) → fs.getLast? = some s.format →
          d = s)) := by
  refine ⟨fun _ _ _ => convert_ok_iff hs, fun _ _ _ _ h => ?_,
    fun _ _ _ hw hh hf => convert_self hs hw hh hf, fun fs hfs hread => ?_⟩
  · obtain ⟨hw, hh, hf, -, hpix⟩ := convert_ok hs h
    exact ⟨hw, hh, hf, hpix⟩
  · obtain ⟨d, hrun, hd, hw, hh, hf, hpix⟩ := convert_chain_keeps_colors fs s hfs hs hread
    refine ⟨d, hrun, hf, hpix, fun h565 hlast => ?_⟩
    -- the chain ends in the surface's own 16-bit format, where colours determine the bytes
    have hfmt : d.format = s.format := by rw [hf, hlast, Option.getD_some]
    exact eq_of_pixel565? hd hs hw hh hfmt (hfmt ▸ h565) hpix

/-- Re-encoding a 16-bit surface through 24-bit RGB and back gives it back byte for byte. -/
theorem convert_spec_round_trip :
    (⟨1, 1, .rgb565Le, ⟨#[52, 18]⟩, none⟩ : Surface).Valid ∧
      [PixelFormat.rgb888, .rgb565Le].foldlM (fun t f => t.convert none none (some f))
          (⟨1, 1, .rgb565Le, ⟨#[52, 18]⟩, none⟩ : Surface) =
        .ok ⟨1, 1, .rgb565Le, ⟨#[52, 18]⟩, none⟩ := by
  have hs : (⟨1, 1, .rgb565Le, ⟨#[52, 18]⟩, none⟩ : Surface).Valid := by decide
  obtain ⟨-, -, -, hchain⟩ := convert_spec hs
  obtain ⟨d, hrun, -, -, hsame⟩ := hchain [.rgb888, .rgb565Le] (by decide) (by decide)
  rw [hrun, hsame (.inl rfl) rfl]
  exact ⟨hs, rfl⟩

end Surface

end Raster
