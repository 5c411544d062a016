import Raster.Proofs.BlitLayout
import Raster.Workspace

set_option autoImplicit false

/-!
# What a blit does

A blit runs its checks in a fixed order (both surfaces valid, an unstretched copy no larger than
its source, a readable source and a writable destination) and only then builds the destination.
`blit_of_valid` states the whole function once for valid surfaces; everything below is read off
it and off the general path's layout.

The main results:

* `blit_paints_sampled_colors`: after a blit that succeeds, every destination pixel has the
  colour of the source pixel it samples (`⌊x · sw / dw⌋, ⌊y · sh / dh⌋` when stretching),
  except that a pixel whose sampled colour is the transparent key keeps its old bytes. Both the
  verbatim copy and the pixel-by-pixel path satisfy it, for every pair of formats.
* `blit_error_iff`: a blit fails exactly when one of its checks fails, with the error of the
  first failing check, and a failed copy leaves a workspace as it was.
* `keyed_blit_eq_blit`: a key that no sampled pixel has changes nothing, except where the plain
  blit copies verbatim a format whose bytes the RGB565 detour does not keep; there the two differ
  (`keyed_blit_drops_low_bits`).
-/

namespace Raster

namespace Blit

/-- Whether a blit stretches: only when asked to and when the sizes differ. -/
def stretches (src dst : Surface) (scale : Bool) : Bool :=
  scale && !(src.width == dst.width && src.height == dst.height)

/-- Whether an unstretched blit would reach past the source. -/
def overruns (src dst : Surface) (scale : Bool) : Bool :=
  !stretches src dst scale && (dst.width > src.width || dst.height > src.height)

/-- Whether a blit copies the source's bytes as they are: no stretching, no key, one stride and
one format. -/
def copiesVerbatim (src dst : Surface) (scale : Bool) (key : Option Nat) : Bool :=
  !stretches src dst scale && key.isNone && src.stride == dst.stride && src.format == dst.format

/-- The plan of the pixel-by-pixel path. -/
abbrev plan (src dst : Surface) (scale : Bool) (key : Option Nat) : Plan :=
  ⟨stretches src dst scale, key⟩

variable {src dst : Surface} {scale : Bool} {key : Option Nat}

/-- **A blit of valid surfaces**, check by check. A verbatim copy takes the source's palette
along: both surfaces have one format, so both palettes are present or both absent. -/
theorem blit_of_valid (hs : src.Valid) (hd : dst.Valid) (scale : Bool) (key : Option Nat) :
    src.blit dst scale key =
      if overruns src dst scale then
        .error (.regionOutOfBounds dst.width dst.height src.width src.height)
      else if copiesVerbatim src dst scale key then
        .ok { dst with
          data := src.data.extract 0 (dst.height * dst.stride), palette := src.palette }
      else if src.format = .pal888 then .error (.unsupportedFormat (.read src.format))
      else if dst.format.isPalette then .error (.unsupportedFormat (.write dst.format))
      else .ok { dst with data := (plan src dst scale key).render src dst } := by
  unfold Surface.blit
  rw [Surface.validate_of_valid hs, Surface.validate_of_valid hd]
  simp only [bind, Except.bind, pure, Except.pure, throw, throwThe, MonadExcept.throw,
    MonadExceptOf.throw]
  by_cases ho : overruns src dst scale = true
  · rw [if_pos ho]
    simp only [overruns, stretches] at ho
    rw [if_pos ho]
  · rw [if_neg ho]
    simp only [overruns, stretches] at ho
    rw [if_neg ho]
    by_cases hv : copiesVerbatim src dst scale key = true
    · rw [if_pos hv]
      simp only [copiesVerbatim, stretches] at hv
      rw [if_pos hv]
      simp only [Bool.and_eq_true, beq_iff_eq] at hv
      -- the copy takes the palette only when both surfaces have one; one format makes both
      -- present or both absent, so the result's palette is the source's either way
      congr 2
      cases hpf : src.format.isPalette
      · rw [hs.palette_eq_none hpf, hd.palette_eq_none (hv.2 ▸ hpf)]
      · obtain ⟨p, hp, -⟩ := hs.palette_eq_some hpf
        obtain ⟨q, hq, -⟩ := hd.palette_eq_some (hv.2 ▸ hpf)
        rw [hp, hq]
    · rw [if_neg hv]
      simp only [copiesVerbatim, stretches] at hv
      rw [if_neg hv]
      by_cases hp : src.format = .pal888
      · rw [if_pos hp, if_pos (by simpa using hp)]
      · rw [if_neg hp, if_neg (by simpa using hp)]
        rfl

theorem blit_of_fault_src {f : SurfaceFault} (hf : src.fault? = some f) :
    src.blit dst scale key = .error (.invalidSurface f) := by
  simp only [Surface.blit, Surface.validate_of_fault hf, bind, Except.bind]

theorem blit_of_fault_dst (hs : src.Valid) {f : SurfaceFault} (hf : dst.fault? = some f) :
    src.blit dst scale key = .error (.invalidSurface f) := by
  simp only [Surface.blit, Surface.validate_of_valid hs, Surface.validate_of_fault hf, bind,
    Except.bind]

/-! ## Where the pixel-by-pixel path samples -/

theorem scaledIndex_lt {i src dst : Nat} (hi : i < dst) (hsrc : 0 < src) :
    scaledIndex i src dst < src :=
  Nat.div_lt_of_lt_mul (Nat.mul_lt_mul_of_pos_right hi hsrc)

/-- An unstretched blit that does not overrun has a destination no larger than its source. -/
theorem le_of_not_overruns (hov : overruns src dst scale = false)
    (hst : stretches src dst scale = false) :
    dst.width ≤ src.width ∧ dst.height ≤ src.height := by
  simp only [overruns, hst, Bool.not_false, Bool.true_and, Bool.or_eq_false_iff,
    decide_eq_false_iff_not] at hov
  omega

/-- Unless an unstretched blit overruns, every destination column samples a source column. -/
theorem column_lt (hs : 0 < src.width) (hov : overruns src dst scale = false) {x : Nat}
    (hx : x < dst.width) : (plan src dst scale key).column src dst x < src.width := by
  unfold Plan.column
  split
  · exact scaledIndex_lt hx hs
  · rename_i hst
    exact Nat.lt_of_lt_of_le hx (le_of_not_overruns hov (by simpa using hst)).1

theorem row_lt (hs : 0 < src.height) (hov : overruns src dst scale = false) {y : Nat}
    (hy : y < dst.height) : (plan src dst scale key).row src dst y < src.height := by
  unfold Plan.row
  split
  · exact scaledIndex_lt hy hs
  · rename_i hst
    exact Nat.lt_of_lt_of_le hy (le_of_not_overruns hov (by simpa using hst)).2

/-! ## The verbatim copy -/

/-- A verbatim copy does not stretch and has no key; its surfaces share format and width, and
the destination is no taller than the source. -/
theorem verbatim_facts (hv : copiesVerbatim src dst scale key = true)
    (hov : overruns src dst scale = false) :
    stretches src dst scale = false ∧ key = none ∧ src.format = dst.format ∧
      src.width = dst.width ∧ dst.height ≤ src.height := by
  simp only [copiesVerbatim, Bool.and_eq_true, Bool.not_eq_true', beq_iff_eq,
    Option.isNone_iff_eq_none] at hv
  obtain ⟨⟨⟨hst, hkey⟩, hstride⟩, hf⟩ := hv
  -- one stride and one format make one width
  have hw : src.width = dst.width := by
    simp only [Surface.stride, hf] at hstride
    exact Nat.eq_of_mul_eq_mul_right (PixelFormat.bytesPerPixel_pos _) hstride
  exact ⟨hst, hkey, hf, hw, (le_of_not_overruns hov hst).2⟩

section Verbatim

variable (hs : src.Valid) (hd : dst.Valid) (hf : src.format = dst.format)
  (hw : src.width = dst.width) (hh : dst.height ≤ src.height)

include hs hf hw hh in
/-- The rows a verbatim copy takes are all in the source. -/
theorem verbatim_le : dst.height * dst.stride ≤ src.data.size := by
  rw [hs.size_data, Surface.stride, Surface.stride, hw, hf]
  exact Nat.mul_le_mul_right _ hh

include hs hf hw hh in
theorem size_verbatim :
    (src.data.extract 0 (dst.height * dst.stride)).size = dst.height * dst.stride := by
  have hle := verbatim_le hs hf hw hh
  rw [ByteArray.size_extract]
  omega

include hs hd hf hw hh

theorem valid_verbatim :
    ({ dst with data := src.data.extract 0 (dst.height * dst.stride), palette := src.palette } :
      Surface).Valid := by
  have h := Surface.valid_iff.mp (hd.with_data (size_verbatim hs hf hw hh))
  refine Surface.valid_iff.mpr ⟨h.1, h.2.1, h.2.2.1, ?_⟩
  rw [← hf]
  exact (Surface.valid_iff.mp hs).2.2.2

/-- **A verbatim copy keeps every colour** of the rows it takes. -/
theorem verbatim_pixel565? {x y : Nat} (hx : x < dst.width) (hy : y < dst.height) :
    ({ dst with data := src.data.extract 0 (dst.height * dst.stride), palette := src.palette } :
      Surface).pixel565? x y = src.pixel565? x y := by
  rw [Surface.pixel565?_of_lt (valid_verbatim hs hd hf hw hh) hx hy,
    Surface.pixel565?_of_lt hs (hw ▸ hx) (Nat.lt_of_lt_of_le hy hh)]
  have hstride : dst.stride = src.stride := by rw [Surface.stride, Surface.stride, hw, hf]
  refine @Surface.colorAt_congr_row
    { dst with data := src.data.extract 0 (dst.height * dst.stride), palette := src.palette } src
    hf.symm rfl (y * dst.stride) (y * src.stride) x hx fun i hi => ?_
  -- byte `i` of row `y` lies inside the taken rows
  have hin : y * dst.stride + i < dst.height * dst.stride := Bytes.cell_offset_lt hy hi
  rw [Bytes.byteAt_extract _ (by omega) (verbatim_le hs hf hw hh), Nat.zero_add, hstride]

end Verbatim

/-! ## The pixel-by-pixel path -/

/-- **The pixel-by-pixel path paints the sampled source colour**, or keeps the old pixel where
that colour is the key. -/
theorem general_pixel565? (hs : src.Valid) (hd : dst.Valid) (hsrc : src.format ≠ .pal888)
    (hpacked : dst.format.isPalette = false) (hov : overruns src dst scale = false) {x y : Nat}
    (hx : x < dst.width) (hy : y < dst.height) :
    ({ dst with data := (plan src dst scale key).render src dst } : Surface).pixel565? x y =
      let c := src.pixel565? ((plan src dst scale key).column src dst x)
        ((plan src dst scale key).row src dst y)
      if key.isSome ∧ c = key then dst.pixel565? x y else c := by
  have hcol : (plan src dst scale key).column src dst x < src.width :=
    column_lt hs.width_pos hov hx
  have hrow : (plan src dst scale key).row src dst y < src.height := row_lt hs.height_pos hov hy
  rw [Plan.render_pixel565? _ _ hpacked hd hx hy, Surface.pixel565?_of_lt hs hcol hrow]
  obtain ⟨c, hc⟩ := hs.colorAt_isSome hsrc ((plan src dst scale key).row src dst y * src.stride)
    ((plan src dst scale key).column src dst x)
  rw [hc]
  dsimp only
  rw [Option.getD_some]
  -- the key is skipped exactly when it is the sampled colour
  cases key with
  | none => rfl
  | some k =>
    by_cases hk : k = c
    · subst hk
      simp [Plan.skips]
    · simp [Plan.skips, hk, Ne.symm hk]

/-! ## Blits that succeed -/

/-- **What a successful blit did**: both surfaces were valid, an unstretched copy fitted in the
source, and the destination is either the verbatim copy or the pixel-by-pixel one. -/
theorem blit_ok {d : Surface} (h : src.blit dst scale key = .ok d) :
    src.Valid ∧ dst.Valid ∧ overruns src dst scale = false ∧
      ((copiesVerbatim src dst scale key = true ∧
          d = { dst with
            data := src.data.extract 0 (dst.height * dst.stride), palette := src.palette }) ∨
        (copiesVerbatim src dst scale key = false ∧ src.format ≠ .pal888 ∧
          dst.format.isPalette = false ∧
          d = { dst with data := (plan src dst scale key).render src dst })) := by
  have hs : src.Valid := by
    cases hf : src.fault? with
    | none => exact hf
    | some f => rw [blit_of_fault_src hf] at h; cases h
  have hd : dst.Valid := by
    cases hf : dst.fault? with
    | none => exact hf
    | some f => rw [blit_of_fault_dst hs hf] at h; cases h
  rw [blit_of_valid hs hd] at h
  refine ⟨hs, hd, ?_⟩
  -- one split per check; only the verbatim copy and the last branch return a surface
  split at h
  · cases h
  · rename_i hov
    refine ⟨Bool.eq_false_iff.mpr hov, ?_⟩
    split at h
    · exact .inl ⟨‹_›, (Except.ok.inj h).symm⟩
    · rename_i hv
      split at h
      · cases h
      · split at h
        · cases h
        · exact .inr ⟨Bool.eq_false_iff.mpr hv, ‹_›, Bool.eq_false_iff.mpr ‹_›,
            (Except.ok.inj h).symm⟩

theorem blit_ok_shape {d : Surface} (h : src.blit dst scale key = .ok d) :
    d.width = dst.width ∧ d.height = dst.height ∧ d.format = dst.format := by
  obtain ⟨-, -, -, ⟨-, rfl⟩ | ⟨-, -, -, rfl⟩⟩ := blit_ok h <;> exact ⟨rfl, rfl, rfl⟩

/-- What a successful blit gives is a valid surface. -/
theorem blit_ok_valid {d : Surface} (h : src.blit dst scale key = .ok d) : d.Valid := by
  obtain ⟨hs, hd, hov, ⟨hv, rfl⟩ | ⟨-, -, hpacked, rfl⟩⟩ := blit_ok h
  · obtain ⟨-, -, hf, hw, hh⟩ := verbatim_facts hv hov
    exact valid_verbatim hs hd hf hw hh
  · exact hd.with_data (Plan.size_render _ _ hpacked)

/-- Every pixel after a successful blit: the sampled source colour, or the old pixel where that
colour is the key. -/
theorem blit_ok_pixel565? {d : Surface} (h : src.blit dst scale key = .ok d) {x y : Nat}
    (hx : x < dst.width) (hy : y < dst.height) :
    d.pixel565? x y =
      let c := src.pixel565? ((plan src dst scale key).column src dst x)
        ((plan src dst scale key).row src dst y)
      if key.isSome ∧ c = key then dst.pixel565? x y else c := by
  obtain ⟨hs, hd, hov, ⟨hv, rfl⟩ | ⟨-, hsrc, hpacked, rfl⟩⟩ := blit_ok h
  · -- a verbatim copy has no key and does not stretch, so it samples `(x, y)` itself
    obtain ⟨hst, rfl, hf, hw, hh⟩ := verbatim_facts hv hov
    rw [verbatim_pixel565? hs hd hf hw hh hx hy]
    simp [Plan.column, Plan.row, hst]
  · exact general_pixel565? hs hd hsrc hpacked hov hx hy

/-- Where the sampled colour is the key, the destination pixel keeps its old bytes. -/
theorem blit_ok_cell_of_key {d : Surface} (h : src.blit dst scale key = .ok d) {x y j : Nat}
    (hx : x < dst.width) (hy : y < dst.height) (hj : j < dst.format.bytesPerPixel)
    (hkey : key.isSome ∧ src.pixel565? ((plan src dst scale key).column src dst x)
      ((plan src dst scale key).row src dst y) = key) :
    Bytes.byteAt d.data (y * dst.stride + x * dst.format.bytesPerPixel + j) =
      Bytes.byteAt dst.data (y * dst.stride + x * dst.format.bytesPerPixel + j) := by
  obtain ⟨hs, -, hov, ⟨hv, -⟩ | ⟨-, hsrc, hpacked, rfl⟩⟩ := blit_ok h
  · -- a verbatim copy has no key
    simp only [copiesVerbatim, Bool.and_eq_true, Option.isNone_iff_eq_none] at hv
    rw [hv.1.1.2] at hkey
    cases hkey.1
  · have hcol : (plan src dst scale key).column src dst x < src.width :=
      column_lt hs.width_pos hov hx
    have hrow : (plan src dst scale key).row src dst y < src.height := row_lt hs.height_pos hov hy
    obtain ⟨k, rfl⟩ := Option.isSome_iff_exists.mp hkey.1
    have hc := hkey.2
    rw [Surface.pixel565?_of_lt hs hcol hrow] at hc
    refine (Plan.byteAt_render _ _ hpacked hx hy hj).trans ?_
    simp only [Plan.cellBytes, hc, Option.getD_some, Plan.skips, beq_self_eq_true, if_true]
    exact Bytes.byteAt_pushRange _ _ hj

/-- **A blit paints every destination pixel with the colour it samples.** After a blit that
succeeds the destination keeps its shape, and pixel `(x, y)` has the colour of source pixel
`(sx, sy)`, which is `(⌊x · sw / dw⌋, ⌊y · sh / dh⌋)` when the blit stretches and `(x, y)`
otherwise, except where that colour is the transparent key: there the pixel keeps its colour and
its bytes. This holds whichever path the blit took and for every pair of formats. -/
theorem blit_paints_sampled_colors {d : Surface} (h : src.blit dst scale key = .ok d) :
    d.width = dst.width ∧ d.height = dst.height ∧ d.stride = dst.stride ∧
      d.format = dst.format ∧
      ∀ x y, x < dst.width → y < dst.height →
        let sx := if stretches src dst scale then x * src.width / dst.width else x
        let sy := if stretches src dst scale then y * src.height / dst.height else y
        if key.isSome ∧ src.pixel565? sx sy = key then
          d.pixel565? x y = dst.pixel565? x y ∧
            ∀ j, j < dst.format.bytesPerPixel →
              Bytes.byteAt d.data (y * dst.stride + x * dst.format.bytesPerPixel + j) =
                Bytes.byteAt dst.data (y * dst.stride + x * dst.format.bytesPerPixel + j)
        else d.pixel565? x y = src.pixel565? sx sy := by
  obtain ⟨hw, hh, hf⟩ := blit_ok_shape h
  refine ⟨hw, hh, by rw [Surface.stride, Surface.stride, hw, hf], hf, fun x y hx hy => ?_⟩
  -- the plan's sampled column and row are `sx` and `sy`
  have hpix := blit_ok_pixel565? h hx hy
  have hcell := fun j (hj : j < dst.format.bytesPerPixel) => blit_ok_cell_of_key h hx hy hj
  dsimp only [plan, Plan.column, Plan.row, scaledIndex] at hpix hcell ⊢
  by_cases hkey : key.isSome ∧
      src.pixel565? (if stretches src dst scale then x * src.width / dst.width else x)
        (if stretches src dst scale then y * src.height / dst.height else y) = key
  · rw [if_pos hkey]
    rw [if_pos hkey] at hpix
    exact ⟨hpix, fun j hj => hcell j hj hkey⟩
  · rw [if_neg hkey]
    rwa [if_neg hkey] at hpix

/-! ## Blits that fail -/

/-- **Every outcome of a blit**, one case per check in the order the blit runs them. -/
theorem blit_cases (src dst : Surface) (scale : Bool) (key : Option Nat) :
    (∃ f, src.fault? = some f ∧ src.blit dst scale key = .error (.invalidSurface f)) ∨
    (src.Valid ∧ ∃ f, dst.fault? = some f ∧
      src.blit dst scale key = .error (.invalidSurface f)) ∨
    (src.Valid ∧ dst.Valid ∧ overruns src dst scale = true ∧
      src.blit dst scale key =
        .error (.regionOutOfBounds dst.width dst.height src.width src.height)) ∨
    (src.Valid ∧ dst.Valid ∧ overruns src dst scale = false ∧
      copiesVerbatim src dst scale key = true ∧ ∃ d, src.blit dst scale key = .ok d) ∨
    (src.Valid ∧ dst.Valid ∧ overruns src dst scale = false ∧
      copiesVerbatim src dst scale key = false ∧ src.format = .pal888 ∧
      src.blit dst scale key = .error (.unsupportedFormat (.read .pal888))) ∨
    (src.Valid ∧ dst.Valid ∧ overruns src dst scale = false ∧
      copiesVerbatim src dst scale key = false ∧ src.format ≠ .pal888 ∧
      dst.format.isPalette = true ∧
      src.blit dst scale key = .error (.unsupportedFormat (.write dst.format))) ∨
    (src.Valid ∧ dst.Valid ∧ overruns src dst scale = false ∧
      copiesVerbatim src dst scale key = false ∧ src.format ≠ .pal888 ∧
      dst.format.isPalette = false ∧ ∃ d, src.blit dst scale key = .ok d) := by
  cases hfs : src.fault? with
  | some f => exact .inl ⟨f, rfl, blit_of_fault_src hfs⟩
  | none =>
  have hs : src.Valid := hfs
  cases hfd : dst.fault? with
  | some f => exact .inr (.inl ⟨hs, f, rfl, blit_of_fault_dst hs hfd⟩)
  | none =>
  have hd : dst.Valid := hfd
  -- past validation, follow the checks of `blit_of_valid` in order
  have hblit := blit_of_valid hs hd scale key
  refine .inr (.inr ?_)
  cases hov : overruns src dst scale
  · simp only [hov, Bool.false_eq_true, if_false] at hblit
    cases hv : copiesVerbatim src dst scale key
    · simp only [hv, Bool.false_eq_true, if_false] at hblit
      by_cases hp : src.format = .pal888
      · rw [if_pos hp, hp] at hblit
        exact .inr (.inr (.inl ⟨hs, hd, rfl, rfl, hp, hblit⟩))
      · rw [if_neg hp] at hblit
        cases hq : dst.format.isPalette
        · simp only [hq, Bool.false_eq_true, if_false] at hblit
          exact .inr (.inr (.inr (.inr ⟨hs, hd, rfl, rfl, hp, rfl, _, hblit⟩)))
        · simp only [hq, if_true] at hblit
          exact .inr (.inr (.inr (.inl ⟨hs, hd, rfl, rfl, hp, rfl, hblit⟩)))
    · simp only [hv, if_true] at hblit
      exact .inr (.inl ⟨hs, hd, rfl, rfl, _, hblit⟩)
  · simp only [hov, if_true] at hblit
    exact .inl ⟨hs, hd, rfl, hblit⟩

/-- **A blit fails exactly when one of its checks fails**: a surface is invalid, an unstretched
copy overruns its source, or the pixel-by-pixel path meets a three-byte palette source or an
indexed destination. The error is that of the first failing check, and a failed copy leaves the
workspace, the destination included, as it was. -/
theorem blit_error_iff (src dst : Surface) (scale : Bool) (key : Option Nat) :
    ((∃ e, src.blit dst scale key = .error e) ↔
      ¬src.Valid ∨ ¬dst.Valid ∨ overruns src dst scale = true ∨
        (copiesVerbatim src dst scale key = false ∧
          (src.format = .pal888 ∨ dst.format.isPalette = true))) ∧
    (∀ f, src.blit dst scale key = .error (.invalidSurface f) ↔
      src.fault? = some f ∨ (src.Valid ∧ dst.fault? = some f)) ∧
    (∀ e, src.blit dst scale key = .error e → (∃ f, e = .invalidSurface f) ∨
      (src.Valid ∧ dst.Valid ∧ overruns src dst scale = true ∧
        e = .regionOutOfBounds dst.width dst.height src.width src.height) ∨
      (src.Valid ∧ dst.Valid ∧ overruns src dst scale = false ∧
        copiesVerbatim src dst scale key = false ∧
        ((src.format = .pal888 ∧ e = .unsupportedFormat (.read .pal888)) ∨
          (src.format ≠ .pal888 ∧ dst.format.isPalette = true ∧
            e = .unsupportedFormat (.write dst.format))))) ∧
    ∀ (w : Workspace) (s t : String), w.get? s = some src → w.get? t = some dst →
      (∃ e, src.blit dst scale key = .error e) → (w.run (.copy s t scale key)).2 = w := by
  -- a failed step stores nothing
  have hframe : ∀ (w : Workspace) (s t : String), w.get? s = some src → w.get? t = some dst →
      (∃ e, src.blit dst scale key = .error e) → (w.run (.copy s t scale key)).2 = w := by
    rintro w s t hs ht ⟨e, he⟩
    simp [Workspace.run, Workspace.Step.result, Workspace.need, hs, ht, he, bind, Except.bind,
      Workspace.lift, Except.mapError]
  -- every other part is read off the outcome, one case per check
  rcases blit_cases src dst scale key with
    ⟨f, hf, h⟩ | ⟨hs, f, hf, h⟩ | ⟨hs, hd, hov, h⟩ | ⟨hs, hd, hov, hv, d, h⟩ |
    ⟨hs, hd, hov, hv, hp, h⟩ | ⟨hs, hd, hov, hv, hp, hq, h⟩ | ⟨hs, hd, hov, hv, hp, hq, d, h⟩
  all_goals
    refine ⟨?_, ?_, ?_, hframe⟩
    all_goals simp_all [Surface.Valid]

/-- An unstretched copy onto a wider destination fails, and the workspace holding both surfaces
is left as it was. -/
theorem blit_error_iff_wider :
    ((⟨[("src", ⟨1, 1, .rgb565Le, ⟨#[0, 0]⟩, none⟩),
          ("dst", ⟨2, 1, .rgb565Le, ⟨#[0, 0, 0, 0]⟩, none⟩)]⟩ : Workspace).get? "src" =
        some (⟨1, 1, .rgb565Le, ⟨#[0, 0]⟩, none⟩ : Surface) ∧
      (⟨[("src", ⟨1, 1, .rgb565Le, ⟨#[0, 0]⟩, none⟩),
          ("dst", ⟨2, 1, .rgb565Le, ⟨#[0, 0, 0, 0]⟩, none⟩)]⟩ : Workspace).get? "dst" =
        some (⟨2, 1, .rgb565Le, ⟨#[0, 0, 0, 0]⟩, none⟩ : Surface) ∧
      ∃ e, (⟨1, 1, .rgb565Le, ⟨#[0, 0]⟩, none⟩ : Surface).blit
        (⟨2, 1, .rgb565Le, ⟨#[0, 0, 0, 0]⟩, none⟩ : Surface) false none = .error e) ∧
    ((⟨[("src", ⟨1, 1, .rgb565Le, ⟨#[0, 0]⟩, none⟩),
          ("dst", ⟨2, 1, .rgb565Le, ⟨#[0, 0, 0, 0]⟩, none⟩)]⟩ : Workspace).run
        (.copy "src" "dst" false none)).2 =
      (⟨[("src", ⟨1, 1, .rgb565Le, ⟨#[0, 0]⟩, none⟩),
        ("dst", ⟨2, 1, .rgb565Le, ⟨#[0, 0, 0, 0]⟩, none⟩)]⟩ : Workspace) :=
  ⟨⟨rfl, rfl, _, rfl⟩, (blit_error_iff _ _ false none).2.2.2 _ "src" "dst" rfl rfl ⟨_, rfl⟩⟩

/-- A blit whose key is the colour of the one source pixel keeps the destination's pixel there,
and one whose key is another colour paints it. -/
theorem blit_paints_sampled_colors_keyed :
    (⟨2, 1, .rgb565Le, ⟨#[31, 0, 0, 248]⟩, none⟩ : Surface).blit
        ⟨2, 1, .rgb565Le, ⟨#[224, 7, 224, 7]⟩, none⟩ false (some 31) =
      .ok ⟨2, 1, .rgb565Le, ⟨#[224, 7, 0, 248]⟩, none⟩ ∧
    (⟨2, 1, .rgb565Le, ⟨#[224, 7, 0, 248]⟩, none⟩ : Surface).width =
        (⟨2, 1, .rgb565Le, ⟨#[224, 7, 224, 7]⟩, none⟩ : Surface).width ∧
      (⟨2, 1, .rgb565Le, ⟨#[224, 7, 0, 248]⟩, none⟩ : Surface).height =
        (⟨2, 1, .rgb565Le, ⟨#[224, 7, 224, 7]⟩, none⟩ : Surface).height ∧
      (⟨2, 1, .rgb565Le, ⟨#[224, 7, 0, 248]⟩, none⟩ : Surface).stride =
        (⟨2, 1, .rgb565Le, ⟨#[224, 7, 224, 7]⟩, none⟩ : Surface).stride ∧
      (⟨2, 1, .rgb565Le, ⟨#[224, 7, 0, 248]⟩, none⟩ : Surface).format =
        (⟨2, 1, .rgb565Le, ⟨#[224, 7, 224, 7]⟩, none⟩ : Surface).format ∧
      ∀ x y, x < 2 → y < 1 →
        let sx := if stretches ⟨2, 1, .rgb565Le, ⟨#[31, 0, 0, 248]⟩, none⟩
          ⟨2, 1, .rgb565Le, ⟨#[224, 7, 224, 7]⟩, none⟩ false then x * 2 / 2 else x
        let sy := if stretches ⟨2, 1, .rgb565Le, ⟨#[31, 0, 0, 248]⟩, none⟩
          ⟨2, 1, .rgb565Le, ⟨#[224, 7, 224, 7]⟩, none⟩ false then y * 1 / 1 else y
        if (some 31).isSome ∧
            (⟨2, 1, .rgb565Le, ⟨#[31, 0, 0, 248]⟩, none⟩ : Surface).pixel565? sx sy = some 31 then
          (⟨2, 1, .rgb565Le, ⟨#[224, 7, 0, 248]⟩, none⟩ : Surface).pixel565? x y =
              (⟨2, 1, .rgb565Le, ⟨#[224, 7, 224, 7]⟩, none⟩ : Surface).pixel565? x y ∧
            ∀ j, j < PixelFormat.rgb565Le.bytesPerPixel →
              Bytes.byteAt ⟨#[224, 7, 0, 248]⟩
                  (y * 4 + x * PixelFormat.rgb565Le.bytesPerPixel + j) =
                Bytes.byteAt ⟨#[224, 7, 224, 7]⟩
                  (y * 4 + x * PixelFormat.rgb565Le.bytesPerPixel + j)
        else
          (⟨2, 1, .rgb565Le, ⟨#[224, 7, 0, 248]⟩, none⟩ : Surface).pixel565? x y =
            (⟨2, 1, .rgb565Le, ⟨#[31, 0, 0, 248]⟩, none⟩ : Surface).pixel565? sx sy :=
  ⟨rfl, blit_paints_sampled_colors rfl⟩

/-! ## A key that no sampled pixel has -/

/-- A key that no sampled source pixel has leaves the pixel-by-pixel path's buffer as it is
without a key. -/
theorem render_keyed_eq (hs : src.Valid) (hsrc : src.format ≠ .pal888)
    (hpacked : dst.format.isPalette = false) (hov : overruns src dst scale = false) {k : Nat}
    (hk : ∀ x y, x < dst.width → y < dst.height →
      src.pixel565? ((plan src dst scale none).column src dst x)
        ((plan src dst scale none).row src dst y) ≠ some k) :
    (plan src dst scale (some k)).render src dst = (plan src dst scale none).render src dst := by
  apply Bytes.ext_byteAt (by rw [Plan.size_render _ _ hpacked, Plan.size_render _ _ hpacked])
  intro i hi
  rw [Plan.size_render _ _ hpacked, Surface.stride] at hi
  obtain ⟨y, x, j, hy, hx, hj, rfl⟩ := Bytes.exists_cell_of_lt hi
  rw [← Surface.stride, Plan.byteAt_render _ _ hpacked hx hy hj,
    Plan.byteAt_render _ _ hpacked hx hy hj]
  -- both plans sample the same pixel, and its colour is not the key
  have hcol : (plan src dst scale none).column src dst x < src.width :=
    column_lt hs.width_pos hov hx
  have hrow : (plan src dst scale none).row src dst y < src.height := row_lt hs.height_pos hov hy
  obtain ⟨c, hc⟩ := hs.colorAt_isSome hsrc ((plan src dst scale none).row src dst y * src.stride)
    ((plan src dst scale none).column src dst x)
  have hck : c ≠ k := by
    have := hk x y hx hy
    rw [Surface.pixel565?_of_lt hs hcol hrow, hc] at this
    exact fun h => this (congrArg some h)
  have hc' : src.colorAt ((plan src dst scale (some k)).row src dst y * src.stride)
      ((plan src dst scale (some k)).column src dst x) = some c := hc
  simp only [Plan.cellBytes, hc, hc', Option.getD_some, Plan.skips, beq_iff_eq, Ne.symm hck,
    Bool.false_eq_true, if_false]

/-- Without a key or stretching, the pixel-by-pixel path copies a 16-bit source byte for byte. -/
theorem render_eq_verbatim (hs : src.Valid)
    (hf565 : src.format = .rgb565Le ∨ src.format = .rgb565Be)
    (hst : stretches src dst scale = false) (hf : src.format = dst.format)
    (hw : src.width = dst.width) (hh : dst.height ≤ src.height) :
    (plan src dst scale none).render src dst = src.data.extract 0 (dst.height * dst.stride) := by
  have hpacked : dst.format.isPalette = false := hf ▸ PixelFormat.isPalette_of_rgb565 hf565
  have hstride : src.stride = dst.stride := by rw [Surface.stride, Surface.stride, hw, hf]
  apply Bytes.ext_byteAt
    (by rw [Plan.size_render _ _ hpacked, size_verbatim hs hf hw hh])
  intro i hi
  rw [Plan.size_render _ _ hpacked, Surface.stride] at hi
  obtain ⟨y, x, j, hy, hx, hj, rfl⟩ := Bytes.exists_cell_of_lt hi
  have hin : y * dst.stride + x * dst.format.bytesPerPixel + j < dst.height * dst.stride := by
    rw [Nat.add_assoc]
    exact Bytes.cell_offset_lt hy (Bytes.cell_offset_lt hx hj)
  rw [← Surface.stride, Plan.byteAt_render _ _ hpacked hx hy hj,
    Bytes.byteAt_extract _ (by omega) (verbatim_le hs hf hw hh), Nat.zero_add]
  -- the sampled pixel is `(x, y)` itself, and its cell is written back unchanged
  have hcell := PixelFormat.byteAt_cell_readCell hf565 src.data
    (y * src.stride + x * src.format.bytesPerPixel) (hf ▸ hj)
  simp only [Plan.cellBytes, Plan.column, Plan.row, hst, Bool.false_eq_true, if_false,
    Surface.colorAt_of_packed (hf ▸ hpacked), Option.getD_some, Plan.skips] at hcell ⊢
  rw [← hf, hcell, hstride, hf]

/-- Where the plain blit copies an indexed format verbatim, a blit with any key refuses it. -/
theorem keyed_blit_refuses_palette {k : Nat} (hs : src.Valid) (hd : dst.Valid)
    (hov : overruns src dst scale = false) (hv : copiesVerbatim src dst scale none = true)
    (hpal : src.format.isPalette = true) :
    (∃ d', src.blit dst scale none = .ok d') ∧
      ∃ g, src.blit dst scale (some k) = .error (.unsupportedFormat g) := by
  refine ⟨?_, ?_⟩
  · rw [blit_of_valid hs hd]; simp [hov, hv]
  · obtain ⟨-, -, hf, -, -⟩ := verbatim_facts hv hov
    rw [blit_of_valid hs hd]
    by_cases hp : src.format = .pal888
    · simp [copiesVerbatim, hov, hp]
    · simp [copiesVerbatim, hov, hp, ← hf, hpal]

section UnusedKey

variable {k : Nat}
  (hk : ∀ x y, x < dst.width → y < dst.height →
    src.pixel565? ((plan src dst scale none).column src dst x)
      ((plan src dst scale none).row src dst y) ≠ some k)
include hk

/-- A key that no sampled pixel has gives the plain blit's outcome, byte for byte, unless the
plain blit gets past its checks and copies verbatim a format other than the 16-bit ones. -/
theorem keyed_blit_eq_of_faithful
    (hcase : src.Valid → dst.Valid → overruns src dst scale = false →
      copiesVerbatim src dst scale none = true → src.format = .rgb565Le ∨
        src.format = .rgb565Be) :
    src.blit dst scale (some k) = src.blit dst scale none := by
  -- a key always turns the verbatim copy off
  have hkv : copiesVerbatim src dst scale (some k) = false := by
    simp [copiesVerbatim]
  cases hfs : src.fault? with
  | some f => rw [blit_of_fault_src hfs, blit_of_fault_src hfs]
  | none =>
  cases hfd : dst.fault? with
  | some f => rw [blit_of_fault_dst hfs hfd, blit_of_fault_dst hfs hfd]
  | none =>
  have hs : src.Valid := hfs
  have hd : dst.Valid := hfd
  rw [blit_of_valid hs hd, blit_of_valid hs hd, hkv]
  cases hov : overruns src dst scale
  · simp only [Bool.false_eq_true, if_false]
    cases hv : copiesVerbatim src dst scale none
    · -- both take the pixel-by-pixel path and meet the same checks
      simp only [Bool.false_eq_true, if_false]
      by_cases hp : src.format = .pal888
      · simp only [hp, if_true]
      · cases hq : dst.format.isPalette
        · simp only [hp, Bool.false_eq_true, if_false, render_keyed_eq hs hp hq hov hk]
        · simp only [hp, if_true, if_false]
    · -- a 16-bit verbatim copy is what the pixel-by-pixel path writes
      obtain ⟨hst, -, hf, hw, hh⟩ := verbatim_facts hv hov
      have hf565 : src.format = .rgb565Le ∨ src.format = .rgb565Be := hcase hs hd hov hv
      have hq : dst.format.isPalette = false := hf ▸ PixelFormat.isPalette_of_rgb565 hf565
      have hp : src.format ≠ .pal888 := PixelFormat.ne_pal888_of_packed (hf ▸ hq)
      have hpal : src.palette = dst.palette := by
        rw [hs.palette_eq_none (hf ▸ hq), hd.palette_eq_none hq]
      simp only [hp, hq, Bool.false_eq_true, if_false, if_true,
        render_keyed_eq hs hp hq hov hk, render_eq_verbatim hs hf565 hst hf hw hh, hpal]
  · simp only [if_true]

/-- Where the plain blit copies three-byte pixels verbatim, a key that no sampled pixel has still
sends the blit through the pixel-by-pixel path; both succeed and agree on every colour. -/
theorem keyed_blit_colors_of_rgb888 (hs : src.Valid) (hd : dst.Valid)
    (hov : overruns src dst scale = false) (hv : copiesVerbatim src dst scale none = true)
    (h888 : src.format = .rgb888) :
    ∃ d d', src.blit dst scale (some k) = .ok d ∧ src.blit dst scale none = .ok d' ∧
      ∀ x y, d.pixel565? x y = d'.pixel565? x y := by
  obtain ⟨-, -, hf, -, -⟩ := verbatim_facts hv hov
  have hq : dst.format.isPalette = false := by rw [← hf, h888]; rfl
  have hp : src.format ≠ .pal888 := PixelFormat.ne_pal888_of_packed (hf ▸ hq)
  obtain ⟨d, hd'⟩ : ∃ d, src.blit dst scale (some k) = .ok d := by
    rw [blit_of_valid hs hd]; simp [copiesVerbatim, hov, hp, hq]
  obtain ⟨d', hd''⟩ : ∃ d', src.blit dst scale none = .ok d' := by
    rw [blit_of_valid hs hd]; simp [hov, hv]
  refine ⟨d, d', hd', hd'', fun x y => ?_⟩
  -- inside the destination both give the sampled colour; outside neither gives any
  obtain ⟨hw', hh', -⟩ := blit_ok_shape hd'
  obtain ⟨hw'', hh'', -⟩ := blit_ok_shape hd''
  by_cases hin : x < dst.width ∧ y < dst.height
  · rw [blit_ok_pixel565? hd' hin.1 hin.2, blit_ok_pixel565? hd'' hin.1 hin.2]
    have hne := hk x y hin.1 hin.2
    simp only [Option.isSome_some, true_and, Option.isSome_none, Bool.false_eq_true,
      false_and, if_false]
    exact if_neg hne
  · rw [Surface.pixel565?_eq_none (blit_ok_valid hd') (by omega),
      Surface.pixel565?_eq_none (blit_ok_valid hd'') (by omega)]

end UnusedKey

/-- **A key that no sampled pixel has changes nothing**, except on a verbatim copy of a format
whose bytes the pixel-by-pixel path does not keep. With such a key a blit gives what the plain
blit gives, byte for byte, unless the plain blit passes its checks and copies verbatim a
three-byte or an indexed format; a failed check fails both alike. A verbatim three-byte copy
keeps the source bytes while the keyed blit writes each colour back with the channels' low bits
cleared, so the two agree on every colour but not on every byte; a verbatim indexed copy
succeeds while the keyed blit refuses the format. -/
theorem keyed_blit_eq_blit (src dst : Surface) (scale : Bool) (k : Nat)
    (hk : ∀ x y, x < dst.width → y < dst.height →
      src.pixel565? (if stretches src dst scale then x * src.width / dst.width else x)
        (if stretches src dst scale then y * src.height / dst.height else y) ≠ some k) :
    ((src.Valid → dst.Valid → overruns src dst scale = false →
        copiesVerbatim src dst scale none = true → src.format = .rgb565Le ∨
          src.format = .rgb565Be) →
      src.blit dst scale (some k) = src.blit dst scale none) ∧
    (src.Valid → dst.Valid → overruns src dst scale = false →
      copiesVerbatim src dst scale none = true → src.format = .rgb888 →
      ∃ d d', src.blit dst scale (some k) = .ok d ∧ src.blit dst scale none = .ok d' ∧
        ∀ x y, d.pixel565? x y = d'.pixel565? x y) ∧
    (src.Valid → dst.Valid → overruns src dst scale = false →
      copiesVerbatim src dst scale none = true → src.format.isPalette = true →
      (∃ d', src.blit dst scale none = .ok d') ∧
        ∃ g, src.blit dst scale (some k) = .error (.unsupportedFormat g)) :=
  -- the plain blit's plan samples `(sx, sy)`
  have hk' : ∀ x y, x < dst.width → y < dst.height →
      src.pixel565? ((plan src dst scale none).column src dst x)
        ((plan src dst scale none).row src dst y) ≠ some k := hk
  ⟨keyed_blit_eq_of_faithful hk', keyed_blit_colors_of_rgb888 hk',
    keyed_blit_refuses_palette⟩

/-- A one-pixel copy whose key is not the pixel's colour. -/
theorem keyed_blit_eq_blit_one_pixel :
    (∀ x y, x < (⟨1, 1, .rgb565Le, ⟨#[0, 0]⟩, none⟩ : Surface).width →
      y < (⟨1, 1, .rgb565Le, ⟨#[0, 0]⟩, none⟩ : Surface).height →
      (⟨1, 1, .rgb565Le, ⟨#[52, 18]⟩, none⟩ : Surface).pixel565?
          (if stretches ⟨1, 1, .rgb565Le, ⟨#[52, 18]⟩, none⟩ ⟨1, 1, .rgb565Le, ⟨#[0, 0]⟩, none⟩
            false then x * 1 / 1 else x)
          (if stretches ⟨1, 1, .rgb565Le, ⟨#[52, 18]⟩, none⟩ ⟨1, 1, .rgb565Le, ⟨#[0, 0]⟩, none⟩
            false then y * 1 / 1 else y) ≠ some 0) ∧
    (((⟨1, 1, .rgb565Le, ⟨#[52, 18]⟩, none⟩ : Surface).Valid →
        (⟨1, 1, .rgb565Le, ⟨#[0, 0]⟩, none⟩ : Surface).Valid →
        overruns ⟨1, 1, .rgb565Le, ⟨#[52, 18]⟩, none⟩ ⟨1, 1, .rgb565Le, ⟨#[0, 0]⟩, none⟩ false =
          false →
        copiesVerbatim ⟨1, 1, .rgb565Le, ⟨#[52, 18]⟩, none⟩ ⟨1, 1, .rgb565Le, ⟨#[0, 0]⟩, none⟩
          false none = true →
        PixelFormat.rgb565Le = .rgb565Le ∨ PixelFormat.rgb565Le = .rgb565Be) →
      (⟨1, 1, .rgb565Le, ⟨#[52, 18]⟩, none⟩ : Surface).blit ⟨1, 1, .rgb565Le, ⟨#[0, 0]⟩, none⟩
          false (some 0) =
        (⟨1, 1, .rgb565Le, ⟨#[52, 18]⟩, none⟩ : Surface).blit ⟨1, 1, .rgb565Le, ⟨#[0, 0]⟩, none⟩
          false none) ∧
    ((⟨1, 1, .rgb565Le, ⟨#[52, 18]⟩, none⟩ : Surface).Valid →
      (⟨1, 1, .rgb565Le, ⟨#[0, 0]⟩, none⟩ : Surface).Valid →
      overruns ⟨1, 1, .rgb565Le, ⟨#[52, 18]⟩, none⟩ ⟨1, 1, .rgb565Le, ⟨#[0, 0]⟩, none⟩ false =
        false →
      copiesVerbatim ⟨1, 1, .rgb565Le, ⟨#[52, 18]⟩, none⟩ ⟨1, 1, .rgb565Le, ⟨#[0, 0]⟩, none⟩
        false none = true →
      PixelFormat.rgb565Le = .rgb888 →
      ∃ d d', (⟨1, 1, .rgb565Le, ⟨#[52, 18]⟩, none⟩ : Surface).blit
          ⟨1, 1, .rgb565Le, ⟨#[0, 0]⟩, none⟩ false (some 0) = .ok d ∧
        (⟨1, 1, .rgb565Le, ⟨#[52, 18]⟩, none⟩ : Surface).blit
          ⟨1, 1, .rgb565Le, ⟨#[0, 0]⟩, none⟩ false none = .ok d' ∧
        ∀ x y, d.pixel565? x y = d'.pixel565? x y) ∧
    ((⟨1, 1, .rgb565Le, ⟨#[52, 18]⟩, none⟩ : Surface).Valid →
      (⟨1, 1, .rgb565Le, ⟨#[0, 0]⟩, none⟩ : Surface).Valid →
      overruns ⟨1, 1, .rgb565Le, ⟨#[52, 18]⟩, none⟩ ⟨1, 1, .rgb565Le, ⟨#[0, 0]⟩, none⟩ false =
        false →
      copiesVerbatim ⟨1, 1, .rgb565Le, ⟨#[52, 18]⟩, none⟩ ⟨1, 1, .rgb565Le, ⟨#[0, 0]⟩, none⟩
        false none = true →
      PixelFormat.rgb565Le.isPalette = true →
      (∃ d', (⟨1, 1, .rgb565Le, ⟨#[52, 18]⟩, none⟩ : Surface).blit
          ⟨1, 1, .rgb565Le, ⟨#[0, 0]⟩, none⟩ false none = .ok d') ∧
        ∃ g, (⟨1, 1, .rgb565Le, ⟨#[52, 18]⟩, none⟩ : Surface).blit
          ⟨1, 1, .rgb565Le, ⟨#[0, 0]⟩, none⟩ false (some 0) = .error (.unsupportedFormat g)) :=
  have hk : ∀ x y, x < 1 → y < 1 →
      (⟨1, 1, .rgb565Le, ⟨#[52, 18]⟩, none⟩ : Surface).pixel565?
          (if stretches ⟨1, 1, .rgb565Le, ⟨#[52, 18]⟩, none⟩ ⟨1, 1, .rgb565Le, ⟨#[0, 0]⟩, none⟩
            false then x * 1 / 1 else x)
          (if stretches ⟨1, 1, .rgb565Le, ⟨#[52, 18]⟩, none⟩ ⟨1, 1, .rgb565Le, ⟨#[0, 0]⟩, none⟩
            false then y * 1 / 1 else y) ≠ some 0 := by
    intro x y hx hy
    obtain rfl : x = 0 := Nat.lt_one_iff.mp hx
    obtain rfl : y = 0 := Nat.lt_one_iff.mp hy
    decide
  ⟨hk, keyed_blit_eq_blit _ _ false 0 hk⟩

/-- **A key that matches nothing still changes a three-byte copy.** The plain blit of a one-pixel
three-byte surface onto another copies the bytes `7 7 7`; with key `1`, which is not the
pixel's colour `32`, the blit writes `0 4 0`, the colour's channels with their low bits
cleared. -/
theorem keyed_blit_drops_low_bits :
    (⟨1, 1, .rgb888, ⟨#[7, 7, 7]⟩, none⟩ : Surface).Valid ∧
      (⟨1, 1, .rgb888, ⟨#[0, 0, 0]⟩, none⟩ : Surface).Valid ∧
      (⟨1, 1, .rgb888, ⟨#[7, 7, 7]⟩, none⟩ : Surface).pixel565? 0 0 = some 32 ∧
      ((⟨1, 1, .rgb888, ⟨#[7, 7, 7]⟩, none⟩ : Surface).blit
          ⟨1, 1, .rgb888, ⟨#[0, 0, 0]⟩, none⟩ false none).toOption.map
          (·.data.data.toList) = some [7, 7, 7] ∧
      ((⟨1, 1, .rgb888, ⟨#[7, 7, 7]⟩, none⟩ : Surface).blit
          ⟨1, 1, .rgb888, ⟨#[0, 0, 0]⟩, none⟩ false (some 1)).toOption.map
          (·.data.data.toList) = some [0, 4, 0] := by
  decide

end Blit

end Raster
