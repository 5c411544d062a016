import Raster.Proofs.Convert

set_option autoImplicit false

/-!
# Scaling: the sampling map, and whole factors up and back

Stretching a length `s` to `d`, destination index `i` samples source index `⌊i · s / d⌋`. For
lengths in `1 ..= 4096` that map starts at `0`, never goes back and stays below `s`; the machine
forms the product in a 64-bit word and narrows the quotient to 16 bits, and neither step loses
anything (`scaledIndex_eq_words`). Growing (`s ≤ d`) it reaches every source index, source index
`j` first at `⌈j · d / s⌉` (`scaledIndex_ceil`); shrinking (`d ≤ s`) one destination step moves at
least one source index, so no source index is sampled twice (`scaledIndex_strictMono`).
`scaledIndex_sampling` gathers these facts.

A conversion samples source pixel `(⌊x · sw / tw⌋, ⌊y · sh / th⌋)` for target pixel
`(x, y)`. When the target is `kx` times wider and `ky` times taller, target column `x` samples
source column `⌊x / kx⌋`, so every source pixel becomes a `kx × ky` block; scaling that back
samples column `x · kx` of the blocks, the first column of block `x`, which holds source column
`x` (`scaledIndex_mul_left`, `scaledIndex_div_mul`). So scaling a packed surface up by whole factors
and back down gives every colour back, and a 16-bit surface byte for byte
(`Surface.upscale_then_downscale`).

The factors must be whole: from 2 to 3 columns and back, column 1 of the result samples column
`⌊1 · 3 / 2⌋ = 1` of the wide copy, which holds source column `⌊1 · 2 / 3⌋ = 0`.
-/

namespace Raster

/-! ## The sampling map along one axis -/

section Sampling

variable {s d : Nat}

@[simp] theorem scaledIndex_zero_left (s d : Nat) : scaledIndex 0 s d = 0 := by
  rw [scaledIndex, Nat.zero_mul, Nat.zero_div]

/-- A later destination index never samples an earlier source index. -/
theorem scaledIndex_monotone (s d : Nat) : Monotone fun i => scaledIndex i s d :=
  fun _ _ hij => Nat.div_le_div_right (Nat.mul_le_mul_right s hij)

/-- Shrinking, a later destination index samples a later source index. -/
theorem scaledIndex_strictMono (hd : 0 < d) (hds : d ≤ s) :
    StrictMono fun i => scaledIndex i s d := by
  intro i j hij
  -- one destination step moves `s ≥ d` along `i · s`, past the next multiple of `d`
  have hstep : i * s + d ≤ j * s := calc
    i * s + d ≤ i * s + s := Nat.add_le_add_left hds _
    _ = (i + 1) * s := (Nat.succ_mul i s).symm
    _ ≤ j * s := Nat.mul_le_mul_right s hij
  calc scaledIndex i s d < i * s / d + 1 := Nat.lt_succ_self _
    _ = (i * s + d) / d := (Nat.add_div_right _ hd).symm
    _ ≤ scaledIndex j s d := Nat.div_le_div_right hstep

/-- Growing, source index `j` is sampled by destination index `⌈j · d / s⌉`. -/
theorem scaledIndex_ceil (hs : 0 < s) (hsd : s ≤ d) (j : Nat) :
    scaledIndex ((j * d + s - 1) / s) s d = j := by
  have hd : 0 < d := Nat.lt_of_lt_of_le hs hsd
  -- the ceiling times `s` lies in `[j · d, j · d + s)`, and `s ≤ d` keeps it below `(j + 1) · d`
  have hlo : j * d ≤ (j * d + s - 1) / s * s := by
    have := Nat.lt_div_mul_add (a := j * d + s - 1) hs
    omega
  have hhi : (j * d + s - 1) / s * s ≤ j * d + s - 1 := Nat.div_mul_le_self _ _
  exact (Nat.div_eq_iff hd).2 ⟨hlo, by omega⟩

/-- Growing, every source index is sampled by some destination index. -/
theorem scaledIndex_surjOn (hsd : s ≤ d) :
    Set.SurjOn (fun i => scaledIndex i s d) (Set.Iio d) (Set.Iio s) := by
  intro j (hj : j < s)
  have hs : 0 < s := Nat.lt_of_le_of_lt (Nat.zero_le j) hj
  -- the ceiling stays inside the destination: `j · d + s ≤ (s - 1) · d + d = d · s`
  have hfit : j * d + s ≤ d * s := calc
    j * d + s ≤ (s - 1) * d + d := Nat.add_le_add (Nat.mul_le_mul_right d (by omega)) hsd
    _ = d * s := by
      rw [← Nat.succ_mul, Nat.succ_eq_add_one, Nat.sub_add_cancel hs, Nat.mul_comm]
  refine ⟨(j * d + s - 1) / s, ?_, scaledIndex_ceil hs hsd j⟩
  show _ < d
  rw [Nat.div_lt_iff_lt_mul hs]
  omega

/-- The sampling map as the machine computes it: the product in a 64-bit word, the quotient
narrowed to 16 bits. For lengths up to 4096 the product does not wrap and the quotient, at most
`s`, fits, so the words give the map itself. -/
theorem scaledIndex_eq_words (hs : s ≤ maxDimension) (hd : d ≤ maxDimension) {i : Nat}
    (hi : i < d) :
    ((i.toUInt64 * s.toUInt64) / d.toUInt64).toUInt16.toNat = scaledIndex i s d := by
  have hword : maxDimension < UInt64.size := by decide
  have hprod : i * s < 2 ^ 64 := calc
    i * s ≤ maxDimension * maxDimension := Nat.mul_le_mul (by omega) hs
    _ < 2 ^ 64 := by decide
  have hnarrow : i * s / d < 2 ^ 16 := calc
    i * s / d ≤ d * s / d := Nat.div_le_div_right (Nat.mul_le_mul_right s hi.le)
    _ = s := Nat.mul_div_cancel_left s (by omega)
    _ < 2 ^ 16 := Nat.lt_of_le_of_lt hs (by decide)
  rw [scaledIndex, Nat.toUInt64_eq, Nat.toUInt64_eq, Nat.toUInt64_eq, UInt64.toNat_toUInt16,
    UInt64.toNat_div, UInt64.toNat_mul, UInt64.toNat_ofNat_of_lt' (by omega),
    UInt64.toNat_ofNat_of_lt' (by omega), UInt64.toNat_ofNat_of_lt' (by omega),
    Nat.mod_eq_of_lt hprod, Nat.mod_eq_of_lt hnarrow]

/-- **The sampling map along one axis.** For lengths `s` and `d` in `1 ..= 4096`, the map
`i ↦ ⌊i · s / d⌋` never goes back, starts at `0` and sends `0 ..< d` into `0 ..< s`; the 64-bit
product narrowed to 16 bits computes it exactly. Growing (`s ≤ d`) it reaches every index of
`0 ..< s`, so every source column or row is shown; shrinking (`d ≤ s`) it is one-to-one on
`0 ..< d`, so none is shown twice. -/
theorem scaledIndex_sampling (hs : 0 < s) (hsmax : s ≤ maxDimension) (hd : 0 < d)
    (hdmax : d ≤ maxDimension) :
    Monotone (fun i => scaledIndex i s d) ∧ scaledIndex 0 s d = 0 ∧
      Set.MapsTo (fun i => scaledIndex i s d) (Set.Iio d) (Set.Iio s) ∧
      (∀ i < d, ((i.toUInt64 * s.toUInt64) / d.toUInt64).toUInt16.toNat = scaledIndex i s d) ∧
      (s ≤ d → Set.SurjOn (fun i => scaledIndex i s d) (Set.Iio d) (Set.Iio s)) ∧
      (d ≤ s → Set.InjOn (fun i => scaledIndex i s d) (Set.Iio d)) := by
  refine ⟨scaledIndex_monotone s d, scaledIndex_zero_left s d, ?_, ?_, scaledIndex_surjOn, ?_⟩
  · intro i (hi : i < d)
    exact Blit.scaledIndex_lt hi hs
  · intro i hi
    exact scaledIndex_eq_words hsmax hdmax hi
  · intro hds
    exact (scaledIndex_strictMono hd hds).injective.injOn

/-- Shrinking 4096 columns to 5 samples columns 0, 819, 1638, 2457 and 3276, each once. -/
theorem scaledIndex_sampling_wide :
    (List.range 5).map (fun i => scaledIndex i 4096 5) = [0, 819, 1638, 2457, 3276] ∧
      Set.InjOn (fun i => scaledIndex i 4096 5) (Set.Iio 5) :=
  ⟨by decide,
    (scaledIndex_sampling (by decide) (by decide) (by decide) (by decide)).2.2.2.2.2 (by decide)⟩

end Sampling

/-! ## Whole factors up and back -/

/-- Scaling a length `n` up `k` times, index `x` samples `⌊x / k⌋`. -/
theorem scaledIndex_div_mul {n : Nat} (hn : 0 < n) (k x : Nat) :
    scaledIndex x n (k * n) = x / k := by
  rw [scaledIndex, Nat.mul_div_mul_right _ _ hn]

/-- Scaling a length `k · n` down to `n`, index `x` samples `x · k`. -/
theorem scaledIndex_mul_left {n : Nat} (hn : 0 < n) (k x : Nat) :
    scaledIndex x (k * n) n = x * k := by
  rw [scaledIndex, ← Nat.mul_assoc, Nat.mul_div_cancel _ hn]

/-- From 2 to 3 columns and back, column 1 samples column 0. -/
example : scaledIndex (scaledIndex 1 3 2) 2 3 = 0 := by decide

/-- Two positive sides are taken as given. -/
theorem targetSize_some_some (sw sh : Nat) {w h : Nat} (hw : 0 < w) (hh : 0 < h) :
    targetSize sw sh (some w) (some h) = (w, h) := by
  simp only [targetSize, Option.filter_some, hw, hh, decide_true, if_true]

namespace Surface

variable {s : Surface}

/-- **A conversion to `kx` times the width and `ky` times the height** of a packed surface succeeds,
keeps the format, and repeats every source pixel over a `kx × ky` block. -/
theorem convert_mul_ok (hs : s.Valid) (hpk : s.format.isPalette = false) {kx ky : Nat}
    (hkx : 1 ≤ kx) (hky : 1 ≤ ky) (hw : kx * s.width ≤ maxDimension)
    (hh : ky * s.height ≤ maxDimension) :
    ∃ up, s.convert (some (kx * s.width)) (some (ky * s.height)) none = .ok up ∧ up.Valid ∧
      up.width = kx * s.width ∧ up.height = ky * s.height ∧ up.format = s.format ∧
      ∀ x y, x < up.width → y < up.height →
        up.pixel565? x y = s.pixel565? (x / kx) (y / ky) := by
  have hsw := hs.width_pos
  have hsh := hs.height_pos
  have hsize : targetSize s.width s.height (some (kx * s.width)) (some (ky * s.height)) =
      (kx * s.width, ky * s.height) :=
    targetSize_some_some _ _ (Nat.mul_pos (by omega) hsw) (Nat.mul_pos (by omega) hsh)
  have hfit : dimensionsFit (kx * s.width) (ky * s.height) = true := by
    simp only [dimensionsFit, Bool.and_eq_true, decide_eq_true_eq]
    exact ⟨⟨⟨Nat.mul_pos (by omega) hsw, hw⟩, Nat.mul_pos (by omega) hsh⟩, hh⟩
  obtain ⟨up, hup⟩ :
      ∃ up, s.convert (some (kx * s.width)) (some (ky * s.height)) none = .ok up :=
    (convert_ok_iff hs).mpr
      ⟨by rw [hsize]; exact hfit, .inr ⟨PixelFormat.ne_pal888_of_packed hpk, hpk⟩⟩
  obtain ⟨hupw, huph, hupf, hupv, hpix⟩ := convert_ok hs hup
  rw [hsize] at hupw huph
  refine ⟨up, hup, hupv, hupw, huph, hupf, fun x y hx hy => ?_⟩
  rw [hpix x y hx hy, hupw, huph, ← scaledIndex, ← scaledIndex, scaledIndex_div_mul hsw,
    scaledIndex_div_mul hsh]

/-- **Scaling up by whole factors and back gives the surface back.** For every valid surface of a
packed format and whole factors `kx, ky ≥ 1` that keep the wide copy within 4096 × 4096, scaling
to `kx` times the width and `ky` times the height and then back to the original size both
succeed; the result has the source's colour at every position, and is the source byte for byte
when its format is 16-bit. -/
theorem upscale_then_downscale (hs : s.Valid) (hpk : s.format.isPalette = false) (kx ky : Nat)
    (hkx : 1 ≤ kx) (hky : 1 ≤ ky) (hw : kx * s.width ≤ maxDimension)
    (hh : ky * s.height ≤ maxDimension) :
    ∃ up down, s.convert (some (kx * s.width)) (some (ky * s.height)) none = .ok up ∧
      up.convert (some s.width) (some s.height) none = .ok down ∧
      (∀ x y, down.pixel565? x y = s.pixel565? x y) ∧
      ((s.format = .rgb565Le ∨ s.format = .rgb565Be) → down = s) := by
  obtain ⟨up, hup, hupv, hupw, huph, hupf, hpix⟩ := convert_mul_ok hs hpk hkx hky hw hh
  have hsw := hs.width_pos
  have hsh := hs.height_pos
  -- scaling the wide copy back is a conversion to the original size in the same format
  have hsize := targetSize_some_some up.width up.height hsw hsh
  obtain ⟨down, hdown⟩ : ∃ down, up.convert (some s.width) (some s.height) none = .ok down :=
    (convert_ok_iff hupv).mpr ⟨by rw [hsize]; exact hs.dimensionsFit,
      .inr ⟨PixelFormat.ne_pal888_of_packed (hupf ▸ hpk), hupf ▸ hpk⟩⟩
  obtain ⟨hdw, hdh, hdf, hdv, hdpix⟩ := convert_ok hupv hdown
  rw [hsize] at hdw hdh
  rw [Option.getD_none] at hdf
  have hcolors : ∀ x y, down.pixel565? x y = s.pixel565? x y := by
    intro x y
    by_cases hin : x < s.width ∧ y < s.height
    · obtain ⟨hx, hy⟩ := hin
      -- column `x` of the result samples column `x · kx` of the copy, inside block `x`
      have hx' : x * kx < up.width := by
        rw [hupw, Nat.mul_comm kx]; exact Nat.mul_lt_mul_of_pos_right hx (by omega)
      have hy' : y * ky < up.height := by
        rw [huph, Nat.mul_comm ky]; exact Nat.mul_lt_mul_of_pos_right hy (by omega)
      rw [hdpix x y (hdw ▸ hx) (hdh ▸ hy), hdw, hdh, hupw, huph, ← scaledIndex,
        ← scaledIndex,
        scaledIndex_mul_left hsw, scaledIndex_mul_left hsh, hpix _ _ hx' hy',
        Nat.mul_div_cancel _ (by omega), Nat.mul_div_cancel _ (by omega)]
    · have hout : s.width ≤ x ∨ s.height ≤ y := by omega
      rw [pixel565?_eq_none hdv (by rw [hdw, hdh]; exact hout), pixel565?_eq_none hs hout]
  refine ⟨up, down, hup, hdown, hcolors, fun h565 => ?_⟩
  exact eq_of_pixel565? hdv hs hdw hdh (hdf.trans hupf) (hdf.trans hupf ▸ h565) hcolors

/-- A 16-bit pixel doubled in both directions and halved again is the pixel. -/
theorem upscale_then_downscale_doubled :
    (⟨1, 1, .rgb565Be, ⟨#[248, 31]⟩, none⟩ : Surface).Valid ∧
      ∃ up down, (⟨1, 1, .rgb565Be, ⟨#[248, 31]⟩, none⟩ : Surface).convert (some (2 * 1))
          (some (2 * 1)) none = .ok up ∧
        up.convert (some 1) (some 1) none = .ok down ∧
        down = ⟨1, 1, .rgb565Be, ⟨#[248, 31]⟩, none⟩ := by
  have hs : (⟨1, 1, .rgb565Be, ⟨#[248, 31]⟩, none⟩ : Surface).Valid := by decide
  obtain ⟨up, down, hup, hdown, -, hsame⟩ :=
    upscale_then_downscale hs rfl 2 2 (by decide) (by decide) (by decide) (by decide)
  exact ⟨hs, up, down, hup, hdown, hsame (.inr rfl)⟩

end Surface

end Raster
