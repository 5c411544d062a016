import Raster.Proofs.Cache
import Raster.Proofs.Raw565
import Raster.Proofs.Scaling

set_option autoImplicit false

/-!
# Fitting images as they are cached

A fitted lookup loads an image on a miss and brings it to the requested size before caching it
(`ImageCache.fit`): an image that already has the size is kept, any other is converted to the
size in its own format, and an image whose conversion fails is kept at its own size. The failure
is never reported; the lookup gives the image it caches.

When a conversion to a size from 1 to 4096 in the image's own format succeeds is known exactly
(`Surface.convert_ok_iff`): at another size only packed formats can be written pixel by pixel. So
a fitted image has the requested size exactly when the loaded one had it already or is packed,
and it then shows the loaded image sampled at the nearest pixels, while an indexed image of
another size is cached as it was loaded (`ImageCache.fitted_miss_caches_fit`).
-/

namespace Raster

namespace ImageCache

variable {w h : Nat} {I : Surface}

/-! ## Fitting one image -/

/-- An image that already has the size is kept. -/
theorem fit_of_size (hsize : I.width = w ∧ I.height = h) : fit w h I = I := by
  rw [fit, if_pos (by simp [hsize.1, hsize.2])]

/-- An image of another size is replaced by its conversion to that size. -/
theorem fit_of_convert_ok (hsize : ¬(I.width = w ∧ I.height = h)) {t : Surface}
    (hconv : I.convert (some w) (some h) none = .ok t) : fit w h I = t := by
  unfold fit
  rw [if_neg (by simpa using hsize)]
  simp only [hconv]

/-- An image of another size whose conversion fails is kept. -/
theorem fit_of_convert_error (hsize : ¬(I.width = w ∧ I.height = h)) {e : Error}
    (hconv : I.convert (some w) (some h) none = .error e) : fit w h I = I := by
  unfold fit
  rw [if_neg (by simpa using hsize)]
  simp only [hconv]

/-- A valid image's conversion to a size from 1 to 4096 succeeds exactly when the size is its own
or its format is packed. -/
theorem convert_fit_ok_iff (hI : I.Valid) (hfit : dimensionsFit w h = true) :
    (∃ t, I.convert (some w) (some h) none = .ok t) ↔
      (I.width = w ∧ I.height = h) ∨ I.format.isPalette = false := by
  obtain ⟨hw, -, hh, -⟩ := dimensionsFit_iff.mp hfit
  have htarget := targetSize_some_some I.width I.height (w := w) (h := h) hw hh
  rw [Surface.convert_ok_iff hI, htarget, Option.getD_none]
  constructor
  · rintro ⟨-, ⟨hsw, hsh, -⟩ | ⟨-, hpk⟩⟩
    · exact .inl ⟨hsw.symm, hsh.symm⟩
    · exact .inr hpk
  · rintro (⟨hsw, hsh⟩ | hpk)
    · exact ⟨hfit, .inl ⟨hsw.symm, hsh.symm, rfl⟩⟩
    · exact ⟨hfit, .inr ⟨PixelFormat.ne_pal888_of_packed hpk, hpk⟩⟩

/-- A packed image of another size is fitted by converting it, which succeeds. -/
theorem fit_of_packed (hI : I.Valid) (hfit : dimensionsFit w h = true)
    (hsize : ¬(I.width = w ∧ I.height = h)) (hpk : I.format.isPalette = false) :
    ∃ t, I.convert (some w) (some h) none = .ok t ∧ fit w h I = t := by
  obtain ⟨t, hconv⟩ := (convert_fit_ok_iff hI hfit).mpr (.inr hpk)
  exact ⟨t, hconv, fit_of_convert_ok hsize hconv⟩

/-- An indexed image of another size is kept as it was loaded: its conversion fails. -/
theorem fit_of_palette (hI : I.Valid) (hfit : dimensionsFit w h = true)
    (hsize : ¬(I.width = w ∧ I.height = h)) (hp : I.format.isPalette = true) : fit w h I = I := by
  cases hconv : I.convert (some w) (some h) none with
  | ok t =>
    -- a successful conversion would need the image's own size or a packed format
    have hcases := (convert_fit_ok_iff hI hfit).mp ⟨t, hconv⟩
    rw [hp] at hcases
    simp only [Bool.true_eq_false, or_false] at hcases
    exact absurd hcases hsize
  | error e => exact fit_of_convert_error hsize hconv

/-- **When a fitted image has the requested size**: for a valid image and a size from 1 to 4096,
exactly when the image had it already or is packed. -/
theorem fit_size_iff (hI : I.Valid) (hfit : dimensionsFit w h = true) :
    ((fit w h I).width = w ∧ (fit w h I).height = h) ↔
      (I.width = w ∧ I.height = h) ∨ I.format.isPalette = false := by
  by_cases hsize : I.width = w ∧ I.height = h
  · rw [fit_of_size hsize]
    exact ⟨.inl, fun _ => hsize⟩
  by_cases hpk : I.format.isPalette = false
  · obtain ⟨t, hconv, hft⟩ := fit_of_packed hI hfit hsize hpk
    obtain ⟨htw, hth, -⟩ := Surface.convert_ok hI hconv
    obtain ⟨hw, -, hh, -⟩ := dimensionsFit_iff.mp hfit
    rw [hft, htw, hth, targetSize_some_some _ _ hw hh]
    exact ⟨fun _ => .inr hpk, fun _ => ⟨rfl, rfl⟩⟩
  · rw [fit_of_palette hI hfit hsize (by simpa using hpk)]
    exact ⟨fun h' => absurd h' hsize, fun h' => h'.elim (absurd · hsize) (absurd · hpk)⟩

/-- **A fitted image of the requested size samples the loaded one** at the nearest pixels:
pixel `(x, y)` shows pixel `(⌊x · sw / w⌋, ⌊y · sh / h⌋)` of the loaded `sw × sh` image. -/
theorem fit_pixel565? (hI : I.Valid) (hfit : dimensionsFit w h = true)
    (hfitted : (fit w h I).width = w ∧ (fit w h I).height = h) {x y : Nat} (hx : x < w)
    (hy : y < h) :
    (fit w h I).pixel565? x y = I.pixel565? (x * I.width / w) (y * I.height / h) := by
  by_cases hsize : I.width = w ∧ I.height = h
  · -- kept as it is: at its own size the sampled pixel is the pixel itself
    rw [fit_of_size hsize, hsize.1, hsize.2, Nat.mul_div_cancel _ (Nat.zero_lt_of_lt hx),
      Nat.mul_div_cancel _ (Nat.zero_lt_of_lt hy)]
  · have hpk : I.format.isPalette = false :=
      ((fit_size_iff hI hfit).mp hfitted).resolve_left hsize
    obtain ⟨t, hconv, hft⟩ := fit_of_packed hI hfit hsize hpk
    rw [hft] at hfitted ⊢
    obtain ⟨-, -, -, -, hpix⟩ := Surface.convert_ok hI hconv
    rw [hpix x y (hfitted.1 ▸ hx) (hfitted.2 ▸ hy), hfitted.1, hfitted.2]

/-! ## A fitted miss -/

variable {c : ImageCache} {k : String} {load : Unit → Except Error Surface}

/-- On a miss whose loader gives `I`, a fitted lookup gives and caches `I` fitted. -/
theorem getOrInsertFitted_miss (hmiss : c.get? k = none) (hload : load () = .ok I) :
    c.getOrInsertFitted k w h load =
      (⟨.ok (fit w h I), true⟩, { c with images := c.images ++ [(k, fit w h I)] }) := by
  simp only [getOrInsertFitted, getOrInsertWith, hmiss, hload, Except.map]

theorem get?_getOrInsertFitted_miss (hmiss : c.get? k = none) (hload : load () = .ok I) :
    (c.getOrInsertFitted k w h load).2.get? k = some (fit w h I) := by
  rw [getOrInsertFitted_miss hmiss hload]
  show (c.images ++ [(k, fit w h I)]).lookup k = some (fit w h I)
  rw [lookup_append_singleton hmiss, if_pos rfl]

/-- **A fitted miss caches the fitted image.** On a miss whose loader gives `I`, a fitted lookup
runs the loader, gives `I` fitted to `w × h` and caches it under the key: `I` itself when it has
that size, its conversion to that size when the conversion succeeds, and `I` when it fails, so
no resizing error is ever reported. For a valid `I` and sides from 1 to 4096, the cached image
has the requested size exactly when `I` had it already or is packed, and then shows `I` sampled
at the nearest pixels; an indexed image of another size is cached as it was loaded. -/
theorem fitted_miss_caches_fit (hmiss : c.get? k = none) (hload : load () = .ok I) :
    c.getOrInsertFitted k w h load =
        (⟨.ok (fit w h I), true⟩, { c with images := c.images ++ [(k, fit w h I)] }) ∧
      (c.getOrInsertFitted k w h load).2.get? k = some (fit w h I) ∧
      (I.width = w ∧ I.height = h → fit w h I = I) ∧
      (¬(I.width = w ∧ I.height = h) →
        ∀ t, I.convert (some w) (some h) none = .ok t → fit w h I = t) ∧
      (¬(I.width = w ∧ I.height = h) →
        ∀ e, I.convert (some w) (some h) none = .error e → fit w h I = I) ∧
      (I.Valid → 1 ≤ w → w ≤ 4096 → 1 ≤ h → h ≤ 4096 →
        (((fit w h I).width = w ∧ (fit w h I).height = h) ↔
          (I.width = w ∧ I.height = h) ∨ I.format.isPalette = false) ∧
        ((fit w h I).width = w ∧ (fit w h I).height = h → ∀ x y, x < w → y < h →
          (fit w h I).pixel565? x y = I.pixel565? (x * I.width / w) (y * I.height / h)) ∧
        (I.format.isPalette = true → ¬(I.width = w ∧ I.height = h) → fit w h I = I)) := by
  refine ⟨getOrInsertFitted_miss hmiss hload, get?_getOrInsertFitted_miss hmiss hload,
    fit_of_size, fun hsize _ hconv => fit_of_convert_ok hsize hconv,
    fun hsize _ hconv => fit_of_convert_error hsize hconv, fun hI hw1 hw hh1 hh => ?_⟩
  have hfit : dimensionsFit w h = true := dimensionsFit_iff.mpr ⟨hw1, hw, hh1, hh⟩
  exact ⟨fit_size_iff hI hfit, fun hfitted _ _ hx hy => fit_pixel565? hI hfit hfitted hx hy,
    fun hp hsize => fit_of_palette hI hfit hsize hp⟩

/-- A two-pixel indexed image fitted to one pixel is cached at its own size. -/
theorem fitted_miss_caches_fit_indexed :
    (⟨2, 1, .pal565Le, ⟨#[0, 0, 0, 0]⟩, some ⟨Array.replicate 512 0⟩⟩ : Surface).Valid ∧
      (({} : ImageCache).getOrInsertFitted "icon" 1 1
          fun _ => .ok ⟨2, 1, .pal565Le, ⟨#[0, 0, 0, 0]⟩, some ⟨Array.replicate 512 0⟩⟩).2.get?
        "icon" = some ⟨2, 1, .pal565Le, ⟨#[0, 0, 0, 0]⟩, some ⟨Array.replicate 512 0⟩⟩ := by
  have hI : (⟨2, 1, .pal565Le, ⟨#[0, 0, 0, 0]⟩, some ⟨Array.replicate 512 0⟩⟩ : Surface).Valid := by
    decide +kernel
  obtain ⟨-, hget, -, -, -, hvalid⟩ := @fitted_miss_caches_fit 1 1
    ⟨2, 1, .pal565Le, ⟨#[0, 0, 0, 0]⟩, some ⟨Array.replicate 512 0⟩⟩ {} "icon"
    (fun _ => .ok ⟨2, 1, .pal565Le, ⟨#[0, 0, 0, 0]⟩, some ⟨Array.replicate 512 0⟩⟩) rfl rfl
  obtain ⟨-, -, hkept⟩ := hvalid hI (by decide) (by decide) (by decide) (by decide)
  rw [hkept (by decide) (by decide)] at hget
  exact ⟨hI, hget⟩

end ImageCache

end Raster
