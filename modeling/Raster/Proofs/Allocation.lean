import Raster.Proofs.Raw565

set_option autoImplicit false

/-!
# Allocating surfaces

Every buffer a surface holds comes from an allocator, and `Surface.create` is the only place that
asks one. `create_run` states what it does for every allocator and every history of earlier
requests: the dimensions are checked, the pixel buffer is requested, then for an indexed format
the palette. A refused buffer, or one of another length, ends the surface with the error of its
whole size, and nothing after it is requested. Whatever the allocator, a surface `create` gives is
valid and has the requested shape (`create_ok`).

A sound allocator grants every request a buffer of the requested length, holding anything. Through
one, `create` asks for what the general heap is asked for and gives a surface that differs from the
general heap's in its buffers' contents only (`create_sound`). No operation reads those contents
before writing them: a blit without a key writes every destination byte, and its verbatim path
takes the source's palette (`blit_congr_dst`). So a conversion through a sound allocator is the
conversion on the general heap, down to the lengths it requests (`convertIn_sound`).
-/

namespace Raster

/-! ## Running allocating computations -/

/-- A computation after an allocating one starts from the first one's log, or does not run. -/
theorem run_bind {α β : Type} (x : ExceptT Error Alloc α) (f : α → ExceptT Error Alloc β)
    (log : List Nat) :
    (x >>= f).run.run log =
      match x.run.run log with
      | (.ok a, log') => (f a).run.run log'
      | (.error e, log') => (.error e, log') := by
  simp only [ExceptT.run_bind, StateT.run_bind]
  obtain ⟨r, log'⟩ := x.run.run log
  cases r <;> rfl

/-- A check that cannot allocate leaves the log alone. -/
theorem run_checked_bind {α β : Type} (r : Except Error α) (f : α → ExceptT Error Alloc β)
    (log : List Nat) :
    (ExceptT.mk (pure r) >>= f).run.run log =
      match r with
      | .ok a => (f a).run.run log
      | .error e => (.error e, log) := by
  cases r <;> rfl

/-- A request that cannot fail by itself hands its answer and its log on. -/
theorem run_lift_bind {α β : Type} (x : Alloc α) (f : α → ExceptT Error Alloc β)
    (log : List Nat) :
    ((monadLift x : ExceptT Error Alloc α) >>= f).run.run log = (f (x log).1).run.run (x log).2 := by
  simp only [ExceptT.run_bind, ExceptT.run_monadLift, StateT.run_bind, StateT.run_map]
  rfl

/-! ## Requests -/

namespace Allocator

/-- A request is refused exactly when the allocator gives nothing or a buffer of another length. -/
theorem request_fst_eq_none_iff (a : Allocator) (len : Nat) (log : List Nat) :
    (a.request len log).1 = none ↔ ∀ b, a.grant log.length len = some b → b.size ≠ len := by
  simp only [request, Option.filter_eq_none_iff, beq_iff_eq]

/-- A request is granted the buffer the allocator gives exactly when it has the requested
length. -/
theorem request_fst_eq_some_iff (a : Allocator) (len : Nat) (log : List Nat) (b : ByteArray) :
    (a.request len log).1 = some b ↔ a.grant log.length len = some b ∧ b.size = len := by
  simp only [request, Option.filter_eq_some_iff, beq_iff_eq]

theorem size_of_request {a : Allocator} {len : Nat} {log log' : List Nat} {b : ByteArray}
    (h : a.request len log = (some b, log')) : b.size = len :=
  ((request_fst_eq_some_iff a len log b).mp (congrArg Prod.fst h)).2

@[simp] theorem log_request (a : Allocator) (len : Nat) (log : List Nat) :
    (a.request len log).2 = log ++ [len] := rfl

/-- **A sound allocator** grants every request a buffer of the requested length, whatever the
buffer holds. -/
def Sound (a : Allocator) : Prop :=
  ∀ n len, ∃ b, a.grant n len = some b ∧ b.size = len

theorem request_of_sound {a : Allocator} (ha : a.Sound) (len : Nat) (log : List Nat) :
    ∃ b, b.size = len ∧ a.request len log = (some b, log ++ [len]) := by
  obtain ⟨b, hb, hsize⟩ := ha log.length len
  exact ⟨b, hsize, Prod.ext ((request_fst_eq_some_iff a len log b).mpr ⟨hb, hsize⟩) rfl⟩

theorem system_sound : system.Sound :=
  fun _ len => ⟨Bytes.zeros len, rfl, Bytes.size_zeros len⟩

/-- Buffers filled with a byte other than zero are still sound. -/
theorem filled_sound (v : UInt8) : (filled v).Sound :=
  fun _ len => ⟨Bytes.replicate len v, rfl, Bytes.size_cycle _ len Nat.zero_lt_one⟩

end Allocator

/-! ## Making a surface -/

namespace Surface

/-- A surface is valid as soon as its size fits, its buffer holds its rows, and its palette fits
its format. -/
theorem valid_mk {w h : Nat} {f : PixelFormat} {data : ByteArray} {pal : Option ByteArray}
    (hfit : dimensionsFit w h = true) (hdata : data.size = h * (w * f.bytesPerPixel))
    (hpal : paletteFault f pal = none) : (⟨w, h, f, data, pal⟩ : Surface).Valid := by
  have hpos : 0 < h * (w * f.bytesPerPixel) := by
    rw [dimensionsFit_iff] at hfit
    exact Nat.mul_pos (by omega) (Nat.mul_pos (by omega) (PixelFormat.bytesPerPixel_pos f))
  exact valid_iff.mpr ⟨by rw [hdata]; exact hpos, hfit, hdata, hpal⟩

/-- **What `create` does, for every allocator.** The dimensions are checked first; then the
pixel buffer is requested and, for an indexed format, the palette. A refusal ends the surface
with the error of its whole size. -/
theorem create_run (a : Allocator) (w h : Nat) (f : PixelFormat) (log : List Nat) :
    (create a w h f).run.run log =
      if dimensionsFit w h then
        match a.request (h * (w * f.bytesPerPixel)) log with
        | (none, log₁) =>
          (.error (.allocationFailure (h * (w * f.bytesPerPixel) + f.paletteLen)), log₁)
        | (some data, log₁) =>
          if f.isPalette then
            match a.request f.paletteLen log₁ with
            | (none, log₂) =>
              (.error (.allocationFailure (h * (w * f.bytesPerPixel) + f.paletteLen)), log₂)
            | (some pal, log₂) => (.ok ⟨w, h, f, data, some pal⟩, log₂)
          else (.ok ⟨w, h, f, data, none⟩, log₁)
      else (.error (.invalidSurface (.dimensions w h)), log) := by
  unfold create checkDimensions
  by_cases hd : dimensionsFit w h = true
  · rw [if_pos hd, if_pos hd, run_checked_bind]
    dsimp only
    rw [run_lift_bind]
    -- the pixel buffer's answer, then, for an indexed format, the palette's
    rcases a.request (h * (w * f.bytesPerPixel)) log with ⟨_ | data, log₁⟩
    · rfl
    · dsimp only
      cases f.isPalette
      · rfl
      · rw [if_pos rfl, run_lift_bind]
        rcases a.request f.paletteLen log₁ with ⟨_ | pal, log₂⟩ <;> rfl
  · rw [if_neg hd, if_neg hd, run_checked_bind]

variable {a : Allocator} {w h : Nat} {f : PixelFormat} {log log' : List Nat}

/-- **A surface `create` gives is valid** and has the requested shape, whatever the allocator:
a buffer of the wrong length never gets into a surface. -/
theorem create_ok {s : Surface} (hrun : (create a w h f).run.run log = (.ok s, log')) :
    s.width = w ∧ s.height = h ∧ s.format = f ∧ s.Valid := by
  rw [create_run] at hrun
  split at hrun
  · rename_i hfit
    rcases h1 : a.request (h * (w * f.bytesPerPixel)) log with ⟨_ | data, log₁⟩
    · rw [h1] at hrun
      cases hrun
    · rw [h1] at hrun
      have hdata := Allocator.size_of_request h1
      dsimp only at hrun
      cases hp : f.isPalette
      · rw [hp] at hrun
        cases hrun
        exact ⟨rfl, rfl, rfl, valid_mk hfit hdata (by simp [paletteFault, hp])⟩
      · rw [hp, if_pos rfl] at hrun
        rcases h2 : a.request f.paletteLen log₁ with ⟨_ | pal, log₂⟩
        · rw [h2] at hrun
          cases hrun
        · rw [h2] at hrun
          cases hrun
          have hpal := Allocator.size_of_request h2
          exact ⟨rfl, rfl, rfl, valid_mk hfit hdata (by simp [paletteFault, hp, hpal])⟩
  · cases hrun

/-- **Through a sound allocator `create` is the general heap's `create` up to contents**: it
requests the same lengths and gives a surface of the requested shape whose buffers have the
right lengths and hold whatever the allocator put there. -/
theorem create_sound (ha : a.Sound) (w h : Nat) (f : PixelFormat) (log : List Nat) :
    ∃ data pal, data.size = h * (w * f.bytesPerPixel) ∧ pal.size = f.paletteLen ∧
      (create a w h f).run.run log =
        if dimensionsFit w h then
          if f.isPalette then
            (.ok ⟨w, h, f, data, some pal⟩, log ++ [h * (w * f.bytesPerPixel), f.paletteLen])
          else (.ok ⟨w, h, f, data, none⟩, log ++ [h * (w * f.bytesPerPixel)])
        else (.error (.invalidSurface (.dimensions w h)), log) := by
  obtain ⟨data, hdata, h1⟩ := Allocator.request_of_sound ha (h * (w * f.bytesPerPixel)) log
  obtain ⟨pal, hpal, h2⟩ :=
    Allocator.request_of_sound ha f.paletteLen (log ++ [h * (w * f.bytesPerPixel)])
  refine ⟨data, pal, hdata, hpal, ?_⟩
  rw [create_run, h1]
  dsimp only
  rw [h2, List.append_assoc, List.singleton_append]

/-- **A refused pixel buffer ends the surface**: the error gives the whole size the surface asked
for, and the palette is never requested. -/
theorem create_of_refused_pixels (hfit : dimensionsFit w h = true)
    (hno : (a.request (h * (w * f.bytesPerPixel)) log).1 = none) :
    (create a w h f).run.run log =
      (.error (.allocationFailure (h * (w * f.bytesPerPixel) + f.paletteLen)),
        log ++ [h * (w * f.bytesPerPixel)]) := by
  have hreq : a.request (h * (w * f.bytesPerPixel)) log =
      (none, log ++ [h * (w * f.bytesPerPixel)]) := Prod.ext hno rfl
  rw [create_run, if_pos hfit, hreq]

/-- A refused palette ends the surface after its pixel buffer, with the same error. -/
theorem create_of_refused_palette (hfit : dimensionsFit w h = true) {data : ByteArray}
    (hdata : (a.request (h * (w * f.bytesPerPixel)) log).1 = some data) (hp : f.isPalette = true)
    (hno : (a.request f.paletteLen (log ++ [h * (w * f.bytesPerPixel)])).1 = none) :
    (create a w h f).run.run log =
      (.error (.allocationFailure (h * (w * f.bytesPerPixel) + f.paletteLen)),
        log ++ [h * (w * f.bytesPerPixel), f.paletteLen]) := by
  have h1 : a.request (h * (w * f.bytesPerPixel)) log =
      (some data, log ++ [h * (w * f.bytesPerPixel)]) := Prod.ext hdata rfl
  have h2 : a.request f.paletteLen (log ++ [h * (w * f.bytesPerPixel)]) =
      (none, log ++ [h * (w * f.bytesPerPixel), f.paletteLen]) := by
    refine Prod.ext hno ?_
    rw [Allocator.log_request, List.append_assoc, List.singleton_append]
  rw [create_run, if_pos hfit, h1]
  dsimp only
  rw [hp, if_pos rfl, h2]

end Surface

/-! ## Blitting into a fresh surface -/

namespace Blit

variable (scale : Bool) (src : Surface) {w h : Nat} {f : PixelFormat}
  (data data' : ByteArray) (pal pal' : Option ByteArray)

/-- Without a key, a pixel's bytes are the sampled colour's cell: the destination's old bytes are
never read. -/
theorem Plan.pushPixel_congr_dst (base x y : Nat) (acc : ByteArray) :
    (⟨scale, none⟩ : Plan).pushPixel src ⟨w, h, f, data, pal⟩ base x y acc =
      (⟨scale, none⟩ : Plan).pushPixel src ⟨w, h, f, data', pal'⟩ base x y acc := rfl

theorem Plan.paintRow_congr_dst (base y : Nat) :
    ∀ n x acc, (⟨scale, none⟩ : Plan).paintRow src ⟨w, h, f, data, pal⟩ base y n x acc =
      (⟨scale, none⟩ : Plan).paintRow src ⟨w, h, f, data', pal'⟩ base y n x acc
  | 0, _, _ => rfl
  | n + 1, x, acc => by
    rw [paintRow, paintRow, Plan.pushPixel_congr_dst scale src data data' pal pal',
      Plan.paintRow_congr_dst base y n]

theorem Plan.paint_congr_dst :
    ∀ n y acc, (⟨scale, none⟩ : Plan).paint src ⟨w, h, f, data, pal⟩ n y acc =
      (⟨scale, none⟩ : Plan).paint src ⟨w, h, f, data', pal'⟩ n y acc
  | 0, _, _ => rfl
  | n + 1, y, acc => by
    rw [paint, paint, Plan.paintRow_congr_dst scale src data data' pal pal',
      Plan.paint_congr_dst n]
    rfl

/-- **The general path without a key depends on the destination's shape only.** -/
theorem Plan.render_congr_dst :
    (⟨scale, none⟩ : Plan).render src ⟨w, h, f, data, pal⟩ =
      (⟨scale, none⟩ : Plan).render src ⟨w, h, f, data', pal'⟩ := by
  unfold render
  rw [Plan.paint_congr_dst scale src data data' pal pal']
  rfl

/-- **A blit without a key never reads the destination's contents**: into two valid destinations
of one shape it gives the same result. The general path writes every byte, and the verbatim path
takes the source's bytes and palette. -/
theorem blit_congr_dst {dst dst' : Surface} (hd : dst.Valid) (hd' : dst'.Valid)
    (hw : dst.width = dst'.width) (hh : dst.height = dst'.height) (hf : dst.format = dst'.format)
    (scale : Bool) : src.blit dst scale none = src.blit dst' scale none := by
  cases hsrc : src.fault? with
  | some e => rw [blit_of_fault_src hsrc, blit_of_fault_src hsrc]
  | none =>
    obtain ⟨w, h, f, data, pal⟩ := dst
    obtain ⟨w', h', f', data', pal'⟩ := dst'
    dsimp only at hw hh hf
    subst hw hh hf
    rw [blit_of_valid hsrc hd, blit_of_valid hsrc hd']
    -- the checks read the shape only, and the pixel-by-pixel path keeps the palette only of a
    -- destination it can paint, which has none
    simp only [overruns, copiesVerbatim, stretches, plan, Surface.stride]
    rw [Plan.render_congr_dst _ src data data' pal pal']
    cases hpacked : f.isPalette
    · have hp : pal = none := hd.palette_eq_none hpacked
      have hp' : pal' = none := hd'.palette_eq_none hpacked
      subst hp hp'
      rfl
    · simp only [↓reduceIte]

end Blit

/-! ## Converting through an allocator -/

namespace Surface

/-- **What a conversion does, for every allocator**: the source is validated, the target is
made, and the source is blitted into it, stretching. -/
theorem convertIn_run (a : Allocator) (src : Surface) (width height : Option Nat)
    (format : Option PixelFormat) (log : List Nat) :
    (src.convertIn a width height format).run.run log =
      match src.validate with
      | .error e => (.error e, log)
      | .ok _ =>
        match (create a (targetSize src.width src.height width height).1
            (targetSize src.width src.height width height).2
            (format.getD src.format)).run.run log with
        | (.ok d, log') => (src.blit d true none, log')
        | (.error e, log') => (.error e, log') := by
  unfold convertIn
  rw [run_checked_bind]
  cases src.validate with
  | error e => rfl
  | ok u =>
    dsimp only
    rw [run_bind]
    rcases (create a _ _ _).run.run log with ⟨_ | d, log'⟩ <;> rfl

/-- **Converting through a sound allocator is converting on the general heap**, result and
requested lengths alike: the target's contents are never read before they are written. -/
theorem convertIn_sound {a : Allocator} (ha : a.Sound) (src : Surface) (width height : Option Nat)
    (format : Option PixelFormat) :
    runAlloc (src.convertIn a width height format) =
      runAlloc (src.convertIn .system width height format) := by
  unfold runAlloc
  rw [convertIn_run, convertIn_run]
  cases src.validate with
  | error e => rfl
  | ok u =>
    dsimp only
    obtain ⟨data, pal, hdata, hpal, hrun⟩ := create_sound ha
      (targetSize src.width src.height width height).1
      (targetSize src.width src.height width height).2 (format.getD src.format) []
    obtain ⟨data', pal', hdata', hpal', hrun'⟩ := create_sound Allocator.system_sound
      (targetSize src.width src.height width height).1
      (targetSize src.width src.height width height).2 (format.getD src.format) []
    rw [hrun, hrun']
    -- both targets are valid and of one shape, so the blit cannot tell them apart
    split_ifs with hfit hp
    · dsimp only
      rw [Blit.blit_congr_dst src
        (valid_mk hfit hdata (show paletteFault _ (some pal) = none by simp [paletteFault, hp, hpal]))
        (valid_mk hfit hdata' (show paletteFault _ (some pal') = none by
          simp [paletteFault, hp, hpal'])) rfl rfl rfl]
    · dsimp only
      rw [Blit.blit_congr_dst src
        (valid_mk hfit hdata (show paletteFault _ none = none by simp [paletteFault, hp]))
        (valid_mk hfit hdata' (show paletteFault _ none = none by simp [paletteFault, hp]))
        rfl rfl rfl]
    · rfl

/-- A conversion whose target cannot be made fails with the error of making it, after the
requests making it took. -/
theorem convertIn_of_create_error {a : Allocator} {src : Surface} {width height : Option Nat}
    {format : Option PixelFormat} {log log' : List Nat} {e : Error} (hs : src.Valid)
    (hc : (create a (targetSize src.width src.height width height).1
      (targetSize src.width src.height width height).2 (format.getD src.format)).run.run log =
        (.error e, log')) :
    (src.convertIn a width height format).run.run log = (.error e, log') := by
  rw [convertIn_run, validate_of_valid hs]
  dsimp only
  rw [hc]

variable {a : Allocator} {src : Surface} {width height : Option Nat} {format : Option PixelFormat}
  {w h : Nat} {f : PixelFormat}

/-- **A refused target buffer ends a conversion** with the target's whole size, and nothing more
is requested. -/
theorem convertIn_of_refused_pixels (hs : src.Valid)
    (ht : targetSize src.width src.height width height = (w, h)) (hf : format.getD src.format = f)
    (hfit : dimensionsFit w h = true)
    (hno : ∀ buf, a.grant 0 (h * (w * f.bytesPerPixel)) = some buf →
      buf.size ≠ h * (w * f.bytesPerPixel)) :
    runAlloc (src.convertIn a width height format) =
      (.error (.allocationFailure (h * (w * f.bytesPerPixel) + f.paletteLen)),
        [h * (w * f.bytesPerPixel)]) := by
  refine convertIn_of_create_error hs ?_
  rw [ht, hf]
  exact create_of_refused_pixels hfit ((Allocator.request_fst_eq_none_iff _ _ _).mpr hno)

/-- **A refused palette ends a conversion to an indexed format** after its pixel buffer, with
the same error. -/
theorem convertIn_of_refused_palette (hs : src.Valid)
    (ht : targetSize src.width src.height width height = (w, h)) (hf : format.getD src.format = f)
    (hfit : dimensionsFit w h = true) {data : ByteArray}
    (hdata : a.grant 0 (h * (w * f.bytesPerPixel)) = some data)
    (hsize : data.size = h * (w * f.bytesPerPixel)) (hp : f.isPalette = true)
    (hno : ∀ pal, a.grant 1 f.paletteLen = some pal → pal.size ≠ f.paletteLen) :
    runAlloc (src.convertIn a width height format) =
      (.error (.allocationFailure (h * (w * f.bytesPerPixel) + f.paletteLen)),
        [h * (w * f.bytesPerPixel), f.paletteLen]) := by
  refine convertIn_of_create_error hs ?_
  rw [ht, hf]
  exact create_of_refused_palette hfit
    ((Allocator.request_fst_eq_some_iff _ _ _ _).mpr ⟨hdata, hsize⟩) hp
    ((Allocator.request_fst_eq_none_iff _ _ _).mpr hno)

end Surface

end Raster
