import Raster.Proofs.PngFrame
import Raster.Proofs.Allocation

set_option autoImplicit false

/-!
# Decoding through an allocator and under bounds

Both readers take the same course around their one allocation (`Reader.run`): the input is read
as far as the image's size, the caller's bounds are checked against that size and the bytes the
decode counts, the RGB565 little-endian surface is allocated, and the reader fills it. The raw565
reader fills it with the rest of its input, the PNG reader with the frame the PNG decoder gives.
Each reader is proved equal to that course (`Raw565.decodeIn_run`, `decodePngIn_run`), and what
follows is proved once, of the course, from a few facts about each reader's filling:

* a reader that makes a valid surface of its size from one (`Reader.Lawful`) gives only valid
  surfaces, and never reports a breach of bounds it was not given;
* bounds either change nothing or refuse with a breach before anything is requested, and they
  keep a decode exactly when they admit its size and the bytes it counts (`Limits.Admits`);
* a reader whose filling reads the allocated buffer's length but never its bytes
  (`Reader.Overwrites`) gives through every sound allocator what it gives on the general heap;
  the PNG reader is one when the decoder's frame holds the whole image
  (`Png.Decoder.FillsImage`), since the frame is then written over every byte;
* a refused pixel buffer ends the decode with its length, and nothing more is requested.
-/

namespace Raster

/-! ## The caller's bounds -/

namespace Limits

/-- **The caller's bounds on a decode as one check**: nothing without bounds; with them, the
size first and then the bytes counted. -/
def guard : Option Limits → Nat → Nat → Nat → Except Error Unit
  | some l, w, h, bytes => l.check w h >>= fun _ => l.checkMemory bytes
  | none, _, _, _ => .ok ()

/-- **A size within the bounds**: every bound that is set holds of the width, the height, the
pixel count and the bytes counted. -/
def Admits (l : Limits) (w h bytes : Nat) : Prop :=
  (∀ m ∈ l.maxWidth, w ≤ m) ∧ (∀ m ∈ l.maxHeight, h ≤ m) ∧ (∀ m ∈ l.maxPixels, w * h ≤ m) ∧
    (∀ m ∈ l.maxMemory, bytes ≤ m)

instance (l : Limits) (w h bytes : Nat) : Decidable (l.Admits w h bytes) :=
  inferInstanceAs (Decidable (_ ∧ _ ∧ _ ∧ _))

variable {l : Limits} {w h bytes : Nat}

/-- One bound: the value within it, or the breach it reports. -/
def bound (o : Option Nat) (v : Nat) (breach : Nat → LimitBreach) : Except Error Unit :=
  match o with
  | some m => if v > m then .error (.limitExceeded (breach m)) else .ok ()
  | none => .ok ()

/-- The size check is the width's bound, then the height's, then the pixel count's. -/
theorem check_eq (l : Limits) (w h : Nat) :
    l.check w h = (bound l.maxWidth w (.width w) >>= fun _ =>
      bound l.maxHeight h (.height h) >>= fun _ => bound l.maxPixels (w * h) (.pixels (w * h))) := by
  obtain ⟨mw, mh, mp, mm⟩ := l
  cases mw <;> cases mh <;> cases mp <;>
    simp only [check, bound, bind, Except.bind, pure, Except.pure, throw, throwThe,
      MonadExceptOf.throw] <;>
    split_ifs <;> rfl

theorem checkMemory_eq (l : Limits) (bytes : Nat) :
    l.checkMemory bytes = bound l.maxMemory bytes (.memory bytes) := rfl

theorem bound_eq_ok_iff {o : Option Nat} {v : Nat} {breach : Nat → LimitBreach} {u : Unit} :
    bound o v breach = .ok u ↔ ∀ m ∈ o, v ≤ m := by
  cases o with
  | none => simp [bound]
  | some m =>
    by_cases hv : v > m
    · simp [bound, hv]
    · simp [bound, hv]
      omega

/-- **The bounds pass a size exactly when they admit it.** -/
theorem guard_eq_ok_iff : guard (some l) w h bytes = .ok () ↔ l.Admits w h bytes := by
  simp only [guard, check_eq, checkMemory_eq, bind_eq_ok, bound_eq_ok_iff, Admits]
  constructor
  · rintro ⟨-, ⟨-, hw, -, hh, hp⟩, hm⟩
    exact ⟨hw, hh, hp, hm⟩
  · rintro ⟨hw, hh, hp, hm⟩
    exact ⟨(), ⟨(), hw, (), hh, hp⟩, hm⟩

/-- A check whose only failures are breaches of the caller's bounds. -/
def OnlyBreaches {α : Type} (r : Except Error α) : Prop :=
  ∀ e, r = .error e → ∃ x, e = .limitExceeded x

theorem onlyBreaches_bound (o : Option Nat) (v : Nat) (breach : Nat → LimitBreach) :
    OnlyBreaches (bound o v breach) := by
  intro e he
  cases o with
  | none => cases he
  | some m =>
    by_cases hv : v > m
    · simp only [bound, if_pos hv, Except.error.injEq] at he
      exact ⟨_, he.symm⟩
    · simp [bound, hv] at he

theorem OnlyBreaches.bind {α β : Type} {x : Except Error α} {f : α → Except Error β}
    (hx : OnlyBreaches x) (hf : ∀ a, OnlyBreaches (f a)) : OnlyBreaches (x >>= f) := by
  intro e he
  cases hxa : x with
  | error e' =>
    rw [hxa] at he
    cases he
    exact hx e hxa
  | ok a =>
    rw [hxa] at he
    exact hf a e he

/-- **The bounds only ever refuse with a breach.** -/
theorem onlyBreaches_guard (limits : Option Limits) (w h bytes : Nat) :
    OnlyBreaches (guard limits w h bytes) := by
  cases limits with
  | none => intro e he; cases he
  | some l =>
    simp only [guard, check_eq, checkMemory_eq]
    refine .bind (.bind (onlyBreaches_bound _ _ _) fun _ => ?_) fun _ => onlyBreaches_bound _ _ _
    exact .bind (onlyBreaches_bound _ _ _) fun _ => onlyBreaches_bound _ _ _

end Limits

/-! ## Making the surface a reader fills -/

namespace Surface

/-- Making a packed surface requests its pixel buffer once, if its size fits. -/
theorem log_create_packed (a : Allocator) (w h : Nat) {f : PixelFormat} (hf : f.isPalette = false)
    (log : List Nat) :
    ((create a w h f).run.run log).2 =
      if dimensionsFit w h then log ++ [h * (w * f.bytesPerPixel)] else log := by
  rw [create_run]
  by_cases hfit : dimensionsFit w h = true
  · rw [if_pos hfit, if_pos hfit]
    have hlog := Allocator.log_request a (h * (w * f.bytesPerPixel)) log
    rcases hreq : a.request (h * (w * f.bytesPerPixel)) log with ⟨_ | data, log₁⟩
    · rw [hreq] at hlog
      exact hlog
    · rw [hreq] at hlog
      simp only [hf, Bool.false_eq_true, if_false]
      exact hlog
  · rw [if_neg hfit, if_neg hfit]

/-- Making a surface never breaches a caller's bounds: its errors are the size's and the
allocator's. -/
theorem create_ne_breach (a : Allocator) (w h : Nat) (f : PixelFormat) (log : List Nat)
    (y : LimitBreach) : ((create a w h f).run.run log).1 ≠ .error (.limitExceeded y) := by
  rw [create_run]
  -- each answer of the allocator, for the pixel buffer and then the palette
  split_ifs <;> (repeat' split) <;> simp

end Surface

/-! ## The course of a reader -/

/-- **What a reader does around its one allocation**: `pre` reads the input as far as the size,
giving what the rest needs; `size` and `charge` give the surface's width and height and the bytes
counted against a memory bound; `finish` fills the allocated surface. -/
structure Reader (α : Type) where
  pre : Except Error α
  size : α → Nat × Nat
  charge : α → Nat
  finish : α → Surface → Except Error Surface

namespace Reader

variable {α : Type} (d : Reader α)

/-- **Runs a reader**: the input is read as far as its size, the caller's bounds are checked, an
RGB565 little-endian surface is allocated through `a`, and the reader fills it. -/
def run (a : Allocator) (limits : Option Limits) : ExceptT Error Alloc Surface := do
  let x ← liftChecked d.pre
  liftChecked (Limits.guard limits (d.size x).1 (d.size x).2 (d.charge x))
  let s ← Surface.create a (d.size x).1 (d.size x).2 .rgb565Le
  liftChecked (d.finish x s)

/-- **What a reader does, step by step**: nothing is requested before the input has been read as
far as its size and the bounds have passed. -/
theorem run_run (a : Allocator) (limits : Option Limits) (log : List Nat) :
    (d.run a limits).run.run log =
      match d.pre with
      | .error e => (.error e, log)
      | .ok x =>
        match Limits.guard limits (d.size x).1 (d.size x).2 (d.charge x) with
        | .error e => (.error e, log)
        | .ok _ =>
          match (Surface.create a (d.size x).1 (d.size x).2 .rgb565Le).run.run log with
          | (.ok s, log') => (d.finish x s, log')
          | (.error e, log') => (.error e, log') := by
  unfold run liftChecked
  rw [run_checked_bind]
  cases d.pre with
  | error e => rfl
  | ok x =>
    dsimp only
    rw [run_checked_bind]
    cases Limits.guard limits (d.size x).1 (d.size x).2 (d.charge x) with
    | error e => rfl
    | ok u =>
      dsimp only
      rw [run_bind]
      cases (Surface.create a (d.size x).1 (d.size x).2 .rgb565Le).run.run log with
      | mk r log' => cases r <;> rfl

/-- **Before allocating, a run stops with nothing requested, or it has read its size and passed
the bounds** and goes on to allocate and fill. -/
theorem run_stages (a : Allocator) (limits : Option Limits) (log : List Nat) :
    (∃ e, (d.run a limits).run.run log = (.error e, log)) ∨
    ∃ x, d.pre = .ok x ∧ Limits.guard limits (d.size x).1 (d.size x).2 (d.charge x) = .ok () ∧
      (d.run a limits).run.run log =
        match (Surface.create a (d.size x).1 (d.size x).2 .rgb565Le).run.run log with
        | (.ok s, log') => (d.finish x s, log')
        | (.error e, log') => (.error e, log') := by
  rw [run_run]
  cases hpre : d.pre with
  | error e => exact .inl ⟨e, rfl⟩
  | ok x =>
    dsimp only
    cases hg : Limits.guard limits (d.size x).1 (d.size x).2 (d.charge x) with
    | error e => exact .inl ⟨e, rfl⟩
    | ok u => exact .inr ⟨x, rfl, hg, rfl⟩

variable {a : Allocator} {limits : Option Limits} {log : List Nat}

/-- **A reader that fills what it allocates**: from a valid surface of its size it makes a valid
surface of that size, and neither its reading nor its filling breaches a caller's bounds. -/
structure Lawful : Prop where
  finish_valid : ∀ x, d.pre = .ok x → ∀ s t : Surface, s.Valid → s.width = (d.size x).1 →
    s.height = (d.size x).2 → s.format = .rgb565Le → d.finish x s = .ok t →
    t.Valid ∧ t.width = s.width ∧ t.height = s.height
  pre_ne : ∀ y, d.pre ≠ .error (.limitExceeded y)
  finish_ne : ∀ x s y, d.finish x s ≠ .error (.limitExceeded y)

/-- **A reader that overwrites what it allocates**: its filling reads the allocated buffer's
length, never its bytes. -/
def Overwrites : Prop :=
  ∀ x, d.pre = .ok x → ∀ data data' : ByteArray,
    data.size = (d.size x).2 * ((d.size x).1 * 2) → data'.size = data.size →
    d.finish x ⟨(d.size x).1, (d.size x).2, .rgb565Le, data, none⟩ =
      d.finish x ⟨(d.size x).1, (d.size x).2, .rgb565Le, data', none⟩

variable {d}

theorem run_of_pre_error {e : Error} (hpre : d.pre = .error e) :
    (d.run a limits).run.run log = (.error e, log) := by
  rw [run_run, hpre]

/-- **A reader gives a valid surface of the size it read.** -/
theorem run_ok (hd : d.Lawful) {t : Surface} (h : ((d.run a limits).run.run log).1 = .ok t) :
    ∃ x, d.pre = .ok x ∧ t.Valid ∧ t.width = (d.size x).1 ∧ t.height = (d.size x).2 := by
  rcases d.run_stages a limits log with ⟨e, he⟩ | ⟨x, hpre, -, he⟩
  · rw [he] at h; cases h
  rw [he] at h
  rcases hc : (Surface.create a (d.size x).1 (d.size x).2 .rgb565Le).run.run log with
    ⟨_ | s, log₁⟩
  · rw [hc] at h; cases h
  · rw [hc] at h
    obtain ⟨hw, hh, hf, hs⟩ := Surface.create_ok hc
    obtain ⟨ht, htw, hth⟩ := hd.finish_valid x hpre s t hs hw hh hf h
    exact ⟨x, hpre, ht, htw.trans hw, hth.trans hh⟩

/-- **Without bounds a reader never reports a breach of them.** -/
theorem run_none_ne_breach (hd : d.Lawful) (y : LimitBreach) :
    ((d.run a none).run.run log).1 ≠ .error (.limitExceeded y) := by
  rw [run_run]
  cases hpre : d.pre with
  | error e =>
    rintro ⟨⟩
    exact hd.pre_ne y hpre
  | ok x =>
    dsimp only [Limits.guard]
    have hc := Surface.create_ne_breach a (d.size x).1 (d.size x).2 .rgb565Le log y
    generalize (Surface.create a (d.size x).1 (d.size x).2 .rgb565Le).run.run log = p at hc ⊢
    obtain ⟨_ | s, log₁⟩ := p
    · exact hc
    · exact hd.finish_ne x s y

/-- **Bounds that admit the size change nothing.** -/
theorem run_some_of_admits {l : Limits} {x : α} (hpre : d.pre = .ok x)
    (hl : l.Admits (d.size x).1 (d.size x).2 (d.charge x)) :
    (d.run a (some l)).run.run log = (d.run a none).run.run log := by
  rw [run_run, run_run, hpre]
  dsimp only
  rw [Limits.guard_eq_ok_iff.mpr hl]
  rfl

/-- **Bounds that do not admit the size refuse it with a breach**, before anything is
requested. -/
theorem run_some_of_not_admits {l : Limits} {x : α} (hpre : d.pre = .ok x)
    (hl : ¬ l.Admits (d.size x).1 (d.size x).2 (d.charge x)) :
    ∃ y, (d.run a (some l)).run.run log = (.error (.limitExceeded y), log) := by
  rw [run_run, hpre]
  dsimp only
  cases hg : Limits.guard (some l) (d.size x).1 (d.size x).2 (d.charge x) with
  | ok u =>
    cases u
    exact absurd (Limits.guard_eq_ok_iff.mp hg) hl
  | error e =>
    obtain ⟨y, rfl⟩ := Limits.onlyBreaches_guard _ _ _ _ e hg
    exact ⟨y, rfl⟩

/-- **Through a sound allocator a reader that overwrites what it allocates is the reader on the
general heap**, result and requests alike. -/
theorem run_sound (hd : d.Overwrites) (ha : a.Sound) (limits : Option Limits) (log : List Nat) :
    (d.run a limits).run.run log = (d.run .system limits).run.run log := by
  rw [run_run, run_run]
  cases hpre : d.pre with
  | error e => rfl
  | ok x =>
    dsimp only
    cases Limits.guard limits (d.size x).1 (d.size x).2 (d.charge x) with
    | error e => rfl
    | ok u =>
      dsimp only
      obtain ⟨data, pal, hdata, -, hrun⟩ :=
        Surface.create_sound ha (d.size x).1 (d.size x).2 .rgb565Le log
      obtain ⟨data', pal', hdata', -, hrun'⟩ :=
        Surface.create_sound Allocator.system_sound (d.size x).1 (d.size x).2 .rgb565Le log
      rw [hrun, hrun']
      by_cases hfit : dimensionsFit (d.size x).1 (d.size x).2 = true
      · simp only [hfit, if_true, PixelFormat.isPalette, Bool.false_eq_true, if_false]
        rw [hd x hpre data data' hdata (hdata'.trans hdata.symm)]
      · simp only [hfit, Bool.false_eq_true, if_false]

/-- **A refused pixel buffer ends the decode**: the error gives the buffer's length, and nothing
else is requested. -/
theorem run_of_refused {len : Nat} (hmem : len ∈ ((d.run a limits).run.run []).2)
    (hno : (a.request len []).1 = none) :
    (d.run a limits).run.run [] = (.error (.allocationFailure len), [len]) := by
  rcases d.run_stages a limits [] with ⟨e, he⟩ | ⟨x, -, -, he⟩
  · rw [he] at hmem; cases hmem
  rw [he] at hmem ⊢
  have hlog := Surface.log_create_packed a (d.size x).1 (d.size x).2
    (show PixelFormat.isPalette .rgb565Le = false from rfl) []
  generalize hp : (Surface.create a (d.size x).1 (d.size x).2 .rgb565Le).run.run [] = p
    at hmem hlog
  by_cases hfit : dimensionsFit (d.size x).1 (d.size x).2 = true
  · -- the only request is the pixel buffer's
    have hreq : len = (d.size x).2 * ((d.size x).1 * PixelFormat.bytesPerPixel .rgb565Le) := by
      rw [if_pos hfit, List.nil_append] at hlog
      obtain ⟨_ | s, log'⟩ := p <;>
        (dsimp only at hmem hlog; rw [hlog] at hmem; exact List.mem_singleton.mp hmem)
    subst hreq
    rw [← hp, Surface.create_of_refused_pixels hfit hno]
    rfl
  · rw [if_neg hfit] at hlog
    obtain ⟨_ | s, log'⟩ := p <;> (dsimp only at hmem hlog; rw [hlog] at hmem; cases hmem)

/-- **Bounds change nothing, or refuse with a breach before anything is requested.** -/
theorem run_some_cases (l : Limits) :
    (d.run a (some l)).run.run log = (d.run a none).run.run log ∨
      ∃ y, (d.run a (some l)).run.run log = (.error (.limitExceeded y), log) := by
  cases hpre : d.pre with
  | error e => exact .inl ((run_of_pre_error hpre).trans (run_of_pre_error hpre).symm)
  | ok x =>
    by_cases hl : l.Admits (d.size x).1 (d.size x).2 (d.charge x)
    · exact .inl (run_some_of_admits hpre hl)
    · exact .inr (run_some_of_not_admits hpre hl)

/-- **A breach of the bounds is reported before anything is requested.** -/
theorem log_of_breach (hd : d.Lawful) {l : Limits} {y : LimitBreach}
    (h : ((d.run a (some l)).run.run log).1 = .error (.limitExceeded y)) :
    ((d.run a (some l)).run.run log).2 = log := by
  rcases (run_some_cases l : (d.run a (some l)).run.run log = _ ∨ _) with heq | ⟨y', heq⟩
  · rw [heq] at h
    exact absurd h (run_none_ne_breach hd y)
  · rw [heq]

/-- **Bounds keep a decode that succeeds without them exactly when they admit its surface**, and
refuse it with a breach otherwise; `c` gives the bytes counted for a size. -/
theorem run_some_of_run_none (hd : d.Lawful) {c : Nat → Nat → Nat}
    (hc : ∀ x, d.pre = .ok x → d.charge x = c (d.size x).1 (d.size x).2) (l : Limits)
    {s : Surface} (h : ((d.run a none).run.run log).1 = .ok s) :
    (l.Admits s.width s.height (c s.width s.height) →
      (d.run a (some l)).run.run log = (d.run a none).run.run log) ∧
    (¬ l.Admits s.width s.height (c s.width s.height) →
      ∃ y, (d.run a (some l)).run.run log = (.error (.limitExceeded y), log)) := by
  obtain ⟨x, hpre, -, hw, hh⟩ := run_ok hd h
  rw [hw, hh, ← hc x hpre]
  exact ⟨run_some_of_admits hpre, run_some_of_not_admits hpre⟩

end Reader

/-! ## The two readers -/

namespace Raw565

/-- **The raw565 reader as a reader**: the header and the length, then the rest of the input as
the pixels. -/
def reader (b : ByteArray) : Reader (Nat × Nat) where
  pre :=
    match header? b with
    | some (w, h) => if expectedLen w h = b.size then .ok (w, h) else .error .unrecognizedFormat
    | none => .error (.inputTooShort b.size)
  size := id
  charge _ := b.size - headerLen
  finish _ s := .ok { s with data := b.extract headerLen b.size }

theorem decodeIn_run (a : Allocator) (limits : Option Limits) (b : ByteArray) (log : List Nat) :
    (decodeIn a limits b).run.run log = ((reader b).run a limits).run.run log := by
  rw [Reader.run_run]
  unfold decodeIn
  cases hb : header? b with
  | none =>
    simp only [reader, hb]
    rfl
  | some wh =>
    obtain ⟨w, h⟩ := wh
    simp only [reader, hb, id]
    by_cases hl : expectedLen w h = b.size
    · simp only [hl, bne_self_eq_false, Bool.false_eq_true, if_false, if_true]
      cases limits with
      | none =>
        simp only [Limits.guard]
        rw [run_bind]
        cases (Surface.create a w h .rgb565Le).run.run log with
        | mk r log' => cases r <;> rfl
      | some l =>
        simp only [Limits.guard]
        cases l.check w h with
        | error e => rfl
        | ok u =>
          cases l.checkMemory (b.size - headerLen) with
          | error e => rfl
          | ok u' =>
            rw [run_checked_bind, run_checked_bind, run_bind]
            cases (Surface.create a w h .rgb565Le).run.run log with
            | mk r log' => cases r <;> rfl
    · simp only [hl, if_false, bne_iff_ne, ne_eq, not_false_eq_true, if_true]
      rfl

variable {b : ByteArray}

theorem reader_pre_eq_ok {w h : Nat} (hpre : (reader b).pre = .ok (w, h)) :
    header? b = some (w, h) ∧ expectedLen w h = b.size := by
  simp only [reader] at hpre
  split at hpre
  · rename_i w' h' hb
    split_ifs at hpre with hl
    cases hpre
    exact ⟨hb, hl⟩
  · cases hpre

/-- The raw565 reader fills what it allocates with the rest of its input, which is exactly the
surface's pixels. -/
theorem reader_lawful (b : ByteArray) : (reader b).Lawful where
  finish_valid := by
    rintro ⟨w, h⟩ hpre s t hs hw hh hf hfin
    obtain ⟨-, hl⟩ := reader_pre_eq_ok hpre
    simp only [reader, id] at hfin hw hh
    cases hfin
    refine ⟨hs.with_data ?_, rfl, rfl⟩
    -- the input is the header and then exactly the surface's pixels
    rw [ByteArray.size_extract, ← hl, Nat.min_self, Surface.stride, hw, hh, hf]
    simp only [expectedLen, headerLen, PixelFormat.bytesPerPixel]
    ring_nf
    omega
  pre_ne := by
    intro y
    simp only [reader]
    split
    · split_ifs <;> simp
    · simp
  finish_ne := by
    intro x s y
    simp [reader]

/-- The raw565 reader never reads the surface it allocates. -/
theorem reader_overwrites (b : ByteArray) : (reader b).Overwrites := by
  intro x _ data data' _ _
  rfl

theorem reader_charge {w h : Nat} (hpre : (reader b).pre = .ok (w, h)) :
    (reader b).charge (w, h) = 2 * ((reader b).size (w, h)).1 * ((reader b).size (w, h)).2 := by
  obtain ⟨-, hl⟩ := reader_pre_eq_ok hpre
  simp only [reader, id, ← hl, expectedLen, headerLen]
  ring_nf
  omega

end Raw565

namespace Png

/-- **The PNG reader as a reader**: the decoder's report before the image data and the surface
bounds, then the decoder's frame written into the surface. -/
def reader (dec : Decoder) (b : ByteArray) : Reader HeaderInfo where
  pre := (dec.readInfo b).mapError (Error.png ∘ PngFailure.decoder) >>= fun info =>
    checkDimensions info.width info.height >>= fun _ => pure info
  size info := (info.width, info.height)
  charge info := info.bufferSize + info.width * 2 * info.height
  finish _ s := fillPng dec b s

end Png

theorem decodePngIn_run (dec : Png.Decoder) (a : Allocator) (limits : Option Limits)
    (b : ByteArray) (log : List Nat) :
    (decodePngIn dec a limits b).run.run log = ((Png.reader dec b).run a limits).run.run log := by
  rw [Reader.run_run]
  unfold decodePngIn liftChecked
  rw [run_checked_bind]
  simp only [Png.reader]
  conv_rhs => simp only [bind, Except.bind, pure, Except.pure]
  cases (dec.readInfo b).mapError (Error.png ∘ PngFailure.decoder) with
  | error e => rfl
  | ok info =>
    dsimp only
    rw [run_checked_bind]
    cases checkDimensions info.width info.height with
    | error e => rfl
    | ok u =>
      dsimp only
      -- the bounds pass or refuse; then the surface is made and the frame written into it
      have hfill : ∀ log, ((Surface.create a info.width info.height .rgb565Le >>= fun s =>
          ExceptT.mk (pure (fillPng dec b s))).run.run log) =
          match (Surface.create a info.width info.height .rgb565Le).run.run log with
          | (.ok s, log') => (fillPng dec b s, log')
          | (.error e, log') => (.error e, log') := by
        intro log
        rw [run_bind]
        generalize (Surface.create a info.width info.height .rgb565Le).run.run log = p
        obtain ⟨r, log'⟩ := p
        cases r <;> rfl
      cases limits with
      | none => exact hfill log
      | some l =>
        simp only [Limits.guard]
        cases l.check info.width info.height with
        | error e => rfl
        | ok u =>
          cases l.checkMemory (info.bufferSize + info.width * 2 * info.height) with
          | error e => rfl
          | ok u' =>
            rw [run_checked_bind, run_checked_bind]
            exact hfill log

namespace Png

variable {dec : Decoder} {b : ByteArray}

theorem reader_pre_eq_ok {info : HeaderInfo} (hpre : (reader dec b).pre = .ok info) :
    dec.readInfo b = .ok info ∧ dimensionsFit info.width info.height = true := by
  simp only [reader, bind, Except.bind, pure, Except.pure] at hpre
  cases hr : dec.readInfo b with
  | error m => rw [hr] at hpre; cases hpre
  | ok info' =>
    rw [hr] at hpre
    dsimp only [Except.mapError] at hpre
    cases hd : checkDimensions info'.width info'.height with
    | error e => rw [hd] at hpre; cases hpre
    | ok u =>
      rw [hd] at hpre
      cases hpre
      exact ⟨rfl, dimensionsFit_of_checkDimensions hd⟩

/-- The PNG reader fills what it allocates with its frame, which keeps the buffer's length. -/
theorem reader_lawful (dec : Decoder) (b : ByteArray) : (reader dec b).Lawful where
  finish_valid := by
    intro info _ s t hs _ _ _ hfin
    obtain ⟨-, -, -, -, -, -, rfl⟩ := fillPng_eq_ok hfin
    exact ⟨hs.with_data ((size_fillFrame _ _ _ _).trans hs.size_data), rfl, rfl⟩
  pre_ne := by
    intro y hpre
    simp only [reader, bind, Except.bind, pure, Except.pure] at hpre
    cases hr : dec.readInfo b with
    | error m => rw [hr] at hpre; cases hpre
    | ok info =>
      rw [hr] at hpre
      dsimp only [Except.mapError] at hpre
      cases hd : checkDimensions info.width info.height with
      | error e =>
        rw [hd] at hpre
        cases hpre
        cases checkDimensions_error hd
      | ok u => rw [hd] at hpre; cases hpre
  finish_ne := by
    intro info s y hfin
    obtain ⟨f, hf⟩ := fillPng_error hfin
    cases hf

/-- **The frame holds the whole image**, at the stream `b`: the decoder's first frame has a pixel
of its colour type's samples for every pixel of the image it reported. -/
def Decoder.FillsImage (dec : Decoder) (b : ByteArray) : Prop :=
  ∀ info frame, dec.readInfo b = .ok info → dec.nextFrame b = .ok frame →
    info.width * info.height * frame.color.samples ≤ frame.bytes.size

/-- **When the frame holds the whole image, the PNG reader never reads the surface it
allocates**: the frame writes every byte of the surface's buffer. -/
theorem reader_overwrites (hb : dec.FillsImage b) : (reader dec b).Overwrites := by
  intro info hpre data data' hdata hdata'
  obtain ⟨hr, -⟩ := reader_pre_eq_ok hpre
  simp only [reader] at hdata
  simp only [reader, fillPng, bind, Except.bind]
  cases hf : dec.nextFrame b with
  | error m => rfl
  | ok frame =>
    dsimp only [Except.mapError]
    split
    · rfl
    cases hc : rgb8Reader frame.color with
    | error e => rfl
    | ok cg =>
      obtain ⟨channels, grey⟩ := cg
      obtain ⟨rfl, hmin⟩ := rgb8Reader_channels hc
      have hpos : 0 < frame.color.samples := by split at hmin <;> omega
      -- the surface has two bytes for each pixel of the frame, and no more
      have hcover : data.size ≤ 2 * (frame.bytes.size / frame.color.samples) := by
        have hpix : info.width * info.height ≤ frame.bytes.size / frame.color.samples :=
          (Nat.le_div_iff_mul_le hpos).mpr (hb info frame hr hf)
        rw [hdata]
        calc info.height * (info.width * 2) = 2 * (info.width * info.height) := by ring
          _ ≤ 2 * (frame.bytes.size / frame.color.samples) := Nat.mul_le_mul_left 2 hpix
      have heven : data.size % 2 = 0 := by rw [hdata, ← Nat.mul_assoc, Nat.mul_mod_left]
      simp only [pure, Except.pure]
      rw [fillFrame_of_covers heven hcover,
        fillFrame_of_covers (hdata' ▸ heven) (hdata' ▸ hcover), hdata']

/-- The bytes of the buffer the decoder decodes the frame of `b` into, as it reports them before
the image data. -/
def frameBufferLen (dec : Decoder) (b : ByteArray) : Nat :=
  match dec.readInfo b with
  | .ok info => info.bufferSize
  | .error _ => 0

theorem reader_charge {info : HeaderInfo} (hpre : (reader dec b).pre = .ok info) :
    (reader dec b).charge info =
      frameBufferLen dec b + 2 * ((reader dec b).size info).1 * ((reader dec b).size info).2 := by
  obtain ⟨hr, -⟩ := reader_pre_eq_ok hpre
  simp only [reader, frameBufferLen, hr]
  ring

end Png

/-! ## Decoding a request -/

/-- **The bytes a decode counts against a memory bound** for a surface of `w × h`: its pixels,
and for a PNG also the buffer its frame is decoded into. -/
def decodeCharge (dec : Png.Decoder) (b : ByteArray) (w h : Nat) : Nat :=
  match Container.detect b with
  | .ok .png => Png.frameBufferLen dec b + 2 * w * h
  | _ => 2 * w * h

/-- **Decoding is recognising the container and running its reader.** -/
theorem DecodeRequest.run_eq (dec : Png.Decoder) (r : DecodeRequest) :
    r.run dec =
      match Container.detect r.bytes with
      | .error e => (.error e, [])
      | .ok .png => ((Png.reader dec r.bytes).run r.allocator r.limits).run.run []
      | .ok .raw565 => ((Raw565.reader r.bytes).run r.allocator r.limits).run.run [] := by
  unfold DecodeRequest.run Surface.runAlloc liftChecked
  rw [run_checked_bind]
  cases Container.detect r.bytes with
  | error e => rfl
  | ok c =>
    cases c
    · exact decodePngIn_run _ _ _ _ _
    · exact Raw565.decodeIn_run _ _ _ _

namespace DecodeRequest

variable {dec : Png.Decoder}

/-- **Every surface a decode gives is valid.** -/
theorem valid_of_run {r : DecodeRequest} {s : Surface} (h : (r.run dec).1 = .ok s) : s.Valid := by
  rw [run_eq] at h
  split at h
  · cases h
  · obtain ⟨-, -, hs, -⟩ := Reader.run_ok (Png.reader_lawful _ _) h
    exact hs
  · obtain ⟨-, -, hs, -⟩ := Reader.run_ok (Raw565.reader_lawful _) h
    exact hs

/-- **A decode through a sound allocator is the decode on the general heap**, when a PNG's frame
holds the whole image. -/
theorem run_sound {a : Allocator} (ha : a.Sound) {b : ByteArray} (hb : dec.FillsImage b)
    (limits : Option Limits) :
    run dec ⟨b, limits, a⟩ = run dec ⟨b, limits, .system⟩ := by
  rw [run_eq, run_eq]
  dsimp only
  cases Container.detect b with
  | error e => rfl
  | ok c =>
    cases c
    · exact Reader.run_sound (Png.reader_overwrites hb) ha limits []
    · exact Reader.run_sound (Raw565.reader_overwrites b) ha limits []

/-- **A refused pixel buffer ends a decode**, with the buffer's length, and nothing else is
requested. -/
theorem run_of_refused {r : DecodeRequest} {len : Nat} (hmem : len ∈ (r.run dec).2)
    (hno : ∀ buf, r.allocator.grant 0 len = some buf → buf.size ≠ len) :
    r.run dec = (.error (.allocationFailure len), [len]) := by
  have hreq : (r.allocator.request len []).1 = none :=
    (Allocator.request_fst_eq_none_iff _ _ _).mpr hno
  rw [run_eq] at hmem ⊢
  revert hmem
  cases Container.detect r.bytes with
  | error e => rintro ⟨⟩
  | ok c =>
    cases c
    · exact fun hmem => Reader.run_of_refused hmem hreq
    · exact fun hmem => Reader.run_of_refused hmem hreq

variable (dec) (b : ByteArray) (l : Limits) (a : Allocator)

/-- **Bounds change a decode not at all, or refuse it with a breach before anything is
requested.** -/
theorem run_some_cases :
    run dec ⟨b, some l, a⟩ = run dec ⟨b, none, a⟩ ∨
      ∃ y, run dec ⟨b, some l, a⟩ = (.error (.limitExceeded y), []) := by
  rw [run_eq, run_eq]
  dsimp only
  cases Container.detect b with
  | error e => exact .inl rfl
  | ok c =>
    cases c
    · exact Reader.run_some_cases l
    · exact Reader.run_some_cases l

/-- **A decode reports a breach of its bounds before it requests anything.** -/
theorem log_of_breach {y : LimitBreach}
    (h : (run dec ⟨b, some l, a⟩).1 = .error (.limitExceeded y)) :
    (run dec ⟨b, some l, a⟩).2 = [] := by
  rw [run_eq] at h ⊢
  revert h
  cases Container.detect b with
  | error e => exact fun _ => rfl
  | ok c =>
    cases c
    · exact Reader.log_of_breach (Png.reader_lawful dec b)
    · exact Reader.log_of_breach (Raw565.reader_lawful b)

/-- **Bounds keep a decode that succeeds without them exactly when they admit its surface and
the bytes it counts**, and refuse it with a breach before anything is requested otherwise. -/
theorem run_some_of_run_none {s : Surface} (h : (run dec ⟨b, none, a⟩).1 = .ok s) :
    (l.Admits s.width s.height (decodeCharge dec b s.width s.height) →
      run dec ⟨b, some l, a⟩ = run dec ⟨b, none, a⟩) ∧
    (¬ l.Admits s.width s.height (decodeCharge dec b s.width s.height) →
      ∃ y, run dec ⟨b, some l, a⟩ = (.error (.limitExceeded y), [])) := by
  rw [run_eq] at h ⊢
  rw [run_eq]
  revert h
  cases hdet : Container.detect b with
  | error e => rintro ⟨⟩
  | ok c =>
    cases c
    · refine fun h => Reader.run_some_of_run_none (Png.reader_lawful dec b)
        (fun x hpre => ?_) l h
      rw [Png.reader_charge hpre, decodeCharge, hdet]
    · refine fun h => Reader.run_some_of_run_none (Raw565.reader_lawful b) (fun x hpre => ?_) l h
      rw [Raw565.reader_charge hpre, decodeCharge, hdet]

end DecodeRequest

/-! ## What an allocator puts in its buffers -/

/-- **What an allocator puts in its buffers never shows.** Through a sound allocator, one that
grants every request a buffer of the requested length whatever it holds, a conversion gives what
the conversion on the general heap gives, and a decode, with or without bounds, gives what the
decode on the general heap gives whenever the PNG decoder's frame holds the whole image. A refused
buffer, or one of another length, ends a conversion or a decode with the whole size the surface
asked for, and nothing more is requested: for a conversion, at its pixel buffer or at the
palette that follows; for a decode, at the pixel buffer, which is the one request it makes. -/
theorem allocator_contents_never_leak (dec : Png.Decoder) :
    (∀ a : Allocator, a.Sound → ∀ (src : Surface) width height format,
      (Surface.runAlloc (src.convertIn a width height format)).1 =
        src.convert width height format) ∧
    (∀ a : Allocator, a.Sound → ∀ b limits, dec.FillsImage b →
      DecodeRequest.run dec ⟨b, limits, a⟩ = DecodeRequest.run dec ⟨b, limits, .system⟩) ∧
    (∀ (a : Allocator) (src : Surface) width height format w h (f : PixelFormat), src.Valid →
      targetSize src.width src.height width height = (w, h) → format.getD src.format = f →
      dimensionsFit w h = true →
      ((∀ buf, a.grant 0 (h * (w * f.bytesPerPixel)) = some buf →
          buf.size ≠ h * (w * f.bytesPerPixel)) →
        Surface.runAlloc (src.convertIn a width height format) =
          (.error (.allocationFailure (h * (w * f.bytesPerPixel) + f.paletteLen)),
            [h * (w * f.bytesPerPixel)])) ∧
      (∀ data, a.grant 0 (h * (w * f.bytesPerPixel)) = some data →
        data.size = h * (w * f.bytesPerPixel) → f.isPalette = true →
        (∀ pal, a.grant 1 f.paletteLen = some pal → pal.size ≠ f.paletteLen) →
        Surface.runAlloc (src.convertIn a width height format) =
          (.error (.allocationFailure (h * (w * f.bytesPerPixel) + f.paletteLen)),
            [h * (w * f.bytesPerPixel), f.paletteLen]))) ∧
    (∀ (r : DecodeRequest) len, len ∈ (r.run dec).2 →
      (∀ buf, r.allocator.grant 0 len = some buf → buf.size ≠ len) →
      r.run dec = (.error (.allocationFailure len), [len])) := by
  refine ⟨?_, ?_, ?_, ?_⟩
  · intro a ha src width height format
    exact congrArg Prod.fst (Surface.convertIn_sound ha src width height format)
  · intro a ha b limits hb
    exact DecodeRequest.run_sound ha hb limits
  · intro a src width height format w h f hs ht hf hfit
    exact ⟨Surface.convertIn_of_refused_pixels hs ht hf hfit,
      fun data hdata hsize hp hno =>
        Surface.convertIn_of_refused_palette hs ht hf hfit hdata hsize hp hno⟩
  · intro r len hmem hno
    exact DecodeRequest.run_of_refused hmem hno

/-- A one-pixel PNG decodes through buffers filled with sevens as it does on the general heap,
through the model of the codec. -/
theorem allocator_contents_never_leak_filled_png :
    (Allocator.filled 7).Sound ∧
      Png.modelDecoder.FillsImage (Png.modelEncoder.writeRgb8 1 1 ⟨#[16, 68, 160]⟩) ∧
      DecodeRequest.run Png.modelDecoder
          ⟨Png.modelEncoder.writeRgb8 1 1 ⟨#[16, 68, 160]⟩, none, .filled 7⟩ =
        DecodeRequest.run Png.modelDecoder
          ⟨Png.modelEncoder.writeRgb8 1 1 ⟨#[16, 68, 160]⟩, none, .system⟩ := by
  have hb : Png.modelDecoder.FillsImage (Png.modelEncoder.writeRgb8 1 1 ⟨#[16, 68, 160]⟩) := by
    intro info frame hinfo hframe
    -- the image is one pixel, and its frame one pixel of three samples
    have hinfo' : Png.modelDecoder.readInfo (Png.modelEncoder.writeRgb8 1 1 ⟨#[16, 68, 160]⟩) =
        .ok ⟨1, 1, 3⟩ := by
      decide +kernel
    have hframe' : Png.modelDecoder.nextFrame (Png.modelEncoder.writeRgb8 1 1 ⟨#[16, 68, 160]⟩) =
        .ok ⟨.rgb, .eight, ⟨#[16, 68, 160]⟩⟩ := by
      decide +kernel
    rw [hinfo', Except.ok.injEq] at hinfo
    rw [hframe', Except.ok.injEq] at hframe
    subst hinfo hframe
    decide
  exact ⟨Allocator.filled_sound 7, hb,
    (allocator_contents_never_leak Png.modelDecoder).2.1 _ (Allocator.filled_sound 7) _ none hb⟩

/-! ## What bounds do -/

/-- **Bounds only ever refuse a decode, exactly when it breaks them, and before allocating.**
Whatever the allocator: a decode that succeeds without bounds is kept by bounds that admit its
surface's width, height and pixel count and the bytes it counts (`decodeCharge`), and is refused
with a breach by any others; a decode that fails without bounds fails with them with the same
error or with a breach; and a breach is reported before anything is requested. -/
theorem limits_only_refuse_before_allocating (dec : Png.Decoder) (b : ByteArray) (l : Limits)
    (a : Allocator) :
    (∀ s, (DecodeRequest.run dec ⟨b, none, a⟩).1 = .ok s →
      (l.Admits s.width s.height (decodeCharge dec b s.width s.height) →
        DecodeRequest.run dec ⟨b, some l, a⟩ = DecodeRequest.run dec ⟨b, none, a⟩) ∧
      (¬ l.Admits s.width s.height (decodeCharge dec b s.width s.height) →
        ∃ y, DecodeRequest.run dec ⟨b, some l, a⟩ = (.error (.limitExceeded y), []))) ∧
    (∀ e, (DecodeRequest.run dec ⟨b, none, a⟩).1 = .error e →
      (DecodeRequest.run dec ⟨b, some l, a⟩).1 = .error e ∨
        ∃ y, DecodeRequest.run dec ⟨b, some l, a⟩ = (.error (.limitExceeded y), [])) ∧
    (∀ y, (DecodeRequest.run dec ⟨b, some l, a⟩).1 = .error (.limitExceeded y) →
      (DecodeRequest.run dec ⟨b, some l, a⟩).2 = []) := by
  refine ⟨fun s h => DecodeRequest.run_some_of_run_none dec b l a h, fun e he => ?_,
    fun y h => DecodeRequest.log_of_breach dec b l a h⟩
  -- bounds change nothing, or they refuse before the decode gets anywhere
  rcases DecodeRequest.run_some_cases dec b l a with heq | hbreach
  · rw [heq]
    exact .inl he
  · exact .inr hbreach

/-- A 3 × 2 raw565 image is refused by a bound of five pixels before anything is requested. -/
theorem limits_only_refuse_before_allocating_pixels :
    (DecodeRequest.run Png.modelDecoder
        ⟨⟨#[3, 0, 2, 0, 1, 2, 3, 4, 5, 6, 7, 8, 9, 10, 11, 12]⟩, none, .system⟩).1 =
        .ok ⟨3, 2, .rgb565Le, ⟨#[1, 2, 3, 4, 5, 6, 7, 8, 9, 10, 11, 12]⟩, none⟩ ∧
      ¬ ({ maxPixels := some 5 } : Limits).Admits 3 2 (decodeCharge Png.modelDecoder
        ⟨#[3, 0, 2, 0, 1, 2, 3, 4, 5, 6, 7, 8, 9, 10, 11, 12]⟩ 3 2) ∧
      ∃ y, DecodeRequest.run Png.modelDecoder
          ⟨⟨#[3, 0, 2, 0, 1, 2, 3, 4, 5, 6, 7, 8, 9, 10, 11, 12]⟩, some { maxPixels := some 5 },
            .system⟩ = (.error (.limitExceeded y), []) := by
  have hrun : (DecodeRequest.run Png.modelDecoder
      ⟨⟨#[3, 0, 2, 0, 1, 2, 3, 4, 5, 6, 7, 8, 9, 10, 11, 12]⟩, none, .system⟩).1 =
        .ok ⟨3, 2, .rgb565Le, ⟨#[1, 2, 3, 4, 5, 6, 7, 8, 9, 10, 11, 12]⟩, none⟩ := rfl
  have hbound : ¬ ({ maxPixels := some 5 } : Limits).Admits 3 2 (decodeCharge Png.modelDecoder
      ⟨#[3, 0, 2, 0, 1, 2, 3, 4, 5, 6, 7, 8, 9, 10, 11, 12]⟩ 3 2) := by
    decide
  exact ⟨hrun, hbound,
    ((limits_only_refuse_before_allocating Png.modelDecoder _ _ .system).1 _ hrun).2 hbound⟩

end Raster
