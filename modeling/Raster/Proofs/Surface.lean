import Raster.Surface.Basic
import Raster.Proofs.Buffer

set_option autoImplicit false

/-!
# Surfaces: validity, fresh surfaces and reading colours back

Three groups of facts that every statement about blitting and converting stands on.

Validity is unpacked once into the four rules that `Surface.fault?` checks, so later proofs use
the buffer length and the palette shape by name instead of running the check again.

The general heap never refuses, so `Surface.new` is the zeroed surface exactly when the
dimensions fit (`new_eq`).

A packed pixel's colour is a function of the bytes of its cell alone (`colorAt_of_packed`,
through `PixelFormat.readCell`), and writing a colour's cell and reading it back gives the colour
(`readCell_cell`): this is the round trip that a three-byte cell makes through `Rgb565.unpack`
and `Rgb565.pack`. Any pixel's colour is a function of the bytes of its row
(`colorAt_congr_row`).
-/

namespace Raster

namespace PixelFormat

theorem bytesPerPixel_pos (f : PixelFormat) : 0 < f.bytesPerPixel := by
  cases f <;> decide

theorem isPalette_of_rgb565 {f : PixelFormat} (hf : f = .rgb565Le ∨ f = .rgb565Be) :
    f.isPalette = false := by
  rcases hf with rfl | rfl <;> rfl

/-- Packed formats are readable: only the three-byte palette is not. -/
theorem ne_pal888_of_packed {f : PixelFormat} (hf : f.isPalette = false) : f ≠ .pal888 := by
  rintro rfl
  cases hf

/-- The colour a packed cell holds, read from its bytes in order: a 16-bit word in the format's
byte order, or three channel bytes packed. -/
def readCell (f : PixelFormat) (byte : Nat → Nat) : Nat :=
  match f with
  | .rgb565Le => byte 0 + 256 * byte 1
  | .rgb565Be => 256 * byte 0 + byte 1
  | _ => Rgb565.pack (byte 0) (byte 1) (byte 2)

/-- A packed cell's colour depends on the cell's bytes only. -/
theorem readCell_congr {f : PixelFormat} (hf : f.isPalette = false) {g g' : Nat → Nat}
    (h : ∀ j, j < f.bytesPerPixel → g j = g' j) : f.readCell g = f.readCell g' := by
  cases f with
  | rgb565Le | rgb565Be => simp only [readCell, h 0 (by decide), h 1 (by decide)]
  | rgb888 => simp only [readCell, h 0 (by decide), h 1 (by decide), h 2 (by decide)]
  | pal565Le | pal565Be | pal888 => simp [isPalette] at hf

theorem size_cell (f : PixelFormat) (hf : f.isPalette = false) (c : Nat) :
    (f.cell c).size = f.bytesPerPixel := by
  cases f <;> first | rfl | simp [isPalette] at hf

/-- **Writing a colour's cell and reading it back gives the colour**, for every 16-bit colour and
packed format. For three-byte cells this is `Rgb565.pack_unpack`: the channels are written at
the top of each byte and packing keeps exactly those bits. -/
theorem readCell_cell (f : PixelFormat) (hf : f.isPalette = false) {c : Nat} (hc : c < 65536) :
    f.readCell (fun j => Bytes.get (f.cell c) j) = c := by
  cases f with
  | rgb565Le | rgb565Be =>
    simp [readCell, cell, Bytes.get, Bytes.low]
    omega
  | rgb888 =>
    have hpack := Rgb565.pack_unpack c hc
    simp only [Rgb565.unpack] at hpack
    simp only [readCell, cell, Rgb565.unpack, Bytes.get, Bytes.byteAt_mk, Bytes.low]
    rw [← hpack]
    congr 1 <;> simp <;> omega
  | pal565Le | pal565Be | pal888 => simp [isPalette] at hf

/-- **A 16-bit cell is written back byte for byte**: reading a cell's colour and writing the
colour's cell gives the same two bytes. Three-byte cells lose their channels' low bits on this
trip. -/
theorem byteAt_cell_readCell {f : PixelFormat} (hf : f = .rgb565Le ∨ f = .rgb565Be)
    (b : ByteArray) (o : Nat) {j : Nat} (hj : j < f.bytesPerPixel) :
    Bytes.byteAt (f.cell (f.readCell fun i => Bytes.get b (o + i))) j = Bytes.byteAt b (o + j) := by
  have h0 := Bytes.get_lt b o
  have h1 := Bytes.get_lt b (o + 1)
  have hj2 : j = 0 ∨ j = 1 := by
    rcases hf with rfl | rfl <;> simp only [bytesPerPixel] at hj <;> omega
  apply UInt8.toNat_inj.mp
  rcases hf with rfl | rfl <;> rcases hj2 with rfl | rfl <;>
    simp [cell, readCell, Bytes.low, Bytes.get] at h0 h1 ⊢ <;> omega

end PixelFormat

namespace Surface

variable {s t : Surface}

/-! ## Validity -/

theorem paletteFault_eq_none_iff {f : PixelFormat} {p : Option ByteArray} :
    paletteFault f p = none ↔
      (f.isPalette = true ∧ ∃ q, p = some q ∧ q.size = f.paletteLen) ∨
        (f.isPalette = false ∧ p = none) := by
  cases p with
  | none => cases hf : f.isPalette <;> simp [paletteFault, hf]
  | some q =>
    cases hf : f.isPalette
    · simp [paletteFault, hf]
    · by_cases hq : q.size = f.paletteLen <;> simp [paletteFault, hf, hq]

theorem validate_of_valid (hs : s.Valid) : s.validate = .ok () := by
  unfold validate
  rw [show s.fault? = none from hs]

theorem validate_of_fault {f : SurfaceFault} (hf : s.fault? = some f) :
    s.validate = .error (.invalidSurface f) := by
  unfold validate
  rw [hf]

/-- **The four rules of a valid surface.** -/
theorem valid_iff :
    s.Valid ↔ 0 < s.data.size ∧ dimensionsFit s.width s.height = true ∧
      s.data.size = s.height * s.stride ∧ paletteFault s.format s.palette = none := by
  unfold Valid fault?
  -- the checks run in order: an empty buffer, the dimensions, the length, the palette
  by_cases h0 : s.data.size = 0
  · simp [h0]
  · rw [if_neg h0]
    by_cases hd : dimensionsFit s.width s.height = true
    · rw [if_neg (by simp [hd])]
      by_cases hl : s.data.size = s.height * s.stride
      · have hpos : 0 < s.data.size := Nat.pos_of_ne_zero h0
        rw [if_neg (not_not_intro hl)]
        exact ⟨fun h => ⟨hpos, hd, hl, h⟩, fun h => h.2.2.2⟩
      · simp [hl]
    · simp [hd]

theorem Valid.size_data (hs : s.Valid) : s.data.size = s.height * s.stride :=
  (valid_iff.mp hs).2.2.1

theorem Valid.dimensionsFit (hs : s.Valid) : dimensionsFit s.width s.height = true :=
  (valid_iff.mp hs).2.1

theorem Valid.width_pos (hs : s.Valid) : 0 < s.width := by
  have h := hs.dimensionsFit
  simp only [Raster.dimensionsFit, Bool.and_eq_true, decide_eq_true_eq] at h
  omega

theorem Valid.height_pos (hs : s.Valid) : 0 < s.height := by
  have h := hs.dimensionsFit
  simp only [Raster.dimensionsFit, Bool.and_eq_true, decide_eq_true_eq] at h
  omega

theorem Valid.palette_eq_none (hs : s.Valid) (hf : s.format.isPalette = false) :
    s.palette = none := by
  rcases paletteFault_eq_none_iff.mp (valid_iff.mp hs).2.2.2 with ⟨hp, -⟩ | ⟨-, hn⟩
  · rw [hf] at hp; cases hp
  · exact hn

theorem Valid.palette_eq_some (hs : s.Valid) (hf : s.format.isPalette = true) :
    ∃ p, s.palette = some p ∧ p.size = s.format.paletteLen := by
  rcases paletteFault_eq_none_iff.mp (valid_iff.mp hs).2.2.2 with ⟨-, hp⟩ | ⟨hp, -⟩
  · exact hp
  · rw [hf] at hp; cases hp

/-- A valid surface stays valid when its pixel buffer is replaced by one of the same length. -/
theorem Valid.with_data (hs : s.Valid) {data : ByteArray}
    (hsize : data.size = s.height * s.stride) :
    ({ s with data := data } : Surface).Valid := by
  have h := valid_iff.mp hs
  refine valid_iff.mpr ⟨?_, h.2.1, hsize, h.2.2.2⟩
  rw [hsize, ← h.2.2.1]
  exact h.1

/-- A surface of a packed format and a size that fits, without a palette, is valid as soon as its
buffer holds its rows. -/
theorem valid_of_packed {w h : Nat} {f : PixelFormat} {data : ByteArray}
    (hfit : dimensionsFit w h = true) (hf : f.isPalette = false)
    (hsize : data.size = h * (w * f.bytesPerPixel)) :
    (⟨w, h, f, data, none⟩ : Surface).Valid := by
  have hpos : 0 < h * (w * f.bytesPerPixel) := by
    simp only [dimensionsFit, Bool.and_eq_true, decide_eq_true_eq] at hfit
    exact Nat.mul_pos (by omega) (Nat.mul_pos (by omega) (PixelFormat.bytesPerPixel_pos f))
  refine valid_iff.mpr ⟨by rw [hsize]; exact hpos, hfit, hsize, ?_⟩
  simp [paletteFault, hf]

/-! ## The general heap's surfaces -/

theorem request_system (len : Nat) (log : List Nat) :
    Allocator.system.request len log = (some (Bytes.zeros len), log ++ [len]) := by
  simp [Allocator.request, Allocator.system, Option.filter]

/-- **The general heap never refuses**: after any history of requests, making a surface gives
the zeroed surface exactly when the dimensions fit. -/
theorem create_system (w h : Nat) (f : PixelFormat) (log : List Nat) :
    ((create .system w h f).run.run log).1 =
      if dimensionsFit w h then
        .ok ⟨w, h, f, Bytes.zeros (h * (w * f.bytesPerPixel)),
          if f.isPalette then some (Bytes.zeros f.paletteLen) else none⟩
      else .error (.invalidSurface (.dimensions w h)) := by
  by_cases hd : dimensionsFit w h = true <;> by_cases hp : f.isPalette = true <;>
    simp [hd, hp, create, checkDimensions, request_system, ExceptT.run, ExceptT.mk, bind,
      ExceptT.bind, ExceptT.bindCont, StateT.bind, StateT.run, pure, ExceptT.pure, StateT.pure,
      liftM, monadLift, MonadLift.monadLift, ExceptT.lift, throw, throwThe, MonadExcept.throw,
      MonadExceptOf.throw, Functor.map, StateT.map]

theorem new_eq (w h : Nat) (f : PixelFormat) :
    Surface.new w h f =
      if dimensionsFit w h then
        .ok ⟨w, h, f, Bytes.zeros (h * (w * f.bytesPerPixel)),
          if f.isPalette then some (Bytes.zeros f.paletteLen) else none⟩
      else .error (.invalidSurface (.dimensions w h)) :=
  create_system w h f []

/-- The general heap's surfaces are valid. -/
theorem valid_of_new {w h : Nat} {f : PixelFormat} {d : Surface} (hd : Surface.new w h f = .ok d) :
    d.Valid := by
  rw [new_eq] at hd
  split at hd
  · rename_i hfit
    cases hd
    have hpos : 0 < h * (w * f.bytesPerPixel) := by
      simp only [dimensionsFit, Bool.and_eq_true, decide_eq_true_eq] at hfit
      exact Nat.mul_pos (by omega) (Nat.mul_pos (by omega) (PixelFormat.bytesPerPixel_pos f))
    refine valid_iff.mpr ⟨by simpa using hpos, hfit, by simp [stride], ?_⟩
    cases hp : f.isPalette <;> simp [paletteFault, hp]
  · cases hd

/-! ## Reading colours -/

/-- A packed pixel's colour is read from the bytes of its cell. -/
theorem colorAt_of_packed (hf : s.format.isPalette = false) (a x : Nat) :
    s.colorAt a x =
      some (s.format.readCell fun j => Bytes.get s.data (a + x * s.format.bytesPerPixel + j)) := by
  unfold colorAt
  cases h : s.format with
  | rgb565Le | rgb565Be | rgb888 =>
    simp [PixelFormat.readCell, PixelFormat.bytesPerPixel, Bytes.u16le, Bytes.u16be, Nat.mul_comm,
      Nat.add_assoc]
  | pal565Le | pal565Be | pal888 => simp [h, PixelFormat.isPalette] at hf

/-- **A packed pixel's colour depends on its cell's bytes only.** -/
theorem colorAt_congr_cell (hf : s.format = t.format) (hpacked : s.format.isPalette = false)
    {a b x : Nat} (h : ∀ j, j < s.format.bytesPerPixel →
      Bytes.byteAt s.data (a + x * s.format.bytesPerPixel + j) =
        Bytes.byteAt t.data (b + x * s.format.bytesPerPixel + j)) :
    s.colorAt a x = t.colorAt b x := by
  rw [colorAt_of_packed hpacked, colorAt_of_packed (hf ▸ hpacked), ← hf]
  congr 1
  exact PixelFormat.readCell_congr hpacked fun j hj => congrArg UInt8.toNat (h j hj)

/-- **A packed cell holding a colour's bytes reads back as that colour.** -/
theorem colorAt_of_cell (hpacked : s.format.isPalette = false) {a x c : Nat} (hc : c < 65536)
    (h : ∀ j, j < s.format.bytesPerPixel →
      Bytes.byteAt s.data (a + x * s.format.bytesPerPixel + j) =
        Bytes.byteAt (s.format.cell c) j) :
    s.colorAt a x = some c := by
  rw [colorAt_of_packed hpacked, ← PixelFormat.readCell_cell s.format hpacked hc]
  congr 1
  exact PixelFormat.readCell_congr hpacked fun j hj => congrArg UInt8.toNat (h j hj)

/-- **Any pixel's colour depends on the bytes of its row only**: two surfaces of one format,
width and palette whose rows starting at `a` and `b` agree give every pixel of them one colour. -/
theorem colorAt_congr_row (hf : s.format = t.format) (hp : s.palette = t.palette)
    {a b x : Nat} (hx : x < s.width)
    (h : ∀ i, i < s.stride → Bytes.byteAt s.data (a + i) = Bytes.byteAt t.data (b + i)) :
    s.colorAt a x = t.colorAt b x := by
  cases hpacked : s.format.isPalette
  · apply colorAt_congr_cell hf hpacked
    intro j hj
    rw [Nat.add_assoc, Nat.add_assoc]
    exact h _ (Bytes.cell_offset_lt hx hj)
  · -- an indexed pixel is byte `x` of its row looked up in the palette
    have hx' : x < s.stride :=
      Nat.lt_of_lt_of_le hx (Nat.le_mul_of_pos_right _ (PixelFormat.bytesPerPixel_pos _))
    have hbyte : Bytes.get s.data (a + x) = Bytes.get t.data (b + x) :=
      congrArg UInt8.toNat (h x hx')
    unfold colorAt
    rw [← hf, ← hp, hbyte]
    cases hs : s.format <;> simp [hs, PixelFormat.isPalette] at hpacked ⊢

/-- Colours read from a surface are 16-bit. -/
theorem colorAt_lt {a x c : Nat} (h : s.colorAt a x = some c) : c < 65536 := by
  have hb := Bytes.get_lt
  -- every colour is a 16-bit word of two bytes, a packed triple, or a palette entry
  have hword : ∀ (b : ByteArray) (i : Nat), Bytes.u16le b i < 65536 ∧ Bytes.u16be b i < 65536 :=
    fun b i => by
      have := hb b i; have := hb b (i + 1)
      simp only [Bytes.u16le, Bytes.u16be]; omega
  have hpal : ∀ (p : ByteArray) (big : Bool) (i : Nat), paletteColor p big i < 65536 := by
    intro p big i
    cases big
    · exact (hword p (2 * i)).1
    · exact (hword p (2 * i)).2
  unfold colorAt at h
  cases hs : s.format <;> simp only [hs, Option.some.injEq, Option.map_eq_some_iff] at h
  · exact h ▸ (hword _ _).1
  · exact h ▸ (hword _ _).2
  · exact h ▸ Rgb565.pack_lt _ _ _
  · obtain ⟨p, -, rfl⟩ := h; exact hpal _ _ _
  · obtain ⟨p, -, rfl⟩ := h; exact hpal _ _ _
  · cases h

theorem colorAt_getD_lt (a x : Nat) : (s.colorAt a x).getD 0 < 65536 := by
  cases h : s.colorAt a x with
  | none => decide
  | some c => exact colorAt_lt h

/-- Every pixel of a valid surface has a colour unless its palette is three-byte. -/
theorem Valid.colorAt_isSome (hs : s.Valid) (hf : s.format ≠ .pal888) (a x : Nat) :
    ∃ c, s.colorAt a x = some c := by
  cases hpacked : s.format.isPalette
  · exact ⟨_, colorAt_of_packed hpacked a x⟩
  · obtain ⟨p, hp, -⟩ := hs.palette_eq_some hpacked
    unfold colorAt
    cases h : s.format <;> simp_all [PixelFormat.isPalette]

theorem pixel565?_of_lt (hs : s.Valid) {x y : Nat} (hx : x < s.width) (hy : y < s.height) :
    s.pixel565? x y = s.colorAt (y * s.stride) x := by
  have hrow : (y + 1) * s.stride ≤ s.data.size := by
    rw [hs.size_data]; exact Nat.mul_le_mul_right _ hy
  simp only [pixel565?, hx, hrow, and_self, if_true]

theorem pixel565?_eq_none (hs : s.Valid) {x y : Nat} (h : s.width ≤ x ∨ s.height ≤ y) :
    s.pixel565? x y = none := by
  unfold pixel565?
  rw [if_neg]
  rintro ⟨hx, hrow⟩
  rw [hs.size_data] at hrow
  have hy : y + 1 ≤ s.height :=
    Nat.le_of_mul_le_mul_right hrow (Nat.mul_pos hs.width_pos (PixelFormat.bytesPerPixel_pos _))
  omega

end Surface

end Raster
