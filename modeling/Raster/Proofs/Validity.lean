import Raster.Proofs.Decoding
import Raster.RgbImage
import Raster.Surface.Edit

set_option autoImplicit false

/-!
# Every surface a caller can hold is valid

`validate` accepts a surface exactly when its sides are from 1 to 4096, its buffer holds its rows
and no more, and it has a palette of 256 entries exactly when its format is indexed
(`Surface.validate_eq_ok_iff`). Validity is an invariant of the whole interface: every way of
making a surface gives a valid one, whatever the allocator and whatever the input, and no way of
changing one breaks it. `Surface.Reachable` names the surfaces a caller can hold — those the
constructors give, and whatever the mutators make of them — and `Surface.Reachable.valid` is the
invariant, by induction over how the surface was obtained.

Writing through the pixel or palette buffer is modelled by what such a write can do: change the
bytes, never the length. The model's own edits (`writePixels`, `writePalette`, `withNoise`,
`withPaletteNoise`) are such writes. An RGB view is taken on the promise its type makes: its
buffer reaches the last pixel of its last row.
-/

namespace Raster

namespace Surface

variable {s t : Surface}

/-! ## The rules `validate` checks -/

theorem valid_of_validate {u : Unit} (h : s.validate = .ok u) : s.Valid := by
  unfold validate at h
  cases hf : s.fault? with
  | none => exact hf
  | some f => rw [hf] at h; cases h

/-- A palette is where the format wants one and of its length exactly when the format is indexed
and the palette has 256 entries. -/
theorem paletteFault_eq_none_iff' {f : PixelFormat} {p : Option ByteArray} :
    paletteFault f p = none ↔
      p.isSome = f.isPalette ∧ ∀ q ∈ p, q.size = 256 * f.paletteEntrySize := by
  rw [paletteFault_eq_none_iff]
  cases p with
  | none => cases f.isPalette <;> simp
  | some q => cases f.isPalette <;> simp [PixelFormat.paletteLen]

/-- **What `validate` accepts**: sides from 1 to 4096, a pixel buffer of height × width × bytes
per pixel, and a palette of 256 entries exactly when the format is indexed. -/
theorem validate_eq_ok_iff :
    s.validate = .ok () ↔
      1 ≤ s.width ∧ s.width ≤ 4096 ∧ 1 ≤ s.height ∧ s.height ≤ 4096 ∧
        s.data.size = s.height * (s.width * s.format.bytesPerPixel) ∧
        s.palette.isSome = s.format.isPalette ∧
        ∀ p ∈ s.palette, p.size = 256 * s.format.paletteEntrySize := by
  constructor
  · intro h
    obtain ⟨-, hfit, hsize, hpal⟩ := valid_iff.mp (valid_of_validate h)
    obtain ⟨hw1, hw2, hh1, hh2⟩ := dimensionsFit_iff.mp hfit
    exact ⟨hw1, hw2, hh1, hh2, hsize, paletteFault_eq_none_iff'.mp hpal⟩
  · rintro ⟨hw1, hw2, hh1, hh2, hsize, hpal⟩
    have hfit : dimensionsFit s.width s.height = true :=
      dimensionsFit_iff.mpr ⟨hw1, hw2, hh1, hh2⟩
    -- a buffer of whole rows of a surface with both sides positive is not empty
    have hpos : 0 < s.data.size := by
      rw [hsize]
      exact Nat.mul_pos hh1 (Nat.mul_pos hw1 (PixelFormat.bytesPerPixel_pos s.format))
    exact validate_of_valid (valid_iff.mpr ⟨hpos, hfit, hsize, paletteFault_eq_none_iff'.mpr hpal⟩)

/-- A valid surface stays valid when its palette is replaced by one of the same length. -/
theorem Valid.with_palette (hs : s.Valid) {p q : ByteArray} (hp : s.palette = some p)
    (hq : q.size = p.size) : ({ s with palette := some q } : Surface).Valid := by
  obtain ⟨hpos, hfit, hsize, hpal⟩ := valid_iff.mp hs
  refine valid_iff.mpr ⟨hpos, hfit, hsize, ?_⟩
  rw [hp] at hpal
  show paletteFault s.format (some q) = none
  simpa only [paletteFault, hq] using hpal

/-! ## Every constructor gives a valid surface -/

theorem ofParts_ok_valid {w h : Nat} {f : PixelFormat} {data : ByteArray}
    {pal : Option ByteArray} (hok : ofParts w h f data pal = .ok t) : t.Valid := by
  simp only [ofParts, bind, Except.bind] at hok
  cases hv : validate ⟨w, h, f, data, pal⟩ with
  | error e => rw [hv] at hok; cases hok
  | ok u =>
    rw [hv] at hok
    cases hok
    exact valid_of_validate hv

/-- **A conversion through any allocator gives a valid surface** of the requested format. -/
theorem convertIn_ok {a : Allocator} {src : Surface} {width height : Option Nat}
    {format : Option PixelFormat} {log : List Nat}
    (hok : ((src.convertIn a width height format).run.run log).1 = .ok t) :
    t.Valid ∧ t.format = format.getD src.format := by
  rw [convertIn_run] at hok
  split at hok
  · cases hok
  · -- the target is made, then the source is blitted into it
    split at hok
    · rename_i d log' hcreate
      obtain ⟨-, -, hf, -⟩ := create_ok hcreate
      obtain ⟨-, -, hf'⟩ := Blit.blit_ok_shape hok
      exact ⟨Blit.blit_ok_valid hok, hf'.trans hf⟩
    · cases hok

theorem size_mapPixelsFrom (f : Nat → Nat) (data : ByteArray) :
    ∀ n i (acc : ByteArray), (mapPixelsFrom f data n i acc).size = acc.size + 2 * n
  | 0, _, _ => rfl
  | n + 1, i, acc => by
    unfold mapPixelsFrom
    rw [size_mapPixelsFrom f data n]
    simp only [ByteArray.size_push]
    omega

/-- Recolouring keeps every whole pixel of a buffer. -/
theorem size_mapPixels565 (f : Nat → Nat) (data : ByteArray) :
    (mapPixels565 f data).size = 2 * (data.size / 2) := by
  rw [mapPixels565, size_mapPixelsFrom, show (ByteArray.emptyWithCapacity _).size = 0 from rfl,
    Nat.zero_add]

/-- **Recolouring gives a valid surface**: the copy it recolours is a valid RGB565 surface, whose
buffer is whole pixels. -/
theorem map565_ok_valid {src : Surface} {f : Nat → Nat} (hok : src.map565 f = .ok t) :
    t.Valid := by
  simp only [map565, bind, Except.bind] at hok
  cases hc : src.convert none none (some .rgb565Le) with
  | error e => rw [hc] at hok; cases hok
  | ok out =>
    rw [hc] at hok
    cases hok
    obtain ⟨hout, hf⟩ := convertIn_ok hc
    -- the copy is 16-bit, so its buffer is a whole number of pixels
    have hsize : out.data.size = 2 * (out.height * out.width) := by
      rw [hout.size_data, stride, hf, Option.getD_some]
      simp only [PixelFormat.bytesPerPixel]
      ring
    refine hout.with_data ?_
    rw [size_mapPixels565, ← hout.size_data, hsize]
    omega

theorem size_gatherRows (pixels : ByteArray) (width stride : Nat) :
    ∀ n y (acc : ByteArray), (∀ k < n, 3 * ((y + k) * stride) + 3 * width ≤ pixels.size) →
      (gatherRows pixels width stride n y acc).size = acc.size + n * (3 * width)
  | 0, _, _, _ => by simp [gatherRows]
  | n + 1, y, acc, hrows => by
    unfold gatherRows
    -- the row at `y` is whole, and so are the rows after it
    have hrow : 3 * (y * stride) + 3 * width ≤ pixels.size := by simpa using hrows 0
    rw [size_gatherRows pixels width stride n (y + 1) _ fun k hk => by
      simpa [Nat.add_assoc, Nat.add_comm 1 k] using hrows (k + 1) (by omega)]
    rw [ByteArray.size_append, Bytes.slice, ByteArray.size_extract]
    rw [Nat.min_eq_left hrow]
    ring_nf
    omega

/-- Every row of an RGB view lies inside its buffer when the last one does. -/
theorem rows_inside {w h stride : Nat} {pixels : ByteArray}
    (hfits : 3 * ((h - 1) * stride + w) ≤ pixels.size) :
    ∀ k < h, 3 * ((0 + k) * stride) + 3 * w ≤ pixels.size := by
  intro k hk
  have hk' : k * stride ≤ (h - 1) * stride := Nat.mul_le_mul_right stride (by omega)
  rw [Nat.zero_add]
  omega

/-- An RGB view that is taken in is made as a new three-byte surface of its size holding the
view's rows; one whose sides do not fit in 32 bits is refused before that. -/
theorem ofRgbPixels_eq_ok {w h stride : Nat} {pixels : ByteArray}
    (hok : ofRgbPixels w h stride pixels = .ok t) :
    ∃ s, Surface.new w h .rgb888 = .ok s ∧
      t = { s with data := gatherRows pixels w stride h 0 ByteArray.empty } := by
  simp only [ofRgbPixels, bind, Except.bind] at hok
  split at hok
  · cases hok
  cases hnew : Surface.new w h .rgb888 with
  | error e => rw [hnew] at hok; cases hok
  | ok s =>
    rw [hnew] at hok
    cases hok
    exact ⟨s, rfl, rfl⟩

/-- **An RGB view gives a valid three-byte surface**, when its buffer reaches the last pixel of
its last row, as the view promises. -/
theorem ofRgbPixels_ok_valid {w h stride : Nat} {pixels : ByteArray}
    (hfits : 3 * ((h - 1) * stride + w) ≤ pixels.size)
    (hok : ofRgbPixels w h stride pixels = .ok t) : t.Valid := by
  obtain ⟨s, hnew, rfl⟩ := ofRgbPixels_eq_ok hok
  obtain ⟨hw, hh, hf, hs⟩ := new_ok hnew
  refine hs.with_data ?_
  rw [size_gatherRows pixels w stride h 0 _ (rows_inside hfits), Surface.stride, hw, hh, hf]
  simp only [PixelFormat.bytesPerPixel]
  rw [show (ByteArray.empty).size = 0 from rfl]
  ring

/-- **A fill that succeeds** was given a valid packed surface, and repeats the colour's cell over
its buffer's length. -/
theorem fill565_ok {c : Nat} (hok : s.fill565 c = .ok t) :
    s.Valid ∧ s.format.isPalette = false ∧
      t = { s with data := Bytes.cycle (PixelFormat.cell s.format c) s.data.size } := by
  simp only [fill565, bind, Except.bind] at hok
  cases hv : s.validate with
  | error e => rw [hv] at hok; cases hok
  | ok u =>
    rw [hv] at hok
    by_cases hp : s.format.isPalette = true
    · simp [hp, throw, throwThe, MonadExceptOf.throw] at hok
    · rw [if_neg hp] at hok
      cases hok
      exact ⟨valid_of_validate hv, by simpa using hp, rfl⟩

/-- **Filling a packed surface keeps it valid**: the colour's cell is repeated over the buffer's
length. -/
theorem fill565_ok_valid {c : Nat} (hok : s.fill565 c = .ok t) : t.Valid := by
  obtain ⟨hs, hp, rfl⟩ := fill565_ok hok
  have hcell : 0 < (PixelFormat.cell s.format c).size := by
    rw [PixelFormat.size_cell _ hp]
    exact PixelFormat.bytesPerPixel_pos s.format
  exact hs.with_data (by rw [Bytes.size_cycle _ _ hcell, hs.size_data])

/-! ## The surfaces a caller can hold -/

/-- **The surfaces a caller can hold**: those the constructors give, and what the mutators make
of them. A write through the pixel buffer, a row of it or the palette changes bytes and never a
length. -/
inductive Reachable : Surface → Prop
  /-- Made through an allocator, after any history of requests. -/
  | create {a : Allocator} {w h : Nat} {f : PixelFormat} {log log' : List Nat} {s : Surface} :
      (create a w h f).run.run log = (.ok s, log') → Reachable s
  | new {w h : Nat} {f : PixelFormat} {s : Surface} : Surface.new w h f = .ok s → Reachable s
  | ofParts {w h : Nat} {f : PixelFormat} {data : ByteArray} {pal : Option ByteArray}
      {s : Surface} : ofParts w h f data pal = .ok s → Reachable s
  | convertIn {a : Allocator} {src : Surface} {width height : Option Nat}
      {format : Option PixelFormat} {log : List Nat} {s : Surface} :
      ((src.convertIn a width height format).run.run log).1 = .ok s → Reachable s
  | convert {src : Surface} {width height : Option Nat} {format : Option PixelFormat}
      {s : Surface} : src.convert width height format = .ok s → Reachable s
  | decode {dec : Png.Decoder} {r : DecodeRequest} {s : Surface} :
      (r.run dec).1 = .ok s → Reachable s
  | shade {src : Surface} {divisor : Nat} {s : Surface} : src.shade divisor = .ok s → Reachable s
  | tint {src : Surface} {color : Nat} {s : Surface} : src.tint color = .ok s → Reachable s
  /-- Built from an RGB view, whose buffer reaches the last pixel of its last row. -/
  | ofRgbPixels {w h stride : Nat} {pixels : ByteArray} {s : Surface} :
      3 * ((h - 1) * stride + w) ≤ pixels.size → ofRgbPixels w h stride pixels = .ok s →
      Reachable s
  /-- A write through the pixel buffer or one of its rows. -/
  | pixels {s : Surface} {data : ByteArray} :
      Reachable s → data.size = s.data.size → Reachable { s with data := data }
  /-- A write through the palette. -/
  | palette {s : Surface} {p q : ByteArray} :
      Reachable s → s.palette = some p → q.size = p.size → Reachable { s with palette := some q }
  | fill {s : Surface} {c : Nat} {t : Surface} : Reachable s → s.fill565 c = .ok t → Reachable t
  /-- A blit into a surface the caller holds, with or without a key. -/
  | blit {src dst : Surface} {scale : Bool} {key : Option Nat} {t : Surface} :
      Reachable dst → src.blit dst scale key = .ok t → Reachable t

/-- **Every surface a caller can hold is valid**, by induction over how it was obtained. -/
theorem Reachable.valid (h : Reachable s) : s.Valid := by
  induction h with
  | create hrun => exact (create_ok hrun).2.2.2
  | new hnew => exact valid_of_new hnew
  | ofParts hok => exact ofParts_ok_valid hok
  | convertIn hok => exact (convertIn_ok hok).1
  | convert hok => exact (convertIn_ok hok).1
  | decode hok => exact DecodeRequest.valid_of_run hok
  | shade hok => exact map565_ok_valid hok
  | tint hok => exact map565_ok_valid hok
  | ofRgbPixels hfits hok => exact ofRgbPixels_ok_valid hfits hok
  | pixels _ hsize ih => exact ih.with_data (hsize.trans ih.size_data)
  | palette _ hp hq ih => exact ih.with_palette hp hq
  | fill _ hok => exact fill565_ok_valid hok
  | blit _ hok => exact Blit.blit_ok_valid hok

/-! ## The model's edits are writes through the buffers -/

theorem Noise.size_fill : ∀ n (seed : UInt32) (acc : ByteArray),
    (Noise.fill n seed acc).size = acc.size + n
  | 0, _, _ => rfl
  | n + 1, seed, acc => by
    unfold Noise.fill
    rw [Noise.size_fill n, ByteArray.size_push]
    omega

theorem Noise.size_bytes (seed : UInt32) (n : Nat) : (Noise.bytes seed n).size = n := by
  rw [Noise.bytes, Noise.size_fill, show (ByteArray.emptyWithCapacity n).size = 0 from rfl,
    Nat.zero_add]

/-- Writing the start of a buffer keeps its length. -/
theorem size_overwrite_extract (b bytes : ByteArray) :
    (Bytes.overwrite b (bytes.extract 0 b.size)).size = b.size := by
  rw [Bytes.overwrite, ByteArray.size_append, ByteArray.size_extract, ByteArray.size_extract]
  omega

/-- A palette edit of a surface without a palette leaves it as it was. -/
theorem eq_of_palette_none (hp : s.palette = none) : { s with palette := none } = s := by
  cases s
  dsimp only at hp
  rw [hp]

namespace Reachable

theorem writePixels (h : Reachable s) (bytes : ByteArray) : Reachable (s.writePixels bytes) :=
  .pixels h (size_overwrite_extract s.data bytes)

theorem withNoise (h : Reachable s) (seed : UInt32) : Reachable (s.withNoise seed) :=
  .pixels h (Noise.size_bytes seed s.data.size)

/-- Editing the palette through a function that keeps its length. -/
theorem mapPalette (h : Reachable s) (g : ByteArray → ByteArray)
    (hg : ∀ p, (g p).size = p.size) : Reachable { s with palette := s.palette.map g } := by
  cases hp : s.palette with
  | none =>
    rw [Option.map_none, eq_of_palette_none hp]
    exact h
  | some p => exact .palette h hp (hg p)

theorem writePalette (h : Reachable s) (bytes : ByteArray) : Reachable (s.writePalette bytes) :=
  h.mapPalette _ fun p => size_overwrite_extract p bytes

theorem withPaletteNoise (h : Reachable s) (seed : UInt32) :
    Reachable (s.withPaletteNoise seed) :=
  h.mapPalette _ fun p => Noise.size_bytes seed p.size

end Reachable

end Surface

/-! ## Validity is an invariant of the interface -/

/-- **Validity is an invariant of the interface.** `validate` accepts a surface exactly when its
sides are from 1 to 4096, its buffer holds height × width × bytes per pixel bytes, and it has a
palette of 256 entries of the format's size exactly when the format is indexed. Every surface a
caller can hold passes it, and the model's own edits of pixels and palettes keep a surface one a
caller can hold. -/
theorem reachable_surfaces_validate :
    (∀ s : Surface, s.validate = .ok () ↔
      1 ≤ s.width ∧ s.width ≤ 4096 ∧ 1 ≤ s.height ∧ s.height ≤ 4096 ∧
        s.data.size = s.height * (s.width * s.format.bytesPerPixel) ∧
        s.palette.isSome = s.format.isPalette ∧
        ∀ p ∈ s.palette, p.size = 256 * s.format.paletteEntrySize) ∧
    (∀ s, Surface.Reachable s → s.validate = .ok ()) ∧
    (∀ s, Surface.Reachable s → ∀ (bytes : ByteArray) (seed : UInt32),
      Surface.Reachable (s.writePixels bytes) ∧ Surface.Reachable (s.writePalette bytes) ∧
        Surface.Reachable (s.withNoise seed) ∧ Surface.Reachable (s.withPaletteNoise seed)) := by
  refine ⟨fun s => Surface.validate_eq_ok_iff, fun s h => Surface.validate_of_valid h.valid,
    fun s h bytes seed => ?_⟩
  exact ⟨h.writePixels bytes, h.writePalette bytes, h.withNoise seed, h.withPaletteNoise seed⟩

/-- A new one-pixel surface filled red, then written through its pixel buffer, validates. -/
theorem reachable_surfaces_validate_filled :
    Surface.Reachable ⟨1, 1, .rgb565Le, ⟨#[7, 9]⟩, none⟩ ∧
      (⟨1, 1, .rgb565Le, ⟨#[7, 9]⟩, none⟩ : Surface).validate = .ok () := by
  have hnew : Surface.new 1 1 .rgb565Le = .ok ⟨1, 1, .rgb565Le, Bytes.zeros 2, none⟩ := rfl
  have hfill : (⟨1, 1, .rgb565Le, Bytes.zeros 2, none⟩ : Surface).fill565 0xF800 =
      .ok ⟨1, 1, .rgb565Le, ⟨#[0, 248]⟩, none⟩ := rfl
  have hsize : (⟨#[7, 9]⟩ : ByteArray).size =
      (⟨1, 1, .rgb565Le, ⟨#[0, 248]⟩, none⟩ : Surface).data.size := rfl
  have hr : Surface.Reachable ⟨1, 1, .rgb565Le, ⟨#[7, 9]⟩, none⟩ :=
    .pixels (.fill (.new hnew) hfill) hsize
  exact ⟨hr, reachable_surfaces_validate.2.1 _ hr⟩

end Raster
