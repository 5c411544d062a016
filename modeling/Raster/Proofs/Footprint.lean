import Raster.Proofs.Probe
import Raster.Proofs.Recolor

set_option autoImplicit false

/-!
# Every read stays inside its buffer

Pixel bytes and palette entries are read with `Bytes.byteAt`, which gives `0` past the end of a
buffer instead of failing. That default must never be what an operation sees: every index it reads
has to lie inside its buffer. We state this as a frame property. `Surface.pad` appends any bytes
past the ends of a surface's buffers, and a reader that computes the same from every padding of a
surface reads nothing past its ends, since a read there would see the padding.

The readers are a pixel and a row of a valid surface (`Surface.pixel565?_pad`, `Surface.row?_pad`),
the pixel-by-pixel blit, which reads the source cell each destination pixel samples and, under a
key, the destination cell it keeps (`Blit.Plan.render_pad`), and the loop that recolours pixels for
shading and tinting (`mapPixelsFrom_pad`). The rows and columns a blit samples are in the source
because its region check passed or because it stretches, and a conversion always stretches. The
verbatim copy takes the source's first rows, which are there because the destination is no taller
(`Blit.verbatim_in_bounds`).

Some indices are narrowed to 16 bits: the source column each destination column samples, kept in a
table of 4096 entries, and the sides in a raw565 header. All of them are below 4096, so nothing is
cut (`Blit.samples_fit`, `Raw565.encode_header`).

`operations_stay_in_bounds` gathers these facts with those of the readers of encoded bytes: the
raw565 pixels are exactly as many bytes as the surface they are copied into, a PNG frame is zipped
into the surface's buffer and read only inside its own bytes (`fillFrame_reads_inside`), and the
probe reads nothing past the bytes it checked for.
-/

namespace Raster

namespace Bytes

variable (a e : ByteArray)

theorem get_append_left {i : Nat} (h : i < a.size) : get (a ++ e) i = get a i := by
  rw [get, get, byteAt_append_left a e h]

theorem u16le_append_left {i : Nat} (h : i + 1 < a.size) : u16le (a ++ e) i = u16le a i := by
  rw [u16le, u16le, get_append_left a e (by omega), get_append_left a e h]

theorem u16be_append_left {i : Nat} (h : i + 1 < a.size) : u16be (a ++ e) i = u16be a i := by
  rw [u16be, u16be, get_append_left a e (by omega), get_append_left a e h]

theorem u32be_append_left {i : Nat} (h : i + 3 < a.size) : u32be (a ++ e) i = u32be a i := by
  rw [u32be, u32be, get_append_left a e (by omega), get_append_left a e (by omega),
    get_append_left a e (by omega), get_append_left a e h]

/-- A range that ends inside `a` is read from `a` alone. -/
theorem extract_append_left {i j : Nat} (h : j ≤ a.size) :
    (a ++ e).extract i j = a.extract i j := by
  rw [ByteArray.extract_append,
    (ByteArray.extract_eq_empty_iff (b := e) (i := i - a.size) (j := j - a.size)).mpr (by omega),
    ByteArray.append_empty]

end Bytes

namespace Surface

/-- **`s` with any bytes past the ends of its buffers**: `e` after its pixels and `q` after its
palette. -/
def pad (s : Surface) (e q : ByteArray) : Surface :=
  { s with data := s.data ++ e, palette := s.palette.map (· ++ q) }

variable {s : Surface} (e q : ByteArray)

@[simp] theorem pad_width : (s.pad e q).width = s.width := rfl
@[simp] theorem pad_height : (s.pad e q).height = s.height := rfl
@[simp] theorem pad_format : (s.pad e q).format = s.format := rfl
@[simp] theorem pad_stride : (s.pad e q).stride = s.stride := rfl
@[simp] theorem pad_data : (s.pad e q).data = s.data ++ e := rfl

/-- Row `y` of a valid surface lies in its buffer. -/
theorem Valid.row_end_le (hs : s.Valid) {y : Nat} (hy : y < s.height) :
    y * s.stride + s.stride ≤ s.data.size := by
  rw [hs.size_data, ← Nat.succ_mul]
  exact Nat.mul_le_mul_right _ hy

/-- A palette entry is read from its own two bytes. -/
theorem paletteColor_append (p : ByteArray) (big : Bool) {i : Nat} (h : 2 * i + 1 < p.size) :
    paletteColor (p ++ q) big i = paletteColor p big i := by
  cases big
  · exact Bytes.u16le_append_left p q h
  · exact Bytes.u16be_append_left p q h

/-- **A pixel's colour is read inside the buffers**: from the cell of column `x` in the row at
`base`, and for an indexed pixel from the entry its index byte names, which a valid palette of 256
entries holds. -/
theorem colorAt_pad (hs : s.Valid) {base x : Nat} (hx : x < s.width)
    (hrow : base + s.stride ≤ s.data.size) : (s.pad e q).colorAt base x = s.colorAt base x := by
  have hcell : ∀ j, j < s.format.bytesPerPixel →
      base + x * s.format.bytesPerPixel + j < s.data.size := fun j hj => by
    have := Bytes.cell_offset_lt hx hj
    unfold stride at hrow
    omega
  cases hpacked : s.format.isPalette
  · exact colorAt_congr_cell (s := s.pad e q) (t := s) rfl hpacked fun j hj =>
      Bytes.byteAt_append_left _ _ (hcell j hj)
  · -- an indexed pixel is its index byte looked up in a palette of 256 entries
    obtain ⟨p, hp, hlen⟩ := hs.palette_eq_some hpacked
    have hidx : base + x < s.data.size := by
      have h0 := hcell 0 (PixelFormat.bytesPerPixel_pos _)
      have hle : x ≤ x * s.format.bytesPerPixel :=
        Nat.le_mul_of_pos_right _ (PixelFormat.bytesPerPixel_pos _)
      omega
    have hget := Bytes.get_lt s.data (base + x)
    unfold colorAt
    simp only [pad, hp, Option.map_some, Bytes.get_append_left _ _ hidx]
    cases hf : s.format <;>
      simp only [hf, PixelFormat.isPalette, Bool.false_eq_true] at hpacked <;>
      simp only [hf, PixelFormat.paletteLen, PixelFormat.paletteEntrySize] at hlen
    · rw [paletteColor_append q p false (by omega)]
    · rw [paletteColor_append q p true (by omega)]
    · rfl

/-- **A pixel of a valid surface is read inside its buffers.** -/
theorem pixel565?_pad (hs : s.Valid) {x y : Nat} (hx : x < s.width) (hy : y < s.height) :
    (s.pad e q).pixel565? x y = s.pixel565? x y := by
  have hrow := hs.row_end_le hy
  have hrow' : (y + 1) * s.stride ≤ (s.pad e q).data.size := by
    rw [pad_data, ByteArray.size_append, Nat.succ_mul]
    omega
  rw [pixel565?_of_lt hs hx hy, pixel565?, if_pos ⟨hx, hrow'⟩, pad_stride]
  exact colorAt_pad e q hs hx hrow

/-- **A row of a valid surface is read inside its buffer.** -/
theorem row?_pad (hs : s.Valid) {y : Nat} (hy : y < s.height) :
    (s.pad e q).row? y = s.row? y := by
  have hrow := hs.row_end_le hy
  have hrow' : (y + 1) * s.stride ≤ (s.pad e q).data.size := by
    rw [pad_data, ByteArray.size_append, Nat.succ_mul]
    omega
  rw [row?, row?, pad_stride, if_pos hrow', if_pos (by rwa [Nat.succ_mul]), pad_data,
    Bytes.slice, Bytes.slice, Bytes.extract_append_left _ _ hrow]

/-- **A fill writes exactly the surface's buffer**: one cell repeated over its length. -/
theorem fill565_size {t : Surface} {c : Nat} (h : s.fill565 c = .ok t) :
    t.data.size = s.data.size := by
  obtain ⟨-, hp, rfl⟩ := fill565_ok h
  exact Bytes.size_cycle _ _
    (by rw [PixelFormat.size_cell _ hp]; exact PixelFormat.bytesPerPixel_pos _)

/-- Past the last row there is no row to read. -/
theorem row?_eq_none (hs : s.Valid) {y : Nat} (hy : s.height ≤ y) : s.row? y = none := by
  rw [row?, if_neg]
  intro hrow
  rw [hs.size_data] at hrow
  have := Nat.le_of_mul_le_mul_right hrow
    (Nat.mul_pos hs.width_pos (PixelFormat.bytesPerPixel_pos _))
  omega

end Surface

/-! ## Blitting -/

namespace Blit

variable {src dst : Surface} {scale : Bool} {key : Option Nat}

/-- **Every sample index fits where it is kept.** Past the region check, destination column `x`
is an index of the 4096-entry column table, and the source column and row it samples are in the
source, so below 4096 and exact as 16-bit numbers. -/
theorem samples_fit (hs : src.Valid) (hd : dst.Valid) (hov : overruns src dst scale = false) :
    (∀ x, x < dst.width → x < maxDimension ∧
      (plan src dst scale key).column src dst x < src.width ∧
      (plan src dst scale key).column src dst x < 65536) ∧
    (∀ y, y < dst.height → (plan src dst scale key).row src dst y < src.height ∧
      (plan src dst scale key).row src dst y < 65536) := by
  obtain ⟨-, hsw, -, hsh⟩ := dimensionsFit_iff.mp hs.dimensionsFit
  obtain ⟨-, hdw, -, -⟩ := dimensionsFit_iff.mp hd.dimensionsFit
  unfold maxDimension at hsw hsh hdw ⊢
  refine ⟨fun x hx => ?_, fun y hy => ?_⟩
  · have hcol : (plan src dst scale key).column src dst x < src.width :=
      column_lt hs.width_pos hov hx
    omega
  · have hrow : (plan src dst scale key).row src dst y < src.height :=
      row_lt hs.height_pos hov hy
    omega

/-- **The verbatim copy's ranges lie in both buffers**: it takes as many bytes from the start of
the source as the destination holds, and a palette as long as the destination's. -/
theorem verbatim_in_bounds (hs : src.Valid) (hd : dst.Valid)
    (hov : overruns src dst scale = false) (hv : copiesVerbatim src dst scale key = true) :
    dst.data.size = dst.height * dst.stride ∧ dst.height * dst.stride ≤ src.data.size ∧
      ∀ sp dp, src.palette = some sp → dst.palette = some dp → sp.size = dp.size := by
  obtain ⟨-, -, hf, hw, hh⟩ := verbatim_facts hv hov
  refine ⟨hd.size_data, verbatim_le hs hf hw hh, fun sp dp hsp hdp => ?_⟩
  -- a palette means an indexed format, the same for both, with palettes of one length
  have hpal : src.format.isPalette = true := by
    cases h : src.format.isPalette
    · rw [hs.palette_eq_none h] at hsp
      cases hsp
    · rfl
  obtain ⟨sp', hsp', hslen⟩ := hs.palette_eq_some hpal
  obtain ⟨dp', hdp', hdlen⟩ := hd.palette_eq_some (hf ▸ hpal)
  rw [hsp, Option.some.injEq] at hsp'
  rw [hdp, Option.some.injEq] at hdp'
  rw [hsp', hdp', hslen, hdlen, hf]

variable (p : Plan) (e₁ q₁ e₂ q₂ : ByteArray)

@[simp] theorem Plan.column_pad (x : Nat) :
    p.column (src.pad e₁ q₁) (dst.pad e₂ q₂) x = p.column src dst x := rfl

@[simp] theorem Plan.row_pad (y : Nat) :
    p.row (src.pad e₁ q₁) (dst.pad e₂ q₂) y = p.row src dst y := rfl

section Render

variable (hs : src.Valid) (hd : dst.Valid)
  (hcol : ∀ x, x < dst.width → p.column src dst x < src.width)
  (hrow : ∀ y, y < dst.height → p.row src dst y < src.height)

include hs hd in
/-- **One destination pixel reads inside both buffers**: the source cell it samples in the row at
`base`, and under a key its own old cell. -/
theorem Plan.pushPixel_pad {base x y : Nat} (hx : x < dst.width) (hy : y < dst.height)
    (hx' : p.column src dst x < src.width) (hbase : base + src.stride ≤ src.data.size)
    (acc : ByteArray) :
    p.pushPixel (src.pad e₁ q₁) (dst.pad e₂ q₂) base x y acc =
      p.pushPixel src dst base x y acc := by
  have hc : (src.pad e₁ q₁).colorAt base (p.column (src.pad e₁ q₁) (dst.pad e₂ q₂) x) =
      src.colorAt base (p.column src dst x) := Surface.colorAt_pad e₁ q₁ hs hx' hbase
  -- the kept cell lies in row `y` of the destination
  have hkept : ∀ j, j < dst.format.bytesPerPixel →
      Bytes.byteAt (dst.data ++ e₂) (y * dst.stride + x * dst.format.bytesPerPixel + j) =
        Bytes.byteAt dst.data (y * dst.stride + x * dst.format.bytesPerPixel + j) := by
    intro j hj
    have hin : x * dst.format.bytesPerPixel + j < dst.stride := Bytes.cell_offset_lt hx hj
    have hlast := hd.row_end_le hy
    exact Bytes.byteAt_append_left _ _ (by omega)
  unfold Plan.pushPixel
  rw [hc]
  dsimp only
  simp only [Surface.pad_format, Surface.pad_stride, Surface.pad_data]
  split_ifs
  · exact Bytes.pushRange_congr acc hkept
  · rfl

include hs hd hcol in
theorem Plan.paintRow_pad {base y : Nat} (hy : y < dst.height)
    (hbase : base + src.stride ≤ src.data.size) :
    ∀ n x acc, x + n ≤ dst.width →
      p.paintRow (src.pad e₁ q₁) (dst.pad e₂ q₂) base y n x acc =
        p.paintRow src dst base y n x acc
  | 0, _, _, _ => rfl
  | n + 1, x, acc, hn => by
    rw [Plan.paintRow, Plan.paintRow,
      p.pushPixel_pad e₁ q₁ e₂ q₂ hs hd (by omega) hy (hcol x (by omega)) hbase,
      Plan.paintRow_pad hy hbase n (x + 1) _ (by omega)]

include hs hd hcol hrow in
theorem Plan.paint_pad :
    ∀ n y acc, y + n ≤ dst.height →
      p.paint (src.pad e₁ q₁) (dst.pad e₂ q₂) n y acc = p.paint src dst n y acc
  | 0, _, _, _ => rfl
  | n + 1, y, acc, hn => by
    -- destination row `y` samples a source row, which lies in the source's buffer
    have hbase := hs.row_end_le (hrow y (by omega))
    simp only [Plan.paint, Plan.row_pad, Surface.pad_stride, Surface.pad_width]
    rw [p.paintRow_pad e₁ q₁ e₂ q₂ hs hd hcol (by omega) hbase dst.width 0 acc (by omega),
      Plan.paint_pad n (y + 1) _ (by omega)]

include hs hd hcol hrow in
/-- **The pixel-by-pixel path reads inside both buffers** whenever the rows and columns it samples
are in the source. -/
theorem Plan.render_pad : p.render (src.pad e₁ q₁) (dst.pad e₂ q₂) = p.render src dst := by
  unfold Plan.render
  rw [Surface.pad_height, p.paint_pad e₁ q₁ e₂ q₂ hs hd hcol hrow dst.height 0 _ (by omega)]
  -- the capacity reserved up front is only a hint
  rfl

end Render

/-- **Past its checks a blit stays inside both surfaces**: the verbatim copy's ranges lie in both
buffers, every sampled index fits where it is kept, and the pixel-by-pixel path reads inside both
buffers. -/
theorem reads_in_bounds (hs : src.Valid) (hd : dst.Valid) (hov : overruns src dst scale = false) :
    (copiesVerbatim src dst scale key = true →
      dst.data.size = dst.height * dst.stride ∧ dst.height * dst.stride ≤ src.data.size ∧
      ∀ sp dp, src.palette = some sp → dst.palette = some dp → sp.size = dp.size) ∧
    (∀ x, x < dst.width → x < maxDimension ∧
      (plan src dst scale key).column src dst x < src.width ∧
      (plan src dst scale key).column src dst x < 65536) ∧
    (∀ y, y < dst.height → (plan src dst scale key).row src dst y < src.height ∧
      (plan src dst scale key).row src dst y < 65536) ∧
    ∀ e₁ q₁ e₂ q₂ : ByteArray, (plan src dst scale key).render (src.pad e₁ q₁)
      (dst.pad e₂ q₂) = (plan src dst scale key).render src dst := by
  obtain ⟨hcol, hrow⟩ := @samples_fit src dst scale key hs hd hov
  exact ⟨verbatim_in_bounds hs hd hov, hcol, hrow, fun e₁ q₁ e₂ q₂ =>
    Plan.render_pad _ e₁ q₁ e₂ q₂ hs hd (fun x hx => (hcol x hx).2.1)
      (fun y hy => (hrow y hy).1)⟩

end Blit

/-! ## Recolouring -/

/-- **Recolouring reads whole pixels inside the buffer**: `n` pixels from byte `i` are read from
bytes `i` to `i + 2n - 1`. -/
theorem mapPixelsFrom_pad (f : Nat → Nat) (data e : ByteArray) :
    ∀ n i acc, i + 2 * n ≤ data.size →
      mapPixelsFrom f (data ++ e) n i acc = mapPixelsFrom f data n i acc
  | 0, _, _, _ => rfl
  | n + 1, i, acc, h => by
    rw [mapPixelsFrom, mapPixelsFrom, Bytes.u16le_append_left data e (by omega),
      mapPixelsFrom_pad f data e n (i + 2) _ (by omega)]

/-! ## Encoded bytes -/

namespace Raw565

/-- **A raw565 header holds the sides exactly**: the 16-bit fields of a written container read
back as the surface's width and height. -/
theorem encode_header {s : Surface} {bytes : ByteArray} (h : encodeRaw s = .ok bytes) :
    Bytes.u16le bytes 0 = s.width ∧ Bytes.u16le bytes 2 = s.height := by
  have hs : s.Valid := by
    cases hf : s.fault? with
    | none => exact hf
    | some f => simp [encodeRaw, encode, Surface.validate_of_fault hf, bind, Except.bind] at h
  -- a three-byte palette has no RGB565 reading, so it is never written
  have hread : s.format ≠ .pal888 := by
    intro hp
    simp [encodeRaw, encode, Surface.validate_of_valid hs, hp,
      Surface.convert_rgb565Le_of_pal888 hs hp, bind, Except.bind] at h
  obtain ⟨t, -, ht, hw, hh, -, henc⟩ := encodeRaw_of_valid hs hread
  rw [henc, Except.ok.injEq] at h
  subst h
  rw [← hw, ← hh]
  exact header_written ht

/-- **The raw565 pixels are exactly a surface's buffer**: a container that fits its header holds
as many pixel bytes as a `w × h` RGB565 surface. -/
theorem size_pixels_of_fits {b : ByteArray} {w h : Nat} (hb : header? b = some (w, h))
    (hfits : fits b = true) : (b.extract headerLen b.size).size = h * (w * 2) := by
  simp only [fits, hb, beq_iff_eq] at hfits
  rw [ByteArray.size_extract, Nat.min_self, ← hfits]
  simp only [expectedLen, headerLen]
  rw [Nat.add_sub_cancel, Nat.mul_comm h, Nat.mul_assoc, Nat.mul_comm h, ← Nat.mul_assoc]

/-- The header is read from the first four bytes alone. -/
theorem header?_append {b : ByteArray} (e : ByteArray) (hb : 4 ≤ b.size) :
    header? (b ++ e) = header? b := by
  have hb' : 4 ≤ (b ++ e).size := by
    rw [ByteArray.size_append]
    omega
  rw [header?_of_le hb, header?_of_le hb', Bytes.u16le_append_left b e (by omega),
    Bytes.u16le_append_left b e (by omega)]

end Raw565

/-- A PNG is recognised from its first four bytes. -/
theorem Container.detect_append_png {b : ByteArray} (e : ByteArray)
    (h : Container.detect b = .ok .png) : Container.detect (b ++ e) = .ok .png := by
  have h16 := Container.le_size_of_detect h
  unfold Container.detect at h ⊢
  split_ifs at h with hshort hpng
  · rw [if_neg (by rw [ByteArray.size_append]; omega),
      Bytes.extract_append_left _ _ (by unfold minImageLen at h16; omega), if_pos hpng]
  · cases h

/-- **The probe reads a PNG's first 24 bytes only**: whatever follows them, it gives the same
answer. -/
theorem ImageInfo.probe_append_png {b : ByteArray} (e : ByteArray)
    (hc : Container.detect b = .ok .png) (h24 : 24 ≤ b.size) :
    probe (b ++ e) = probe b := by
  have h24' : 24 ≤ (b ++ e).size := by
    rw [ByteArray.size_append]
    omega
  simp only [probe, hc, Container.detect_append_png e hc, bind, Except.bind,
    Nat.not_lt.mpr h24, Nat.not_lt.mpr h24', if_false,
    Bytes.extract_append_left b e (show 16 ≤ b.size by omega),
    Bytes.u32be_append_left b e (show 16 + 3 < b.size by omega),
    Bytes.u32be_append_left b e (show 20 + 3 < b.size by omega)]

/-- **No operation reads or writes outside its buffers, and no narrowing cuts a number.**

* A pixel and a row of a valid surface are read inside its buffers, and outside the grid nothing
  is read. A fill writes exactly the surface's buffer.
* Past a blit's checks, the verbatim copy takes a range of the source as long as the destination's
  buffer and a palette as long as the destination's; the pixel-by-pixel path reads inside both
  surfaces' buffers; destination columns index a table of 4096 entries and the sampled columns
  and rows are exact as 16-bit numbers. A conversion's blit always passes the region check.
* Recolouring, as shading and tinting do, reads whole pixels inside the buffer.
* A raw565 header holds the sides exactly.
* The raw565 pixels are as many bytes as the surface they fill; a decoded PNG frame is written
  over the surface's buffer without changing its length, and each of its pixels the surface takes
  is read inside the frame; and the probe reads nothing past the PNG header or the raw565
  header. -/
theorem operations_stay_in_bounds :
    (∀ s : Surface, s.Valid → ∀ (e q : ByteArray) (x y : Nat),
      x < s.width → y < s.height →
        (s.pad e q).pixel565? x y = s.pixel565? x y ∧ (s.pad e q).row? y = s.row? y) ∧
    (∀ s : Surface, s.Valid → ∀ x y : Nat,
      (s.width ≤ x ∨ s.height ≤ y → s.pixel565? x y = none) ∧
      (s.height ≤ y → s.row? y = none)) ∧
    (∀ (s t : Surface) (c : Nat), s.fill565 c = .ok t → t.data.size = s.data.size) ∧
    (∀ (src dst : Surface) (scale : Bool) (key : Option Nat), src.Valid → dst.Valid →
      Blit.overruns src dst scale = false →
      (Blit.copiesVerbatim src dst scale key = true →
        dst.data.size = dst.height * dst.stride ∧ dst.height * dst.stride ≤ src.data.size ∧
        ∀ sp dp, src.palette = some sp → dst.palette = some dp → sp.size = dp.size) ∧
      (∀ x, x < dst.width → x < maxDimension ∧
        (Blit.plan src dst scale key).column src dst x < src.width ∧
        (Blit.plan src dst scale key).column src dst x < 65536) ∧
      (∀ y, y < dst.height → (Blit.plan src dst scale key).row src dst y < src.height ∧
        (Blit.plan src dst scale key).row src dst y < 65536) ∧
      ∀ e₁ q₁ e₂ q₂ : ByteArray, (Blit.plan src dst scale key).render (src.pad e₁ q₁)
        (dst.pad e₂ q₂) = (Blit.plan src dst scale key).render src dst) ∧
    (∀ src dst : Surface, Blit.overruns src dst true = false) ∧
    (∀ (f : Nat → Nat) (data e acc : ByteArray),
      mapPixelsFrom f (data ++ e) (data.size / 2) 0 acc =
        mapPixelsFrom f data (data.size / 2) 0 acc) ∧
    (∀ (s : Surface) (bytes : ByteArray), encodeRaw s = .ok bytes →
      Bytes.u16le bytes 0 = s.width ∧ Bytes.u16le bytes 2 = s.height) ∧
    (∀ (b : ByteArray) (w h : Nat), Raw565.header? b = some (w, h) → Raw565.fits b = true →
      (b.extract Raw565.headerLen b.size).size = h * (w * 2)) ∧
    (∀ (c : Png.ColorType) (channels : Nat) (grey : Bool), rgb8Reader c = .ok (channels, grey) →
      ∀ bytes data : ByteArray, (fillFrame channels grey bytes data).size = data.size ∧
        ∀ k j, k < min (data.size / 2) (bytes.size / channels) → j < (if grey then 1 else 3) →
          k * channels + j < bytes.size) ∧
    (∀ b e : ByteArray, Container.detect b = .ok .png → 24 ≤ b.size →
      ImageInfo.probe (b ++ e) = ImageInfo.probe b) ∧
    (∀ b e : ByteArray, 4 ≤ b.size → Raw565.header? (b ++ e) = Raw565.header? b) := by
  refine ⟨fun s hs e q x y hx hy =>
      ⟨Surface.pixel565?_pad e q hs hx hy, Surface.row?_pad e q hs hy⟩,
    fun s hs x y => ⟨Surface.pixel565?_eq_none hs, Surface.row?_eq_none hs⟩,
    fun _ _ _ h => Surface.fill565_size h,
    fun _ _ _ _ hs hd hov => Blit.reads_in_bounds hs hd hov,
    fun _ _ => Blit.overruns_stretching,
    fun f data e acc => mapPixelsFrom_pad f data e _ 0 acc (by omega),
    fun _ _ h => Raw565.encode_header h,
    fun _ _ _ hb hfits => Raw565.size_pixels_of_fits hb hfits,
    fun _ _ _ hc bytes data =>
      ⟨size_fillFrame _ _ _ _, fun _ _ hk hj => fillFrame_reads_inside hc hk hj⟩,
    fun _ e hc h24 => ImageInfo.probe_append_png e hc h24,
    fun _ e hb => Raw565.header?_append e hb⟩

end Raster
