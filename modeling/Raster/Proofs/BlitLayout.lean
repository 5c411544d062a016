import Raster.Blit
import Raster.Proofs.Surface

set_option autoImplicit false

/-!
# Where the general path puts each pixel

The general path of a blit builds the destination's pixel buffer from empty, one row after the
other and one pixel after the other within a row. Each pixel appends the bytes of one cell: the
old cell when the sampled colour is the transparent key, the colour's own cell otherwise
(`Plan.cellBytes`).

This file turns that loop into a statement about positions. Every builder appends
(`Plan.paintRow_eq_append`, `Plan.paint_eq_append`), every cell of a packed destination has the
format's cell size, and so byte `j` of pixel `(x, y)` stands at `y * stride + x * bpp + j`
(`Plan.byteAt_render`). Reading the pixel back then gives either the destination's old colour or
the sampled source colour (`Plan.render_pixel565?`).
-/

namespace Raster

theorem PixelFormat.pushCell_eq_append (f : PixelFormat) (c : Nat) (acc : ByteArray) :
    f.pushCell c acc = acc ++ f.cell c := by
  cases f <;>
    simp only [PixelFormat.pushCell, PixelFormat.cell, Bytes.push_eq_append,
      ByteArray.append_assoc] <;>
    rfl

namespace Blit

variable (p : Plan) (src dst : Surface)

/-- The bytes destination pixel `(x, y)` gets along the general path, where `base` is where the
sampled source row starts: its old cell when the sampled colour is the key, the colour's cell
otherwise. -/
def Plan.cellBytes (base x y : Nat) : ByteArray :=
  let c := (src.colorAt base (p.column src dst x)).getD 0
  if p.skips c then
    Bytes.pushRange (Bytes.byteAt dst.data) (y * dst.stride + x * dst.format.bytesPerPixel)
      dst.format.bytesPerPixel .empty
  else dst.format.cell c

theorem Plan.pushPixel_eq_append (base x y : Nat) (acc : ByteArray) :
    p.pushPixel src dst base x y acc = acc ++ p.cellBytes src dst base x y := by
  unfold pushPixel cellBytes
  dsimp only
  split
  · exact Bytes.pushRange_eq_append _ _ _ _
  · exact PixelFormat.pushCell_eq_append _ _ _

theorem Plan.paintRow_eq_append (base y : Nat) :
    ∀ (n x : Nat) (acc : ByteArray),
      p.paintRow src dst base y n x acc = acc ++ p.paintRow src dst base y n x .empty
  | 0, _, acc => ByteArray.append_empty.symm
  | n + 1, x, acc => by
    rw [paintRow, paintRow, Plan.paintRow_eq_append base y n (x + 1),
      Plan.paintRow_eq_append base y n (x + 1) (p.pushPixel src dst base x y .empty),
      Plan.pushPixel_eq_append, Plan.pushPixel_eq_append, ByteArray.empty_append,
      ByteArray.append_assoc]

theorem Plan.paint_eq_append :
    ∀ (n y : Nat) (acc : ByteArray), p.paint src dst n y acc = acc ++ p.paint src dst n y .empty
  | 0, _, acc => ByteArray.append_empty.symm
  | n + 1, y, acc => by
    rw [paint, paint, Plan.paint_eq_append n (y + 1),
      Plan.paint_eq_append n (y + 1) (p.paintRow src dst _ y dst.width 0 .empty),
      Plan.paintRow_eq_append p src dst _ y dst.width 0 acc, ByteArray.append_assoc]

section Packed

variable {dst} (hpacked : dst.format.isPalette = false)
include hpacked

theorem Plan.size_cellBytes (base x y : Nat) :
    (p.cellBytes src dst base x y).size = dst.format.bytesPerPixel := by
  unfold cellBytes
  dsimp only
  split
  · rw [Bytes.size_pushRange, ByteArray.size_empty, Nat.zero_add]
  · exact PixelFormat.size_cell _ hpacked _

theorem Plan.size_paintRow (base y : Nat) :
    ∀ n x, (p.paintRow src dst base y n x .empty).size = n * dst.format.bytesPerPixel
  | 0, _ => by rw [paintRow, ByteArray.size_empty, Nat.zero_mul]
  | n + 1, x => by
    rw [paintRow, Plan.paintRow_eq_append, ByteArray.size_append,
      Plan.size_paintRow base y n (x + 1), Plan.pushPixel_eq_append, ByteArray.empty_append,
      Plan.size_cellBytes p src hpacked, Nat.succ_mul, Nat.add_comm]

/-- Byte `j` of the `k`-th pixel painted into a row is byte `j` of that pixel's cell. -/
theorem Plan.byteAt_paintRow (base y : Nat) :
    ∀ {n x k j : Nat}, k < n → j < dst.format.bytesPerPixel →
      Bytes.byteAt (p.paintRow src dst base y n x .empty) (k * dst.format.bytesPerPixel + j) =
        Bytes.byteAt (p.cellBytes src dst base (x + k) y) j
  | 0, _, _, _, hk, _ => absurd hk (Nat.not_lt_zero _)
  | n + 1, x, k, j, hk, hj => by
    have hcell := Plan.size_cellBytes p src hpacked base x y
    rw [paintRow, Plan.paintRow_eq_append, Plan.pushPixel_eq_append, ByteArray.empty_append]
    cases k with
    | zero =>
      rw [Nat.zero_mul, Nat.zero_add, Nat.add_zero]
      exact Bytes.byteAt_append_left _ _ (hcell ▸ hj)
    | succ k =>
      -- the first cell is `bpp` bytes long, so the rest of the row starts right after it
      have hpos : (k + 1) * dst.format.bytesPerPixel + j =
          (p.cellBytes src dst base x y).size + (k * dst.format.bytesPerPixel + j) := by
        rw [hcell, Nat.succ_mul]; omega
      rw [hpos, Bytes.byteAt_append_right, Plan.byteAt_paintRow base y (by omega) hj,
        Nat.add_assoc, Nat.add_comm 1 k]

theorem Plan.size_paint : ∀ n y, (p.paint src dst n y .empty).size = n * dst.stride
  | 0, _ => by rw [paint, ByteArray.size_empty, Nat.zero_mul]
  | n + 1, y => by
    rw [paint, Plan.paint_eq_append, ByteArray.size_append, Plan.size_paint n (y + 1),
      Plan.size_paintRow p src hpacked, Surface.stride, Nat.succ_mul, Nat.add_comm]

/-- Byte `j` of pixel `x` of the `m`-th row painted is byte `j` of that pixel's cell. -/
theorem Plan.byteAt_paint :
    ∀ {n y m x j : Nat}, m < n → x < dst.width → j < dst.format.bytesPerPixel →
      Bytes.byteAt (p.paint src dst n y .empty)
          (m * dst.stride + (x * dst.format.bytesPerPixel + j)) =
        Bytes.byteAt
          (p.cellBytes src dst (p.row src dst (y + m) * src.stride) x (y + m)) j
  | 0, _, _, _, _, hm, _, _ => absurd hm (Nat.not_lt_zero _)
  | n + 1, y, m, x, j, hm, hx, hj => by
    have hrow := Plan.size_paintRow p src hpacked (p.row src dst y * src.stride) y dst.width 0
    rw [paint, Plan.paint_eq_append]
    cases m with
    | zero =>
      simp only [Nat.zero_mul, Nat.zero_add, Nat.add_zero]
      rw [Bytes.byteAt_append_left _ _ (hrow ▸ Bytes.cell_offset_lt hx hj),
        Plan.byteAt_paintRow p src hpacked _ _ hx hj, Nat.zero_add]
    | succ m =>
      -- a painted row is `stride` bytes long, so the next rows start right after it
      have hpos : (m + 1) * dst.stride + (x * dst.format.bytesPerPixel + j) =
          (p.paintRow src dst (p.row src dst y * src.stride) y dst.width 0 .empty).size +
            (m * dst.stride + (x * dst.format.bytesPerPixel + j)) := by
        rw [hrow, Nat.succ_mul, Surface.stride]; omega
      rw [hpos, Bytes.byteAt_append_right, Plan.byteAt_paint (by omega) hx hj, Nat.add_assoc,
        Nat.add_comm 1 m]

theorem Plan.size_render : (p.render src dst).size = dst.height * dst.stride :=
  Plan.size_paint p src hpacked dst.height 0

/-- **Byte `j` of pixel `(x, y)` of the general path's buffer is byte `j` of that pixel's
cell.** -/
theorem Plan.byteAt_render {x y j : Nat} (hx : x < dst.width) (hy : y < dst.height)
    (hj : j < dst.format.bytesPerPixel) :
    Bytes.byteAt (p.render src dst) (y * dst.stride + x * dst.format.bytesPerPixel + j) =
      Bytes.byteAt (p.cellBytes src dst (p.row src dst y * src.stride) x y) j := by
  have h := Plan.byteAt_paint p src hpacked (y := 0) hy hx hj
  rw [Nat.zero_add] at h
  rw [Nat.add_assoc]
  exact h

/-- **Reading back a pixel of the general path's buffer** gives the destination's old colour
where the sampled source colour is the key, and the sampled source colour elsewhere. -/
theorem Plan.render_pixel565? (hdst : dst.Valid) {x y : Nat} (hx : x < dst.width)
    (hy : y < dst.height) :
    ({ dst with data := p.render src dst } : Surface).pixel565? x y =
      let c := (src.colorAt (p.row src dst y * src.stride) (p.column src dst x)).getD 0
      if p.skips c then dst.pixel565? x y else some c := by
  have hvalid := hdst.with_data (Plan.size_render p src hpacked)
  rw [Surface.pixel565?_of_lt hvalid hx hy, Surface.pixel565?_of_lt hdst hx hy]
  dsimp only
  have hcell := fun j (hj : j < dst.format.bytesPerPixel) =>
    Plan.byteAt_render p src hpacked hx hy hj
  unfold cellBytes at hcell
  dsimp only at hcell
  split
  · rename_i hskip
    apply @Surface.colorAt_congr_cell { dst with data := p.render src dst } dst rfl hpacked
    intro j hj
    refine (hcell j hj).trans ?_
    rw [if_pos hskip, Bytes.byteAt_pushRange _ _ hj]
  · rename_i hskip
    apply @Surface.colorAt_of_cell { dst with data := p.render src dst } hpacked
    · exact Surface.colorAt_getD_lt _ _
    · intro j hj
      refine (hcell j hj).trans ?_
      rw [if_neg hskip]

end Packed

end Blit

end Raster
