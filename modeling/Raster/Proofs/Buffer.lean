import Mathlib
import Raster.Bytes

set_option autoImplicit false

/-!
# Reading buffers back

The builders of `Raster.Bytes` push bytes onto an accumulator. What a proof needs of them is where
each pushed byte ends up, and `byteAt` (byte `i`, zero past the end) is the reading every lemma
here is stated in. Two facts carry the rest: a buffer built from an accumulator is that
accumulator with the same bytes appended as from empty (`pushRange_eq_append`), and reading an
append reads one side or the other (`byteAt_append_left`, `byteAt_append_right`).
-/

namespace Raster.Bytes

/-! ## `byteAt` -/

theorem byteAt_of_lt {b : ByteArray} {i : Nat} (h : i < b.size) : byteAt b i = b[i] :=
  dif_pos h

theorem byteAt_of_le {b : ByteArray} {i : Nat} (h : b.size ≤ i) : byteAt b i = 0 :=
  dif_neg (Nat.not_lt.mpr h)

theorem byteAt_append_left (a b : ByteArray) {i : Nat} (h : i < a.size) :
    byteAt (a ++ b) i = byteAt a i := by
  rw [byteAt_of_lt h, byteAt_of_lt (by rw [ByteArray.size_append]; omega)]
  exact ByteArray.getElem_append_left h

theorem byteAt_append_right (a b : ByteArray) (i : Nat) :
    byteAt (a ++ b) (a.size + i) = byteAt b i := by
  by_cases h : i < b.size
  · rw [byteAt_of_lt h, byteAt_of_lt (by rw [ByteArray.size_append]; omega)]
    rw [ByteArray.getElem_append_right (by omega)]
    simp only [Nat.add_sub_cancel_left]
  · have hab : (a ++ b).size ≤ a.size + i := by rw [ByteArray.size_append]; omega
    rw [byteAt_of_le hab, byteAt_of_le (Nat.le_of_not_lt h)]

/-- Reading inside an extracted range reads the original buffer. -/
theorem byteAt_extract (b : ByteArray) {s e i : Nat} (hi : s + i < e) (he : e ≤ b.size) :
    byteAt (b.extract s e) i = byteAt b (s + i) := by
  have hsize : i < (b.extract s e).size := by
    rw [ByteArray.size_extract]; omega
  rw [byteAt_of_lt hsize, byteAt_of_lt (by omega), ByteArray.getElem_extract]

/-- Byte `k` of a slice that lies inside the buffer is byte `start + k` of the buffer. -/
theorem get_slice {b : ByteArray} {start len k : Nat} (hk : k < len)
    (hs : start + len ≤ b.size) :
    get (slice b start len) k = get b (start + k) := by
  unfold get slice
  rw [byteAt_extract b (by omega) hs]

/-- The first `n` bytes of an append whose left part has at least `n` bytes. -/
theorem extract_zero_append_of_le {a : ByteArray} (b : ByteArray) {n : Nat} (h : n ≤ a.size) :
    (a ++ b).extract 0 n = a.extract 0 n := by
  rw [ByteArray.extract_append, Nat.zero_sub, Nat.sub_eq_zero_of_le h, ByteArray.extract_same,
    ByteArray.append_empty]

/-- Two buffers of one length that read the same everywhere are equal. -/
theorem ext_byteAt {a b : ByteArray} (hsize : a.size = b.size)
    (h : ∀ i, i < a.size → byteAt a i = byteAt b i) : a = b := by
  apply ByteArray.ext_getElem hsize
  intro i hi hi'
  have := h i hi
  rwa [byteAt_of_lt hi, byteAt_of_lt hi'] at this

/-- A buffer written out as a list of bytes reads as that list. -/
@[simp] theorem byteAt_mk (l : List UInt8) (i : Nat) : byteAt ⟨⟨l⟩⟩ i = l.getD i 0 := by
  unfold byteAt
  split
  · rename_i h
    have hl : i < l.length := by simpa [ByteArray.size] using h
    simp [ByteArray.getElem_eq_getElem_data, List.getD_eq_getElem?_getD,
    List.getElem?_eq_getElem hl]
  · rename_i h
    have hl : l.length ≤ i := by simpa [ByteArray.size] using h
    rw [List.getD_eq_getElem?_getD, List.getElem?_eq_none hl]
    rfl

theorem get_lt (b : ByteArray) (i : Nat) : get b i < 256 :=
  (byteAt b i).toNat_lt

/-- Byte `j` of cell `x` of a row of `k`-byte cells lies inside a row of `n > x` cells. -/
theorem cell_offset_lt {x n j k : Nat} (hx : x < n) (hj : j < k) : x * k + j < n * k :=
  calc x * k + j < x * k + k := Nat.add_lt_add_left hj _
    _ = (x + 1) * k := (Nat.succ_mul x k).symm
    _ ≤ n * k := Nat.mul_le_mul_right k hx

/-- Every byte of a buffer of `h` rows of `w` cells of `b` bytes is byte `j` of cell `x` of row
`y` for some `y < h`, `x < w` and `j < b`. -/
theorem exists_cell_of_lt {i h w b : Nat} (hi : i < h * (w * b)) :
    ∃ y x j, y < h ∧ x < w ∧ j < b ∧ i = y * (w * b) + x * b + j := by
  have hb : 0 < b := Nat.pos_of_ne_zero fun h0 => by simp [h0] at hi
  have hwb : 0 < w * b := Nat.pos_of_ne_zero fun h0 => by simp [h0] at hi
  refine ⟨i / (w * b), i % (w * b) / b, i % (w * b) % b, ?_, ?_, Nat.mod_lt _ hb, ?_⟩
  · exact Nat.div_lt_of_lt_mul (by rwa [Nat.mul_comm])
  · exact Nat.div_lt_of_lt_mul (Nat.lt_of_lt_of_eq (Nat.mod_lt i hwb) (Nat.mul_comm w b))
  · rw [Nat.add_assoc, Nat.div_add_mod', Nat.div_add_mod']

/-! ## Builders append -/

theorem push_eq_append (acc : ByteArray) (v : UInt8) : acc.push v = acc ++ [v].toByteArray :=
  ByteArray.append_toByteArray_singleton.symm

/-- **`pushRange` appends**: run on an accumulator it gives the accumulator followed by what it
gives from empty. -/
theorem pushRange_eq_append (f : Nat → UInt8) (lo n : Nat) (acc : ByteArray) :
    pushRange f lo n acc = acc ++ pushRange f lo n .empty := by
  induction n generalizing lo acc with
  | zero => exact ByteArray.append_empty.symm
  | succ n ih =>
    rw [pushRange, pushRange, ih, ih (lo + 1) (ByteArray.empty.push (f lo)), push_eq_append,
      push_eq_append, ByteArray.empty_append, ByteArray.append_assoc]

theorem byteAt_pushRange (f : Nat → UInt8) (lo : Nat) {n i : Nat} (hi : i < n) :
    byteAt (pushRange f lo n .empty) i = f (lo + i) := by
  induction n generalizing lo i with
  | zero => omega
  | succ n ih =>
    rw [pushRange, pushRange_eq_append, push_eq_append, ByteArray.empty_append]
    cases i with
    | zero =>
      rw [byteAt_append_left _ _ (by simp), byteAt_of_lt (by simp)]
      simp
    | succ i =>
      have hone : ([f lo].toByteArray).size = 1 := by simp
      rw [Nat.add_comm i 1, ← hone, byteAt_append_right, hone, ih (lo + 1) (by omega)]
      rw [Nat.add_assoc, Nat.add_comm 1 i]

/-- Pushing `a + b` bytes is pushing the first `a`, then the `b` after them. -/
theorem pushRange_add (f : Nat → UInt8) (lo a b : Nat) (acc : ByteArray) :
    pushRange f lo (a + b) acc = pushRange f (lo + a) b (pushRange f lo a acc) := by
  induction a generalizing lo acc with
  | zero => rw [Nat.zero_add, Nat.add_zero]; rfl
  | succ a ih =>
    rw [Nat.add_right_comm, pushRange, pushRange, ih, Nat.add_assoc, Nat.add_comm 1 a]

/-- Two ranges push the same bytes when their functions agree position by position. -/
theorem pushRange_congr {f g : Nat → UInt8} {lo lo' n : Nat} (acc : ByteArray)
    (h : ∀ i, i < n → f (lo + i) = g (lo' + i)) :
    pushRange f lo n acc = pushRange g lo' n acc := by
  induction n generalizing lo lo' acc with
  | zero => rfl
  | succ n ih =>
    have h0 := h 0 (Nat.succ_pos n)
    rw [Nat.add_zero, Nat.add_zero] at h0
    rw [pushRange, pushRange, h0]
    apply ih
    intro i hi
    rw [Nat.add_assoc, Nat.add_assoc, Nat.add_comm 1 i]
    exact h (i + 1) (by omega)

/-- A 16-bit value is its low byte plus 256 times the low byte of its upper half. -/
theorem low_add_low_div {c : Nat} (hc : c < 65536) :
    (low c).toNat + 256 * (low (c / 256)).toNat = c := by
  simp only [low, Nat.toUInt8_eq, UInt8.toNat_ofNat', Nat.reducePow]
  omega

/-! ## Buffers built by doubling -/

/-- Each doubling of a non-empty buffer adds at least one byte, so `fuel` doublings reach `n`
bytes or add `fuel` of them. -/
theorem min_le_size_growTo (n : Nat) :
    ∀ (fuel : Nat) (b : ByteArray), 0 < b.size → min n (b.size + fuel) ≤ (growTo n fuel b).size
  | 0, b, _ => by rw [growTo]; omega
  | fuel + 1, b, hb => by
    rw [growTo]
    split
    · omega
    · have ih := min_le_size_growTo n fuel (b ++ b) (by rw [ByteArray.size_append]; omega)
      rw [ByteArray.size_append] at ih
      omega

@[simp] theorem size_cycle (pattern : ByteArray) (n : Nat) (hp : 0 < pattern.size) :
    (cycle pattern n).size = n := by
  have hgrow := min_le_size_growTo n n pattern hp
  rw [cycle, if_neg (by omega), ByteArray.size_extract]
  omega

/-- **Doubling keeps a buffer periodic**: a buffer of whole copies of `p`, each byte the pattern's
byte at its index modulo the pattern's length, stays one through every doubling. -/
theorem byteAt_growTo {p : ByteArray} (n : Nat) :
    ∀ (fuel : Nat) (b : ByteArray), p.size ∣ b.size →
      (∀ i, i < b.size → byteAt b i = byteAt p (i % p.size)) →
      ∀ i, i < (growTo n fuel b).size → byteAt (growTo n fuel b) i = byteAt p (i % p.size)
  | 0, b, _, hb => by
    rw [growTo]
    exact hb
  | fuel + 1, b, hdvd, hb => by
    rw [growTo]
    split
    · exact hb
    · apply byteAt_growTo n fuel (b ++ b)
        (by rw [ByteArray.size_append]; exact Nat.dvd_add hdvd hdvd)
      intro i hi
      by_cases hleft : i < b.size
      · rw [byteAt_append_left _ _ hleft, hb i hleft]
      · -- a byte of the second copy is the one a whole number of patterns before it
        obtain ⟨r, rfl⟩ : ∃ r, i = b.size + r := ⟨i - b.size, by omega⟩
        rw [ByteArray.size_append] at hi
        obtain ⟨q, hq⟩ := hdvd
        rw [byteAt_append_right, hb r (by omega), hq, Nat.mul_add_mod]

/-- **Byte `i` of a repeated pattern** is the pattern's byte at `i` modulo the pattern's length. -/
theorem byteAt_cycle {p : ByteArray} (hp : 0 < p.size) {n i : Nat} (hi : i < n) :
    byteAt (cycle p n) i = byteAt p (i % p.size) := by
  have hgrow := min_le_size_growTo n n p hp
  rw [cycle, if_neg (by omega), byteAt_extract _ (by omega) (by omega), Nat.zero_add]
  exact byteAt_growTo n n p (Nat.dvd_refl _) (fun j hj => by rw [Nat.mod_eq_of_lt hj]) i
    (by omega)

@[simp] theorem size_zeros (n : Nat) : (zeros n).size = n :=
  size_cycle ⟨#[0]⟩ n (by decide)

end Raster.Bytes
