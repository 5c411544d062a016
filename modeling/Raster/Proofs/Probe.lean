import Raster.Proofs.PngFrame

set_option autoImplicit false

/-!
# The probe and the decoder

The probe (`ImageInfo::from_bytes`) reads an image's size without decoding it: the raw565 header,
or for a PNG the big-endian words at bytes 16 and 20, once bytes 12 to 16 name the header chunk
(`IHDR`) that opens a PNG at offset 8. Decoding (`decode::decode`) recognises the container the
same way (`Container.png_iff_magic`), and decodes a raw565 container at the size its header gives
(`decode_ok_sides`).

A PNG is decoded at the size the PNG decoder reports before the image data. Where that size comes
from is the decoder's business, and the probe rests on what the decoder is documented to do, at
the one stream it is about: it accepts a stream only when its first chunk is a header chunk at
offset 8, and then reports the words at bytes 16 and 20 as the width and height
(`Png.Decoder.ReadsHeaderAt`). With such a decoder the probe gives the size and the container of
every image decoding accepts (`probe_agrees_with_decode`).
-/

namespace Raster

/-- **Where a PNG decoder reads the image's size**, at the stream `b`: it accepts `b` only when
bytes 12 to 16 name the header chunk at offset 8 and the stream reaches past that chunk's width
and height, and it reports the big-endian words at bytes 16 and 20 as the width and height. -/
def Png.Decoder.ReadsHeaderAt (dec : Png.Decoder) (b : ByteArray) : Prop :=
  ∀ info, dec.readInfo b = .ok info →
    24 ≤ b.size ∧ b.extract 12 16 = ihdrTag ∧ info.width = Bytes.u32be b 16 ∧
      info.height = Bytes.u32be b 20

/-! ## Probing -/

/-- A recognised container is at least `minImageLen` bytes long. -/
theorem Container.le_size_of_detect {b : ByteArray} {c : Container}
    (h : Container.detect b = .ok c) : minImageLen ≤ b.size := by
  unfold Container.detect at h
  split_ifs at h
  all_goals omega

/-- **A recognised container is PNG exactly when the magic is there.** -/
theorem Container.png_iff_magic {b : ByteArray} {c : Container}
    (h : Container.detect b = .ok c) : c = .png ↔ b.extract 0 4 = pngMagic := by
  unfold Container.detect at h
  split_ifs at h with hshort hpng <;> cases h
  · exact ⟨fun _ => Bytes.beq_eq_true_iff.mp hpng, fun _ => rfl⟩
  · exact ⟨nofun, fun hm => absurd (Bytes.beq_eq_true_iff.mpr hm) hpng⟩

namespace ImageInfo

/-- The probe of a raw565 container reads its header. -/
theorem probe_raw565 {b : ByteArray} (hc : Container.detect b = .ok .raw565) :
    probe b = .ok ⟨Bytes.u16le b 0, Bytes.u16le b 2, .raw565⟩ := by
  have h16 := Container.le_size_of_detect hc
  simp only [probe, hc, bind, Except.bind,
    Raw565.header?_of_le (b := b) (by unfold minImageLen at h16; omega)]
  rfl

/-- The probe of a PNG whose bytes 12 to 16 name the header chunk, and that reaches past byte 24,
reads the words at bytes 16 and 20. -/
theorem probe_png {b : ByteArray} (hc : Container.detect b = .ok .png)
    (htag : b.extract 12 16 = ihdrTag) (h24 : 24 ≤ b.size) :
    probe b = .ok ⟨Bytes.u32be b 16, Bytes.u32be b 20, .png⟩ := by
  have hne : (b.extract 12 16 != ihdrTag) = false := by rw [htag]; rfl
  simp only [probe, hc, bind, Except.bind, hne, Bool.false_eq_true, if_false,
    Nat.not_lt.mpr h24]
  rfl

end ImageInfo

/-! ## The probe agrees with the decoder -/

/-- **What a successful decode read**: the size the PNG decoder reported, or a raw565 container's
header. -/
theorem decode_ok_sides {dec : Png.Decoder} {b : ByteArray} {s : Surface}
    (h : decode dec b = .ok s) :
    (Container.detect b = .ok .png ∧ ∃ info, dec.readInfo b = .ok info ∧
      s.width = info.width ∧ s.height = info.height) ∨
    (Container.detect b = .ok .raw565 ∧ s.width = Bytes.u16le b 0 ∧
      s.height = Bytes.u16le b 2) := by
  rw [decode_eq] at h
  split at h
  · cases h
  · rename_i hc
    left
    refine ⟨hc, ?_⟩
    rw [decodePngIn_system] at h
    cases hi : dec.readInfo b with
    | error m => simp [hi, Except.mapError, bind, Except.bind] at h
    | ok info =>
      simp only [hi, Except.mapError, bind, Except.bind] at h
      -- the surface is made at the reported size, whatever the frame fills it with
      split at h
      · cases h
      · obtain ⟨-, -, -, -, -, -, rfl⟩ := fillPng_eq_ok h
        exact ⟨info, rfl, rfl, rfl⟩
  · rename_i hc
    right
    have h4 : 4 ≤ b.size := by
      have h16 := Container.le_size_of_detect hc
      unfold minImageLen at h16
      omega
    rw [Raw565.decodeIn_system h4] at h
    split_ifs at h
    cases h
    exact ⟨hc, rfl, rfl⟩

/-- **The probe agrees with the decoder** on every input the decoder accepts, when a PNG decoder
reads the image's size where it is documented to: the probe succeeds with the decoded width and
height, and names the container PNG exactly when the input starts with the PNG magic. -/
theorem probe_agrees_with_decode (dec : Png.Decoder) {b : ByteArray} {s : Surface}
    (hdec : b.extract 0 4 = pngMagic → dec.ReadsHeaderAt b) (h : decode dec b = .ok s) :
    ImageInfo.probe b =
      .ok ⟨s.width, s.height, if b.extract 0 4 = pngMagic then .png else .raw565⟩ := by
  rcases decode_ok_sides h with ⟨hc, info, hinfo, hw, hh⟩ | ⟨hc, hw, hh⟩
  · -- a PNG: the decoder's size is the pair of words the probe reads
    have hmagic := (Container.png_iff_magic hc).mp rfl
    obtain ⟨h24, htag, hw', hh'⟩ := hdec hmagic info hinfo
    rw [ImageInfo.probe_png hc htag h24, if_pos hmagic, hw, hh, hw', hh']
  · have hne : b.extract 0 4 ≠ pngMagic := fun hm => nomatch (Container.png_iff_magic hc).mpr hm
    rw [ImageInfo.probe_raw565 hc, if_neg hne, hw, hh]

/-- The probe reads the size of the one-pixel PNG the model of the codec writes, whose decoder
reads the size at bytes 16 and 20. -/
theorem probe_agrees_with_decode_one_pixel :
    Png.modelDecoder.ReadsHeaderAt (Png.modelEncoder.writeRgb8 1 1 ⟨#[16, 68, 160]⟩) ∧
      ∃ s, decode Png.modelDecoder (Png.modelEncoder.writeRgb8 1 1 ⟨#[16, 68, 160]⟩) = .ok s ∧
        ImageInfo.probe (Png.modelEncoder.writeRgb8 1 1 ⟨#[16, 68, 160]⟩) =
          .ok ⟨s.width, s.height,
            if (Png.modelEncoder.writeRgb8 1 1 ⟨#[16, 68, 160]⟩).extract 0 4 = pngMagic then .png
            else .raw565⟩ := by
  have hread : Png.modelDecoder.ReadsHeaderAt
      (Png.modelEncoder.writeRgb8 1 1 ⟨#[16, 68, 160]⟩) := by
    intro info hinfo
    have hinfo' : Png.modelDecoder.readInfo (Png.modelEncoder.writeRgb8 1 1 ⟨#[16, 68, 160]⟩) =
        .ok ⟨1, 1, 3⟩ := by
      decide +kernel
    rw [hinfo', Except.ok.injEq] at hinfo
    subst hinfo
    exact ⟨by decide +kernel, by decide +kernel, by decide +kernel, by decide +kernel⟩
  have hok : (decode Png.modelDecoder
      (Png.modelEncoder.writeRgb8 1 1 ⟨#[16, 68, 160]⟩)).toBool = true := by
    decide +kernel
  cases h : decode Png.modelDecoder (Png.modelEncoder.writeRgb8 1 1 ⟨#[16, 68, 160]⟩) with
  | error e => rw [h] at hok; cases hok
  | ok s =>
    exact ⟨hread, s, rfl, probe_agrees_with_decode Png.modelDecoder (fun _ => hread) h⟩

end Raster
