import Raster.Png.Pixels
import Raster.Png.Write

set_option autoImplicit false

/-!
# A model of the PNG codec

The library takes its PNG codec as an argument (`Raster.Png.Codec`). This is the codec it runs
with: a model of the `png` crate's decoder (0.17, with palettes, low depths and transparency
expanded and 16-bit samples cut) and of an encoder of 8-bit RGB images, tested against the crate
on the library's inputs. The decoder's errors are worded as the crate words them.

The encoder writes the image data as stored deflate blocks where the crate compresses them. The
bytes differ, the image they hold does not.

On some streams the crate's decoder does not report an error but stops the program: an indexed
image whose palette does not fill whole entries of its expansion table (`PngFault.isAbort`).
`abortsOn` tells those streams apart; the model's decoder reports the fault as an error there.

No theorem of the library rests on this model. Where a theorem needs the codec to behave in some
way, the way is its hypothesis; its witness may use this model at an input where the model is
known to behave as the crate does.
-/

namespace Raster.Png

/-- What the decoder reports of a stream read as far as its image data: the image's size, and a
buffer of one decoded row for each row of the image. -/
def Info.headerInfo (info : Info) : HeaderInfo :=
  ⟨info.header.width, info.header.height, info.lineBytes * info.header.height⟩

/-- **The model's decoder.** -/
def modelDecoder : Decoder where
  readInfo b := ((readInfo b).map Info.headerInfo).mapError PngFault.message
  nextFrame b :=
    match readInfo b with
    | .error f => .error f.message
    | .ok info =>
      match readFrame b info with
      | .error f => .error f.message
      | .ok rows =>
        .ok ⟨info.ofFrame.outputColor, .eight, frameBytes info.ofFrame rows info.header.width⟩

/-- **The model's encoder.** -/
def modelEncoder : Encoder := ⟨writeRgb8⟩

/-- The model's codec. -/
def modelCodec : Codec := ⟨modelDecoder, modelEncoder⟩

/-- The words of the fault the crate's decoder stops on when it decodes the frame of `b`, if it
stops. -/
def abortsOn (b : ByteArray) : Option String :=
  match readInfo b with
  | .ok info =>
    match readFrame b info with
    | .error f => if f.isAbort then some f.message else none
    | .ok _ => none
  | .error _ => none

end Raster.Png
