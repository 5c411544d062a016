import Raster.Bytes
import Raster.Pixel.Format
import Raster.Pixel.Rgb565
import Raster.Deflate.Fault
import Raster.Png.Chunk
import Raster.Png.Color
import Raster.Png.Fault
import Raster.Codec.Png
import Raster.Error
import Raster.Limits
import Raster.Allocator
import Raster.Surface.Basic
import Raster.Blit
import Raster.Convert
import Raster.Shade
import Raster.Noise
import Raster.Text.Hex
import Raster.Text.Digest
import Raster.Deflate.Huffman
import Raster.Deflate.Table
import Raster.Deflate.Inflate
import Raster.Deflate.Store
import Raster.Png.Crc
import Raster.Png.Header
import Raster.Png.Interlace
import Raster.Png.Filter
import Raster.Png.Text
import Raster.Png.Animation
import Raster.Png.Info
import Raster.Png.Frame
import Raster.Png.Pixels
import Raster.Png.Write
import Raster.Png.Model
import Raster.Codec.Raw
import Raster.Codec.Container
import Raster.Codec.Decode
import Raster.Codec.Encode
import Raster.Codec.Volume
import Raster.RgbImage
import Raster.Cache
import Raster.Workspace
import Raster.Surface.Edit
import Raster.Proofs.Buffer
import Raster.Proofs.Surface
import Raster.Proofs.BlitLayout
import Raster.Proofs.Blit
import Raster.Proofs.Convert
import Raster.Proofs.Raw565
import Raster.Proofs.PngRoundTrip
import Raster.Proofs.Cache
import Raster.Proofs.CacheVariants
import Raster.Proofs.Allocation
import Raster.Proofs.PngFrame
import Raster.Proofs.Decoding
import Raster.Proofs.Validity
import Raster.Proofs.Probe
import Raster.Proofs.Scaling
import Raster.Proofs.Recolor
import Raster.Proofs.Footprint
import Raster.Proofs.Writes
import Raster.Proofs.CacheFit
