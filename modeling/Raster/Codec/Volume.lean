import Raster.Codec.Encode

set_option autoImplicit false

/-!
# Image files

Files are kept in a `Volume`: a set of folders, each holding files by name, standing for the
file system that `decode_file`, `encode_raw_file` and `encode_file` use. Writing into a folder
that does not exist, or reading a file that does not exist, fails as the operating system does,
with "not found". The file forms of the codecs encode first and write after, so an encoding
error wins over a missing folder.
-/

namespace Raster

/-- Where a file is: its folder and its name. -/
structure Location where
  folder : String
  name : String
  deriving DecidableEq, Repr

/-- Folders and the files in them. -/
structure Volume where
  folders : List String := []
  files : List (Location × ByteArray) := []

namespace Volume

/-- **Writes a file**, replacing one of the same name; the folder must exist. -/
def write (v : Volume) (loc : Location) (bytes : ByteArray) : Except Error Volume :=
  if loc.folder ∈ v.folders then
    .ok { v with files := (loc, bytes) :: v.files.filter (·.1 != loc) }
  else .error (.file .notFound)

/-- **Reads a file.** -/
def read (v : Volume) (loc : Location) : Except Error ByteArray :=
  match v.files.lookup loc with
  | some b => .ok b
  | none => .error (.file .notFound)

end Volume

/-- Encodes a surface as raw565 into a file. -/
def encodeRawFile (v : Volume) (s : Surface) (loc : Location) : Except Error Volume := do
  v.write loc (← encodeRaw s)

/-- Encodes a surface as PNG through `enc` into a file. -/
def encodePngFile (enc : Png.Encoder) (v : Volume) (s : Surface) (loc : Location)
    (width height : Option Nat) : Except Error Volume := do
  v.write loc (← encodePng enc s width height)

/-- Reads a file and decodes it, a PNG through `dec`. -/
def decodeFile (dec : Png.Decoder) (v : Volume) (loc : Location) : Except Error Surface := do
  decode dec (← v.read loc)

end Raster
