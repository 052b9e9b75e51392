import Glitch.Codec.Frame
import Glitch.Codec.Png.Decode
import Glitch.Codec.Png.Encode
import Glitch.Disk
import Glitch.Log
/-!
Image files: a frame opened from a file or saved to one, the format chosen by the file's
extension.

Extensions name fifteen formats, without regard to case; of these, PNG and JPEG are read and
written, and the others are refused. Opening reads the file first, then chooses the format.
Saving chooses the format first, then creates the file (so a refused or failing encoding leaves
an empty file), then writes the encoded image. A JPEG is saved at quality 75 without alpha.
-/
namespace Glitch

inductive ImageFormat where
  | avif | jpeg | png | gif | webp | tiff | tga | dds | bmp | ico | hdr | openExr | pnm | farbfeld | qoi
  deriving DecidableEq, Repr

namespace ImageFormat

def name : ImageFormat → String
  | .avif => "Avif"
  | .jpeg => "Jpeg"
  | .png => "Png"
  | .gif => "Gif"
  | .webp => "WebP"
  | .tiff => "Tiff"
  | .tga => "Tga"
  | .dds => "Dds"
  | .bmp => "Bmp"
  | .ico => "Ico"
  | .hdr => "Hdr"
  | .openExr => "OpenExr"
  | .pnm => "Pnm"
  | .farbfeld => "Farbfeld"
  | .qoi => "Qoi"

def ofExtension? (ext : String) : Option ImageFormat :=
  match ext.toLower with
  | "avif" => some .avif
  | "jpg" | "jpeg" => some .jpeg
  | "png" => some .png
  | "gif" => some .gif
  | "webp" => some .webp
  | "tif" | "tiff" => some .tiff
  | "tga" => some .tga
  | "dds" => some .dds
  | "bmp" => some .bmp
  | "ico" => some .ico
  | "hdr" => some .hdr
  | "exr" => some .openExr
  | "pbm" | "pam" | "ppm" | "pgm" => some .pnm
  | "ff" | "farbfeld" => some .farbfeld
  | "qoi" => some .qoi
  | _ => none

end ImageFormat

/-- Why an image file cannot be opened or saved. -/
inductive ImageError where
  | io (e : IoError)
  | undetermined
  | unknownExtension (ext : String)
  | unreadable (f : ImageFormat)
  | unwritable (f : ImageFormat)
  | jpeg (e : Jpeg.ReadFailure)
  | png (e : Png.PngError)
  | encode (reason : String)

def ImageError.message : ImageError → String
  | .io e => e.text
  | .undetermined => "The image format could not be determined"
  | .unknownExtension ext => "The file extension `." ++ quoteDebug ext ++ "` was not recognized as an image format"
  | .unreadable f => "The image format " ++ f.name ++ " is not supported"
  | .unwritable f => "The image format `" ++ f.name ++ "` is not supported"
  | .jpeg e => e.message
  | .png e =>
    if e.writing then "Format error encoding Png:\n" ++ e.detail
    else if e == .endOfFile || e == .memoryLimit then e.detail
    else "Format error decoding Png: " ++ e.detail
  | .encode r => r

/-- The messages of the underlying causes, outermost first: the codec's own report under a
decoding or encoding failure, nothing under the others. -/
def ImageError.causes : ImageError → List String
  | .jpeg (.malformed r) => ["invalid JPEG format: " ++ r]
  | .png e => if e == .endOfFile || e == .memoryLimit then [] else [e.detail]
  | _ => []

def ImageError.stops : ImageError → Bool
  | .jpeg e => e.stops
  | .png e => e.stops
  | _ => false

def imageFormatOf (path : String) : Except ImageError ImageFormat :=
  match extensionOf path with
  | none => .error .undetermined
  | some ext =>
    match ImageFormat.ofExtension? ext with
    | some f => .ok f
    | none => .error (.unknownExtension ext)

/-- The frame an image file holds, given what reading the file gave. The file is opened first,
then its format is taken from the path, then it is read and decoded; so a directory, which opens
but cannot be read, fails on its format first, and only a readable format meets the read
failure. -/
def readImage (path : String) (contents : Except IoError ByteArray) : Except ImageError Frame :=
  match contents with
  | .error e =>
    if e.kind == .isADirectory then
      match imageFormatOf path with
      | .error fe => .error fe
      | .ok .png | .ok .jpeg => .error (.io e)
      | .ok f => .error (.unreadable f)
    else .error (.io e)
  | .ok bs => do
    match ← imageFormatOf path with
    | .png => (Png.decode bs).mapError ImageError.png
    | .jpeg => (decodeFrame bs.data).mapError ImageError.jpeg
    | f => .error (.unreadable f)

def openImage (d : Disk) (path : String) : Except ImageError Frame := readImage path (d.read path)

def encodeImage (f : Frame) : ImageFormat → Except ImageError ByteArray
  | .png => (Png.encode f).mapError ImageError.png
  | .jpeg =>
    match Jpeg.encode f 75 with
    | .ok bs => .ok ⟨bs.toArray⟩
    | .error r => .error (.encode r)
  | other => .error (.unwritable other)

/-- Save a frame to an image file: the outcome, and the directory as the save left it (a failed
encoding leaves the created file empty). -/
def saveImage (d : Disk) (path : String) (f : Frame) : Except ImageError Unit × Disk :=
  match imageFormatOf path with
  | .error e => (.error e, d)
  | .ok fmt =>
    match d.write path ByteArray.empty with
    | .error e => (.error (.io e), d)
    | .ok d =>
      match encodeImage f fmt with
      | .ok bs =>
        match d.write path bs with
        | .ok d => (.ok (), d)
        | .error e => (.error (.io e), d)
      | .error e => (.error e, d)

end Glitch
