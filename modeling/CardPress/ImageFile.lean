import CardPress.Fault
import CardPress.Files.Store
import CardPress.ImageFile.Bmp
import CardPress.ImageFile.Png
import CardPress.ImageFile.Pnm
import CardPress.ImageFile.Qoi
import CardPress.ImageFile.Tga
import CardPress.ImageFile.Tiff

/-!
# Image files

The extension of a path says which format a file has, whatever it holds. Six formats have codecs.

## Restriction

The others, JPEG, GIF and WebP among them, are known by name only: reading a file of theirs fails as
for a damaged one, and writing one as for a canvas that the format cannot hold, where a build with
their codecs would go on. So no outcome that rests on such a file being read or written is one of
this program.
-/

namespace CardPress

inductive ImageFormat where
  | png | tiff | tga | bmp | qoi | pnm
  /-- Known by its name, with no codec. -/
  | other
  deriving DecidableEq, Repr

namespace ImageFormat

/-- Extensions in small letters with their formats. -/
def extensions : List (String × ImageFormat) := [
  ("png", .png), ("apng", .png), ("tif", .tiff), ("tiff", .tiff), ("tga", .tga), ("bmp", .bmp),
  ("qoi", .qoi), ("pbm", .pnm), ("pgm", .pnm), ("ppm", .pnm), ("pnm", .pnm), ("pam", .pnm),
  ("avif", .other), ("jpg", .other), ("jpeg", .other), ("jfif", .other), ("gif", .other),
  ("webp", .other), ("dds", .other), ("ico", .other), ("hdr", .other), ("exr", .other),
  ("ff", .other)]

def ofPath? (path : String) : Option ImageFormat := do
  let extension ← Path.extension? path
  extensions.lookup (String.ofList (extension.toList.map Char.toLower))

def decode? (f : ImageFormat) (b : ByteArray) : Option Canvas :=
  match f with
  | .png => Png.decode? b
  | .tiff => Tiff.decode? b
  | .tga => Tga.decode? b
  | .bmp => Bmp.decode? b
  | .qoi => Qoi.decode? b
  | .pnm => Pnm.decode? b
  | .other => none

def encode? (f : ImageFormat) (c : Canvas) : Option ByteArray :=
  match f with
  | .png => Png.encode? c
  | .tiff => Tiff.encode? c
  | .tga => Tga.encode? c
  | .bmp => some (Bmp.encode c)
  | .qoi => Qoi.encode? c
  | .pnm | .other => none

end ImageFormat

namespace FileStore

def readImage (s : FileStore) (path : String) : Except ImageFault Canvas := do
  let content ← (s.read path).mapError .file
  let some format := ImageFormat.ofPath? path | throw .unknownFormat
  let some canvas := format.decode? content | throw .damaged
  return canvas

/-- Write a canvas in the format of the path. The store comes back in any case, as writing begins
with an empty file, which stays if the canvas cannot be written in the format. -/
def writeImage (s : FileStore) (path : String) (c : Canvas) : Except ImageFault Unit × FileStore :=
  match ImageFormat.ofPath? path with
  | none => (.error .unknownFormat, s)
  | some format =>
    match s.write path ((format.encode? c).getD ByteArray.empty) with
    | .error fault => (.error (.file fault), s)
    | .ok s => (if (format.encode? c).isSome then .ok () else .error .cannotWrite, s)

end FileStore

end CardPress
