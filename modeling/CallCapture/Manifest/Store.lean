import CallCapture.Files
import CallCapture.Json.Codec

namespace CallCapture

namespace Manifest

/-- The text of a manifest's file, laid out to be read by people. -/
def fileText (manifest : Manifest) : String := manifest.toTree.prettyText

/-- Writes the manifest into `directory`, which is made if it is missing,
in place of any previous one. The directory may have been made although
the writing failed. -/
def write (manifest : Manifest) (files : Files) (directory : Path) : Except FileFault Unit × Files :=
  match files.makeDirectories [] directory with
  | .error fault => (.error fault, files)
  | .ok files =>
    match files.write directory (manifestFileName manifest.artifact) (.text manifest.fileText) with
    | .error fault => (.error fault, files)
    | .ok files => (.ok (), files)

/-- The manifest that a text holds, with nothing behind it. -/
def ofText (text : String) : Except Error Manifest :=
  (Json.Reader.run reader text).mapError .json

/-- Reads the manifest of an artifact back from the directory that it
was written into. -/
def load (files : Files) (directory : Path) (artifact : String) : Except Error Manifest := do
  ofText (← (files.read directory (manifestFileName artifact)).mapError .file)

end Manifest

end CallCapture
