import CallCapture.Occurrence
import CallCapture.Yaml.Decode
import CallCapture.Yaml.Render

namespace CallCapture.Preferences

/-- Refuses preferences with a unit whose name is at fault. They pass through
it when they are read and when they are saved. -/
def checked (preferences : Preferences) : Except Error Preferences :=
  match preferences.nameFault? with
  | some fault => .error (.unitName fault)
  | none => .ok preferences

/-- The preferences that a text holds. A blank text stands for the defaults.
What is read is checked as a whole before it is accepted. -/
def ofText (text : String) : Except Error Preferences :=
  if isBlankText text.toList then .ok {}
  else do checked (← (Yaml.Document.ofString text).preferences.mapError .document)

/-- What is to be said of preferences that passed the check. A blank text is
not checked, and has nothing to be said of it. -/
def remarks (preferences : Preferences) : List Occurrence :=
  if preferences.forcesSilently then [.verboseForces] else []

/-- What is to be said of preferences that were read; an error speaks for
itself. They are part of the log, and not of the answer. -/
def remarksOn (result : Except Error Preferences) : List Occurrence :=
  match result with
  | .ok preferences => preferences.remarks
  | .error _ => []

/-- Reads the preferences of a file; a missing one stands for the
defaults, which is worth a line in the log. A file whose name leads
nowhere counts as missing. -/
def load (files : Files) (name : String) : Except Error Preferences × List Occurrence :=
  if files.isPresent [] name then
    let result := (files.read [] name).mapError Error.file >>= ofText
    (result, remarksOn result)
  else (.ok {}, [.preferencesMissing (joinPath shownTop name)])

/-- The preference file of a directory. Without a directory it is the one of
the top directory. -/
def fileIn (directory : String) : String :=
  if directory = "" then "precache.yaml" else joinPath directory "precache.yaml"

/-- Saves preferences, unless the name of a unit is at fault. Beside the
answer stand the files behind the attempt and what is to be said of it: only
preferences that passed the check are written, and those that are not written
leave the files as they were. -/
def save (preferences : Preferences) (files : Files) (name : String) :
    Except Error Unit × Files × List Occurrence :=
  match preferences.checked with
  | .error error => (.error error, files, [])
  | .ok _ =>
    match files.write [] name (.text (Yaml.render preferences)) with
    | .error fault => (.error (.file fault), files, preferences.remarks)
    | .ok later => (.ok (), later, preferences.remarks)

end CallCapture.Preferences
