import CallCapture.Entries
import CallCapture.Error

namespace CallCapture

/-- The content of a file or of an environment variable, as far as a reader
of text can see it. -/
inductive Content where
  | text (s : String)
  | notText
  deriving DecidableEq, Inhabited

/-- What bytes are to a reader of text. All bytes that are no text
are the same to it. -/
def Content.ofBytes (bytes : ByteArray) : Content :=
  match String.fromUTF8? bytes with
  | some s => text s
  | none => notText

/-- What can stand at a path. There are no links and no permissions. What lies
in a directory is known by the paths of what lies there, so the directory
itself holds nothing. -/
inductive Node where
  | directory
  | file (content : Content)
  deriving DecidableEq, Inhabited

/-- From the top directory down. A path that leads out of it starts with `..`,
once for each directory passed, or with `/`, the root. -/
abbrev Path := List String

/-- The top directory, those that it lies in, and the root. They are
directories for good. -/
def Path.isFixed (path : Path) : Bool := path == ["/"] || path.all (· == "..")

/-- The directory that a directory lies in. The root lies in itself. Of the
directories around the top one only the way up to them is known, so the step
stays in the path. -/
def Path.parent (path : Path) : Path :=
  if path = ["/"] then path
  else if path.isFixed then path ++ [".."]
  else path.dropLast

/-- A tree of files as a value: which node stands at which path, and how many
bytes the path of the top directory itself has, which count towards the length
of every path below it; it has none if it is the root. The fixed directories
are always there, and nothing else is known outside. -/
structure Files where
  nodes : List (Path × Node) := []
  topLength : Nat := 0
  deriving DecidableEq, Inhabited

namespace Files

/-- What stands at a path, if anything does. For the fixed directories the
list of nodes is not asked. -/
def node? (files : Files) (path : Path) : Option Node :=
  if path.isFixed then some .directory else files.nodes.lookup path

/-- Puts a node at a path in place of what stood there. Whether its directory
is there is for the caller to know. -/
def put (files : Files) (path : Path) (node : Node) : Files :=
  { files with nodes := (path, node) :: files.nodes.filter fun entry => entry.1 ≠ path }

/-- Putting a node changes what stands at its path and nothing else, and the
fixed directories stay in any case. -/
theorem node?_put (files : Files) (path other : Path) (node : Node) :
    (files.put path node).node? other =
      if other.isFixed then some .directory else if other = path then some node else files.node? other := by
  simp only [node?, put, lookup_cons_pair]
  by_cases fixed : other.isFixed
  · simp only [if_pos fixed]
  · by_cases h : other = path
    · simp only [if_neg fixed, if_pos h]
    · simp only [if_neg fixed, if_neg h, lookup_filter_ne _ _ _ h]

/-- Removes the node at `path` with everything below it. Nothing happens if
nothing is there. -/
def remove (files : Files) (path : Path) : Files :=
  { files with nodes := files.nodes.filter fun entry => !path.isPrefixOf entry.1 }

/-- The names of what lies directly in a directory, in no particular order.
What lies deeper, in directories of this one, is not among them. -/
def names (files : Files) (path : Path) : List String :=
  files.nodes.filterMap fun entry =>
    if entry.1.dropLast = path then entry.1.getLast? else none

/-- The most bytes of a part of a name. A part that is longer names
nothing. -/
def maxNameLength : Nat := 255

/-- The most bytes of a name together with the whole path in front of it. A
name may be refused for it although each of its parts is short enough. -/
def maxPathLength : Nat := 4095

/-- The parts of a name between its slashes. Slashes that follow each other,
or stand at an end, make empty parts. -/
def parts (name : String) : List String := name.splitToList (· == '/')

/-- The name starts from the root, wherever it is looked for. The directory in
which it is looked for has no part in where it leads. -/
def isAbsolute (name : String) : Bool := name.startsWith "/"

/-- The name holds a NUL, which no name in a file system can. It is refused
before anything is looked for. -/
def hasNul (name : String) : Bool := name.toList.contains '\x00'

/-- Where a list of parts leads from `here`. The last part need not be
there; every part before it has to lead to a directory, empty parts and
those with dots included. -/
def walk (files : Files) (here : Path) : List String → Except FileFault Path
  | [] => .ok here
  | part :: rest =>
    match files.node? here with
    | none => .error .notFound
    | some (.file _) => .error .notDirectory
    | some .directory =>
      if part.utf8ByteSize > maxNameLength then .error .nameTooLong
      else if part = "" ∨ part = "." then files.walk here rest
      else if part = ".." then files.walk here.parent rest
      else files.walk (here ++ [part]) rest

/-- Where a name starts from: the root, or the directory in which it is looked
for. The steps of the name are taken from there, one after the other. -/
def origin (base : Path) (name : String) : Path :=
  if isAbsolute name then ["/"] else base

/-- The bytes of a name with the path of `base` in front of it, the top
directory included. The parts count as they are written, so a name that leads
back up gets no shorter. -/
def pathLength (files : Files) (base : Path) (name : String) : Nat :=
  if isAbsolute name then name.utf8ByteSize
  else (base ++ [name]).foldl (fun length part => length + 1 + part.utf8ByteSize) files.topLength

/-- Refuses a name that is not even looked for, because it holds a NUL or is
too long as a whole. -/
def checkName (files : Files) (base : Path) (name : String) : Except FileFault Unit :=
  if hasNul name then .error .nulInName
  else if files.pathLength base name > maxPathLength then .error .nameTooLong
  else .ok ()

/-- Where a name leads from a directory. Something need not be there, but the
way to it has to be open. -/
def locate (files : Files) (base : Path) (name : String) : Except FileFault Path := do
  files.checkName base name
  files.walk (origin base name) (parts name)

/-- The last part names no entry of its own directory. Something that is made
or written has to have a name that is not one of these. -/
def isUnnamed (part : String) : Bool := part = "" || part = "." || part = ".."

/-- Where a new entry may be made, the parts of its name given; `taken`
is the fault if the last one is not a name, and it comes behind the
faults of the way there. -/
def locateNew (files : Files) (base : Path) (names : List String) (taken : FileFault) :
    Except FileFault Path :=
  if names.getLast?.all isUnnamed then do
    let _ ← files.walk base (names.dropLast ++ ["."])
    .error taken
  else files.walk base names

/-- The parts of a name without the slashes at its end, which a directory may
have and a file may not. -/
def withoutLastSlashes (names : List String) : List String :=
  (names.reverse.dropWhile (· = "")).reverse

/-- The parts of a file's name. A slash at the end makes it no name for a
file, whatever stands before the slash. -/
def fileParts (name : String) : List String :=
  let names := parts name
  if names.getLast?.all (· = "") then (withoutLastSlashes names).dropLast ++ [""] else names

/-- Whether something stands where a name leads. A name that leads nowhere,
for whatever fault, has nothing there. -/
def isPresent (files : Files) (base : Path) (name : String) : Bool :=
  match files.locate base name with
  | .ok path => (files.node? path).isSome
  | .error _ => false

/-- The text of the file that a name leads to. Each reason for which there is
none has a fault of its own. -/
def read (files : Files) (base : Path) (name : String) : Except FileFault String := do
  match files.node? (← files.locate base name) with
  | none => .error .notFound
  | some .directory => .error .isDirectory
  | some (.file .notText) => .error .notText
  | some (.file (.text s)) => .ok s

/-- Creates a file or replaces its content. The directory has to be there, and
a directory is not replaced. -/
def write (files : Files) (base : Path) (name : String) (content : Content) : Except FileFault Files := do
  files.checkName base name
  let path ← files.locateNew (origin base name) (fileParts name) .isDirectory
  match files.node? path with
  | some .directory => .error .isDirectory
  | _ => .ok (files.put path (.file content))

/-- Makes one directory in a directory that is there. Nothing may stand
at its place yet. -/
def makeDirectory (files : Files) (base : Path) (name : String) : Except FileFault Files := do
  files.checkName base name
  let path ← files.locateNew (origin base name) (withoutLastSlashes (parts name)) .alreadyExists
  match files.node? path with
  | some _ => .error .alreadyExists
  | none => .ok (files.put path .directory)

/-- Makes the directories that are missing on the way from `here` down. A file
on the way is a fault, and then none is made. -/
def makeDirectories (files : Files) (here : Path) : List String → Except FileFault Files
  | [] => .ok files
  | name :: rest =>
    match files.node? (here ++ [name]) with
    | some .directory => files.makeDirectories (here ++ [name]) rest
    | some (.file _) => .error (if rest = [] then .alreadyExists else .notDirectory)
    | none => (files.put (here ++ [name]) .directory).makeDirectories (here ++ [name]) rest

end Files

/-- The environment variables that are set, each once. What a variable holds
need not be a text. -/
structure Environment where
  values : List (String × Content) := []
  deriving DecidableEq, Inhabited

namespace Environment

/-- Names that a variable can have: they are not empty, and hold neither an
equals sign nor a NUL. -/
def isName (name : String) : Bool :=
  name ≠ "" && !name.toList.contains '=' && !name.toList.contains '\x00'

/-- Takes a variable away; nothing happens if it is not set. All
other variables keep their values and their order. -/
def unset (environment : Environment) (name : String) : Environment :=
  ⟨environment.values.filter fun entry => entry.1 ≠ name⟩

/-- Sets a variable; a name that no variable can have stays unset, as does a
value with a NUL. -/
def set (environment : Environment) (name : String) (value : Content) : Environment :=
  let takes := isName name && match value with
    | .text s => !s.toList.contains '\x00'
    | .notText => true
  if takes then ⟨(name, value) :: (environment.unset name).values⟩ else environment

/-- The value of a variable that is set to a text. A variable with other
content cannot be told from one that is not set. -/
def text? (environment : Environment) (name : String) : Option String :=
  match environment.values.lookup name with
  | some (.text s) => some s
  | _ => none

end Environment

end CallCapture
