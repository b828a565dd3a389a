import CallCapture.Files
import Mathlib.Data.String.Basic

namespace CallCapture.Files

/-- Nothing that is there goes away or becomes something else, and the top
directory is as long as before. Files behind an operation that fails halfway
are of this kind, with further directories. -/
structure Keeps (files later : Files) : Prop where
  top : later.topLength = files.topLength
  node {path node} : files.node? path = some node → later.node? path = some node

theorem Keeps.refl (files : Files) : files.Keeps files := ⟨rfl, id⟩

theorem Keeps.trans {files middle later : Files} (first : files.Keeps middle) (second : middle.Keeps later) :
    files.Keeps later :=
  ⟨second.top.trans first.top, fun there => second.node (first.node there)⟩

theorem checkName_put (files : Files) (path base : Path) (node : Node) (name : String) :
    (files.put path node).checkName base name = files.checkName base name := rfl

theorem node?_put_of_ne {files : Files} {path other : Path} (different : other ≠ path) (node : Node) :
    (files.put path node).node? other = files.node? other := by
  rw [node?_put, if_neg different]
  unfold node?
  split <;> rfl

/-- What is put at a place is there, unless a directory was there before: a
directory is not overwritten. -/
theorem node?_put_self {files : Files} {path : Path} (free : files.node? path ≠ some .directory) (node : Node) :
    (files.put path node).node? path = some node := by
  have movable : ¬ path.isFixed = true := fun fixed => free (by rw [node?, if_pos fixed])
  rw [node?_put, if_neg movable, if_pos rfl]

theorem keeps_put {files : Files} {path : Path} (absent : files.node? path = none) (node : Node) :
    files.Keeps (files.put path node) := by
  refine ⟨rfl, fun {other found} there => ?_⟩
  have different : other ≠ path := fun same => by simp [same, absent] at there
  rw [node?_put_of_ne different, there]

/-- Where one part of a name leads from a directory. An empty part and a
single dot lead nowhere else, and two dots to the parent. -/
def enter (here : Path) (part : String) : Path :=
  if part = "" ∨ part = "." then here else if part = ".." then here.parent else here ++ [part]

theorem walk_cons {files : Files} {here : Path} (directory : files.node? here = some .directory) (part : String)
    (rest : List String) : files.walk here (part :: rest) =
      if part.utf8ByteSize > maxNameLength then .error .nameTooLong else files.walk (enter here part) rest := by
  unfold enter
  rw [walk, directory]
  simp only [apply_ite (files.walk · rest)]

/-- A way begins at a directory, with a part that is not too long, and goes on
from where this part leads. -/
theorem walk_cons_ok {files : Files} {here path : Path} {part : String} {rest : List String} :
    files.walk here (part :: rest) = .ok path ↔
      files.node? here = some .directory ∧ part.utf8ByteSize ≤ maxNameLength ∧
        files.walk (enter here part) rest = .ok path := by
  by_cases directory : files.node? here = some .directory
  · rw [walk_cons directory]
    by_cases long : part.utf8ByteSize > maxNameLength
    · rw [if_pos long]
      exact ⟨nofun, fun leads => absurd leads.2.1 (Nat.not_le.mpr long)⟩
    · rw [if_neg long]
      exact ⟨fun leads => ⟨directory, Nat.not_lt.mp long, leads⟩, fun leads => leads.2.2⟩
  · refine ⟨fun leads => ?_, fun leads => absurd leads.1 directory⟩
    unfold walk at leads
    split at leads
    · cases leads
    · cases leads
    · rename_i found
      exact absurd found directory

theorem walk_of_directories {files later : Files} {here path : Path} {names : List String}
    (directories : ∀ path, files.node? path = some .directory → later.node? path = some .directory)
    (leads : files.walk here names = .ok path) : later.walk here names = .ok path := by
  induction names generalizing here with
  | nil => exact leads
  | cons part rest ih =>
    obtain ⟨directory, short, onward⟩ := walk_cons_ok.mp leads
    exact walk_cons_ok.mpr ⟨directories here directory, short, ih onward⟩

theorem fileParts_eq (name : String) : fileParts name = parts name ∨ (fileParts name).getLast? = some "" := by
  unfold fileParts
  dsimp only
  split
  · exact Or.inr List.getLast?_concat
  · exact Or.inl rfl

/-- Where a new entry may be made its last part is a name, and the whole path
leads there. The other case always ends with a fault. -/
theorem locateNew_ok {files : Files} {base path : Path} {names : List String} {taken : FileFault}
    (leads : files.locateNew base names taken = .ok path) :
    names.getLast?.all isUnnamed = false ∧ files.walk base names = .ok path := by
  unfold locateNew at leads
  split at leads
  · cases walked : files.walk base (names.dropLast ++ ["."]) with
    | error fault =>
      rw [walked] at leads
      cases leads
    | ok path =>
      rw [walked] at leads
      cases leads
  · rename_i named
    exact ⟨Bool.not_eq_true _ ▸ named, leads⟩

/-- A successful writing puts the content where the name leads, which is not a
directory. The tree is otherwise as it was, which is why a writing under one
name is not seen under another. -/
theorem write_ok {files later : Files} {base : Path} {name : String} {content : Content}
    (written : files.write base name content = .ok later) :
    ∃ path, files.locate base name = .ok path ∧ files.node? path ≠ some .directory ∧
      later = files.put path (.file content) := by
  unfold write at written
  unfold locate
  cases checked : files.checkName base name with
  | error fault =>
    rw [checked] at written
    cases written
  | ok checked' =>
    rw [checked] at written
    cases leads : files.locateNew (origin base name) (fileParts name) .isDirectory with
    | error fault =>
      simp only [leads] at written
      cases written
    | ok path =>
      simp only [leads, bind, Except.bind] at written
      obtain ⟨named, walked⟩ := locateNew_ok leads
      have same : fileParts name = parts name := by
        rcases fileParts_eq name with same | slash
        · exact same
        · simp [slash, isUnnamed] at named
      rw [same] at walked
      refine ⟨path, walked, ?_, ?_⟩
      · intro directory
        rw [directory] at written
        cases written
      · split at written
        · cases written
        · exact (Except.ok.inj written).symm

/-- A name leads to a place for a file, whatever the file is to hold. It
asks for the directory on the way, for the limits and for what stands at
the place itself. -/
def Writable (files : Files) (base : Path) (name : String) : Prop :=
  ∃ path, files.checkName base name = .ok () ∧
    files.locateNew (origin base name) (fileParts name) .isDirectory = .ok path ∧ files.node? path ≠ some .directory

/-- A name is writable just if a writing under it succeeds. What is written
has no part in this. -/
theorem writable_iff {files : Files} {base : Path} {name : String} (content : Content) :
    files.Writable base name ↔ ∃ later, files.write base name content = .ok later := by
  constructor
  · rintro ⟨path, checked, leads, free⟩
    refine ⟨files.put path (.file content), ?_⟩
    rw [write, checked, leads]
    simp only [bind, Except.bind]
  · rintro ⟨later, written⟩
    rw [write] at written
    cases checked : files.checkName base name with
    | error fault =>
      rw [checked] at written
      cases written
    | ok done =>
      cases leads : files.locateNew (origin base name) (fileParts name) .isDirectory with
      | error fault =>
        rw [checked, leads] at written
        cases written
      | ok path =>
        refine ⟨path, checked, leads, fun directory => ?_⟩
        simp only [checked, leads, bind, Except.bind, directory] at written
        cases written

/-- What was written is read back under the same name. The file is put where
the directories on its way already stood, so the way stays open. -/
theorem read_write {files later : Files} {base : Path} {name s : String}
    (written : files.write base name (.text s) = .ok later) :
    later.read base name = .ok s ∧ later.isPresent base name = true := by
  obtain ⟨path, leads, free, rfl⟩ := write_ok written
  have directories (other : Path) (directory : files.node? other = some .directory) :
      (files.put path (.file (.text s))).node? other = some .directory := by
    have different : other ≠ path := fun same => free (same ▸ directory)
    rw [node?_put_of_ne different, directory]
  have again : (files.put path (.file (.text s))).locate base name = .ok path := by
    unfold locate at leads ⊢
    rw [checkName_put]
    cases checked : files.checkName base name with
    | error fault =>
      rw [checked] at leads
      cases leads
    | ok checked' =>
      rw [checked] at leads
      exact walk_of_directories directories leads
  unfold read isPresent
  rw [again]
  simp only [bind, Except.bind, node?_put_self free, Option.isSome_some, and_self]

/-- Directories that are made keep all that is there, and behind it all of
them are directories, the old ones among them. -/
theorem makeDirectories_ok {files later : Files} {here : Path} {names : List String}
    (made : files.makeDirectories here names = .ok later) (start : files.node? here = some .directory) :
    files.Keeps later ∧ later.node? (here ++ names) = some .directory := by
  induction names generalizing files here with
  | nil =>
    cases made
    exact ⟨Keeps.refl later, by rw [List.append_nil, start]⟩
  | cons name rest ih =>
    rw [List.append_cons]
    unfold makeDirectories at made
    split at made
    · rename_i directory
      exact ih made directory
    · cases made
    · rename_i absent
      have free : files.node? (here ++ [name]) ≠ some .directory := by simp [absent]
      obtain ⟨kept, directory⟩ := ih made (node?_put_self free Node.directory)
      exact ⟨(keeps_put absent .directory).trans kept, directory⟩

/-- Only directories that were missing on the way from `here` are made. So
directories that were made are found among those that were asked for. -/
theorem makeDirectories_changes {files later : Files} {here path : Path} {names : List String}
    (made : files.makeDirectories here names = .ok later) (changed : later.node? path ≠ files.node? path) :
    path <+: here ++ names ∧ files.node? path = none ∧ later.node? path = some .directory := by
  induction names generalizing files here with
  | nil =>
    cases made
    exact absurd rfl changed
  | cons name rest ih =>
    rw [List.append_cons]
    unfold makeDirectories at made
    split at made
    · exact ih made changed
    · cases made
    · rename_i absent
      by_cases same : path = here ++ [name]
      · subst same
        have free : files.node? (here ++ [name]) ≠ some .directory := by simp [absent]
        have there := node?_put_self free Node.directory
        exact ⟨List.prefix_append .., absent, (makeDirectories_ok made there).1.node there⟩
      · have before := @node?_put_of_ne files _ _ same Node.directory
        rw [← before] at changed ⊢
        exact ih made changed

theorem makeDirectories_below {files later : Files} {here path : Path} {names : List String}
    (made : files.makeDirectories here names = .ok later) (below : here.length + names.length < path.length) :
    later.node? path = files.node? path := by
  by_contra changed
  have short := (makeDirectories_changes made changed).1.length_le
  rw [List.length_append] at short
  omega

theorem file_put_directory {files : Files} {path : Path} (absent : files.node? path = none) (other : Path)
    (content : Content) :
    (files.put path .directory).node? other = some (.file content) ↔ files.node? other = some (.file content) := by
  by_cases same : other = path
  · have free : files.node? path ≠ some .directory := by simp [absent]
    rw [same, node?_put_self free, absent]
    exact ⟨nofun, nofun⟩
  · rw [node?_put_of_ne same]

/-- No file stands where a directory on the way from `here` is wanted. A
directory may stand there or nothing; then it can be made. -/
def Passable (files : Files) (here : Path) (names : List String) : Prop :=
  ∀ before, before <+: names → ∀ content, files.node? (here ++ before) ≠ some (.file content)

/-- A way is passable if its first part is no file and the rest of it is
passable from there. -/
theorem passable_cons {files : Files} {here : Path} (start : files.node? here = some .directory) (name : String)
    (rest : List String) : files.Passable here (name :: rest) ↔ files.Passable (here ++ [name]) rest := by
  constructor
  · intro passable before leads content
    have found := passable (name :: before) (List.cons_prefix_cons.mpr ⟨rfl, leads⟩) content
    rwa [List.append_cons] at found
  · intro passable before leads content
    cases before with
    | nil => simp [start]
    | cons first before =>
      obtain ⟨rfl, shorter⟩ := List.cons_prefix_cons.mp leads
      rw [List.append_cons]
      exact passable before shorter content

theorem passable_put_directory {files : Files} {path : Path} (absent : files.node? path = none) (here : Path)
    (names : List String) : (files.put path .directory).Passable here names ↔ files.Passable here names := by
  unfold Passable
  simp only [ne_eq, file_put_directory absent]

/-- Directories can be made just if no file stands in the way. By induction on
the way, each directory in the tree that the former ones have left. -/
theorem makeDirectories_ok_iff {files : Files} {here : Path} {names : List String}
    (start : files.node? here = some .directory) :
    (∃ later, files.makeDirectories here names = .ok later) ↔ files.Passable here names := by
  induction names generalizing files here with
  | nil =>
    refine ⟨fun _ before leads content => ?_, fun _ => ⟨files, rfl⟩⟩
    rw [List.prefix_nil.mp leads, List.append_nil, start]
    exact nofun
  | cons name rest ih =>
    rw [passable_cons start]
    unfold makeDirectories
    split
    · rename_i directory
      exact ih directory
    · rename_i content file
      refine ⟨nofun, fun passable => absurd ?_ (passable [] List.nil_prefix content)⟩
      rw [List.append_nil, file]
    · rename_i absent
      have free : files.node? (here ++ [name]) ≠ some .directory := by simp [absent]
      rw [ih (node?_put_self free Node.directory), passable_put_directory absent]

/-- A name that is the name of an entry, not a way to one. Neither does it
have parts nor does it stand for the directory that it is looked for in. -/
structure IsPlain (name : String) : Prop where
  noSlash : '/' ∉ name.toList
  named : isUnnamed name = false

/-- No limit keeps a name from being looked for in a directory. How long the
top directory is counts for the whole path. The name itself is limited, and so
is the path to it from the very top. -/
structure Fits (files : Files) (base : Path) (name : String) : Prop where
  noNul : hasNul name = false
  short : name.utf8ByteSize ≤ maxNameLength
  pathShort : files.pathLength base name ≤ maxPathLength

theorem Fits.of_top {files later : Files} {base : Path} {name : String} (fits : files.Fits base name)
    (top : later.topLength = files.topLength) : later.Fits base name where
  noNul := fits.noNul
  short := fits.short
  pathShort := by
    unfold pathLength
    rw [top]
    exact fits.pathShort

theorem parts_of_plain {name : String} (plain : IsPlain name) : parts name = [name] := by
  have whole : name.toList.splitOnP (· == '/') = [name.toList] := by
    refine List.splitOnP_eq_singleton fun c member => ?_
    simpa using fun same : c = '/' => plain.noSlash (same ▸ member)
  rw [parts, String.splitToList_of_valid, whole, List.map_singleton, String.ofList_toList]

theorem isAbsolute_of_plain {name : String} (plain : IsPlain name) : isAbsolute name = false := by
  unfold isAbsolute
  rw [String.startsWith_string_eq_false_iff]
  intro starts
  exact plain.noSlash (starts.subset (by decide))

/-- A plain name leads to the entry of this name, and not to the directory
itself or its parent. -/
theorem enter_of_plain {name : String} (plain : IsPlain name) (here : Path) : enter here name = here ++ [name] := by
  have named := plain.named
  simp only [isUnnamed, Bool.or_eq_false_iff, decide_eq_false_iff_not] at named
  obtain ⟨⟨empty, dot⟩, dots⟩ := named
  rw [enter, if_neg (not_or.mpr ⟨empty, dot⟩), if_neg dots]

/-- The way of a plain name leads to its entry in the directory,
whether it is there or not. The directory has to be there, and the name
must not be too long. -/
theorem walk_plain {files : Files} {here path : Path} {name : String} (plain : IsPlain name) :
    files.walk here [name] = .ok path ↔
      files.node? here = some .directory ∧ name.utf8ByteSize ≤ maxNameLength ∧ here ++ [name] = path := by
  rw [walk_cons_ok, enter_of_plain plain, walk]
  simp only [Except.ok.injEq]

theorem checkName_ok {files : Files} {base : Path} {name : String} :
    files.checkName base name = .ok () ↔ hasNul name = false ∧ files.pathLength base name ≤ maxPathLength := by
  unfold checkName
  split
  · rename_i nul
    simp [nul]
  · rename_i noNul
    split
    · rename_i long
      exact ⟨nofun, fun fits => absurd fits.2 (Nat.not_le.mpr long)⟩
    · rename_i short
      exact ⟨fun _ => ⟨Bool.not_eq_true _ ▸ noNul, Nat.not_lt.mp short⟩, fun _ => rfl⟩

theorem locate_plain {files : Files} {base path : Path} {name : String} (plain : IsPlain name) :
    files.locate base name = .ok path ↔
      files.node? base = some .directory ∧ files.Fits base name ∧ base ++ [name] = path := by
  unfold locate
  cases checked : files.checkName base name with
  | error fault =>
    refine ⟨nofun, fun leads => ?_⟩
    rw [checkName_ok.mpr ⟨leads.2.1.noNul, leads.2.1.pathShort⟩] at checked
    cases checked
  | ok =>
    obtain ⟨noNul, pathShort⟩ := checkName_ok.mp checked
    change files.walk (origin base name) (parts name) = .ok path ↔ _
    rw [origin, isAbsolute_of_plain plain, if_neg Bool.false_ne_true, parts_of_plain plain, walk_plain plain]
    exact ⟨fun leads => ⟨leads.1, ⟨noNul, leads.2.1, pathShort⟩, leads.2.2⟩,
      fun leads => ⟨leads.1, leads.2.1.short, leads.2.2⟩⟩

theorem fileParts_of_plain {name : String} (plain : IsPlain name) : fileParts name = [name] := by
  have named := plain.named
  simp only [isUnnamed, Bool.or_eq_false_iff, decide_eq_false_iff_not] at named
  simp only [fileParts, parts_of_plain plain, List.getLast?_singleton, Option.all_some, decide_eq_true_eq,
    if_neg named.1.1]

/-- A file is written under a plain name unless its directory is missing, the
name does not fit, or a directory has the name already. The tree then has the
file where it was missing, or with new content where it was. -/
theorem write_plain {files later : Files} {base : Path} {name : String} {content : Content} (plain : IsPlain name) :
    files.write base name content = .ok later ↔
      files.node? base = some .directory ∧ files.Fits base name ∧ files.node? (base ++ [name]) ≠ some .directory ∧
        files.put (base ++ [name]) (.file content) = later := by
  constructor
  · intro written
    obtain ⟨path, leads, free, same⟩ := write_ok written
    obtain ⟨directory, fits, rfl⟩ := (locate_plain plain).mp leads
    exact ⟨directory, fits, free, same.symm⟩
  · rintro ⟨directory, fits, free, rfl⟩
    have walked : files.locateNew (origin base name) (fileParts name) .isDirectory = .ok (base ++ [name]) := by
      rw [fileParts_of_plain plain, locateNew, List.getLast?_singleton, Option.all_some, plain.named,
        if_neg Bool.false_ne_true, origin, isAbsolute_of_plain plain, if_neg Bool.false_ne_true]
      exact (walk_plain plain).mpr ⟨directory, fits.short, rfl⟩
    unfold write
    rw [checkName_ok.mpr ⟨fits.noNul, fits.pathShort⟩, walked]
    simp only [bind, Except.bind]

theorem read_plain {files : Files} {base : Path} {name s : String} (plain : IsPlain name)
    (directory : files.node? base = some .directory) (fits : files.Fits base name)
    (file : files.node? (base ++ [name]) = some (.file (.text s))) : files.read base name = .ok s := by
  unfold read
  rw [(locate_plain plain).mpr ⟨directory, fits, rfl⟩]
  simp only [bind, Except.bind, file]

end CallCapture.Files
