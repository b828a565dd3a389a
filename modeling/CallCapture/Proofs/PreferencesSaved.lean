import CallCapture.Preferences.Store
import CallCapture.Proofs.DecodedUnits
import CallCapture.Proofs.FileTree
import CallCapture.Proofs.PreferenceDecoding

namespace CallCapture

namespace Preferences

variable {preferences : Preferences}

theorem nameFault?_eq_none : preferences.nameFault? = none ↔ ∀ unit ∈ preferences.units, Named unit.1 := by
  rw [nameFault?, List.findSome?_eq_none_iff]
  exact forall₂_congr fun unit _ => named_iff

theorem not_blank (preferences : Preferences) : isBlankText (Yaml.render preferences).toList = false := by
  rw [Yaml.render_toList]
  rfl

/-- The text of saved preferences is loaded as they were. The document is
neither blank nor at fault, so it is read as what it is. -/
theorem ofText_render (named : ∀ unit ∈ preferences.units, Named unit.1)
    (distinct : (preferences.units.map Prod.fst).Nodup) : ofText (Yaml.render preferences) = .ok preferences := by
  rw [ofText, not_blank, if_neg Bool.false_ne_true, Yaml.preferences_rendered named distinct]
  change preferences.checked = _
  rw [checked, nameFault?_eq_none.mpr named]

/-- Whatever is loaded has units with proper names, each of them once.
So what was loaded can be edited and saved again, unless an edit
brings in another name. -/
theorem ofText_ok {text : String} (read : ofText text = .ok preferences) :
    (∀ unit ∈ preferences.units, Named unit.1) ∧ (preferences.units.map Prod.fst).Nodup := by
  unfold ofText at read
  split at read
  · cases read
    exact ⟨List.forall_mem_nil _, List.nodup_nil⟩
  · cases found : (Yaml.Document.ofString text).preferences with
    | error fault =>
      rw [found] at read
      cases read
    | ok decoded =>
      rw [found] at read
      change decoded.checked = _ at read
      unfold checked at read
      split at read
      · cases read
      · rename_i clean
        cases read
        exact ⟨nameFault?_eq_none.mp clean, Yaml.Document.preferences_distinct found⟩

/-- Preferences that are not saved leave the files as they were, whatever has
kept them from being saved. The names are looked at before the file is opened,
and a file that cannot be written is not changed. -/
theorem save_refused_keeps {files : Files} {name : String} {error : Error}
    (refused : (preferences.save files name).1 = .error error) : (preferences.save files name).2.1 = files := by
  unfold save at refused ⊢
  split
  · rfl
  · rename_i passed
    rw [passed] at refused
    dsimp only at refused ⊢
    split
    · rfl
    · rename_i written
      rw [written] at refused
      cases refused

theorem save_written {files later : Files} {name : String} (named : ∀ unit ∈ preferences.units, Named unit.1)
    (written : files.write [] name (.text (Yaml.render preferences)) = .ok later) :
    preferences.save files name = (.ok (), later, preferences.remarks) := by
  rw [save, checked, nameFault?_eq_none.mpr named]
  dsimp only
  rw [written]

theorem load_of_read {files : Files} {name text : String} (there : files.isPresent [] name = true)
    (read : files.read [] name = .ok text) : (load files name).1 = ofText text := by
  rw [load, if_pos there, read]
  rfl

/-- The same switches, and the same units in any order. If no unit stands
twice in them, they answer alike for every unit. -/
structure Same (preferences other : Preferences) : Prop where
  forceRun : preferences.forceRun = other.forceRun
  verbose : preferences.verbose = other.verbose
  units : preferences.units.Perm other.units

theorem Same.named {written : Preferences} (same : written.Same preferences)
    (named : ∀ unit ∈ preferences.units, Named unit.1) : ∀ unit ∈ written.units, Named unit.1 := fun unit member =>
  named unit (same.units.subset member)

theorem Same.distinct {written : Preferences} (same : written.Same preferences)
    (distinct : (preferences.units.map Prod.fst).Nodup) : (written.units.map Prod.fst).Nodup :=
  (same.units.map Prod.fst).nodup_iff.mpr distinct

/-- What is saved is loaded as it was. It is there, and its text is
that of the document. -/
theorem saved_and_loaded {files : Files} {name : String} (named : ∀ unit ∈ preferences.units, Named unit.1)
    (distinct : (preferences.units.map Prod.fst).Nodup) (writable : files.Writable [] name) :
    ∃ later log, preferences.save files name = (.ok (), later, log) ∧ (load later name).1 = .ok preferences := by
  obtain ⟨later, written⟩ := (Files.writable_iff (.text (Yaml.render preferences))).mp writable
  obtain ⟨read, there⟩ := Files.read_write written
  exact ⟨later, _, save_written named written, (load_of_read there read).trans (ofText_render named distinct)⟩

/-- Preferences with a unit that has no proper name are refused, in the same
way wherever they are to be saved. The file is not even looked for. -/
theorem save_refused (faulty : ¬ ∀ unit ∈ preferences.units, Named unit.1) :
    ∃ fault, ∀ (files : Files) (name : String), preferences.save files name = (.error (.unitName fault), files, []) := by
  cases found : preferences.nameFault? with
  | none => exact absurd (nameFault?_eq_none.mp found) faulty
  | some fault =>
    refine ⟨fault, fun files name => ?_⟩
    rw [save, checked, found]

end Preferences

open Preferences in
/-- Preferences whose units have proper names are saved wherever a file can be
written, in whatever order their units stand, and loaded as they were. Others
are refused, whatever the files are. Whoever is refused, for a name or by the
file system, finds the files as they were. All preferences that are ever
loaded have proper names, so that they can be saved. -/
theorem preferences_survive_saving :
    (∀ (preferences : Preferences) (files : Files) (name : String), (preferences.units.map Prod.fst).Nodup →
      ((∀ unit ∈ preferences.units, Named unit.1) → files.Writable [] name →
        ∀ written : Preferences, written.Same preferences →
          ∃ later log, written.save files name = (.ok (), later, log) ∧ (load later name).1 = .ok written) ∧
      (¬ (∀ unit ∈ preferences.units, Named unit.1) →
        ∃ fault, preferences.save files name = (.error (.unitName fault), files, []) ∧
          (Error.unitName fault).kind = "PreferenceError") ∧
      ∀ error, (preferences.save files name).1 = .error error → (preferences.save files name).2.1 = files) ∧
    ∀ (text : String) (preferences : Preferences), ofText text = .ok preferences →
      (preferences.units.map Prod.fst).Nodup ∧ (∀ unit ∈ preferences.units, Named unit.1) ∧
        ∀ (files : Files) (name : String), files.Writable [] name →
          ∃ later log, preferences.save files name = (.ok (), later, log) ∧
            (load later name).1 = .ok preferences := by
  refine ⟨fun preferences files name distinct => ⟨fun named writable written same => ?_, fun faulty => ?_,
    fun error => save_refused_keeps⟩, fun text preferences read => ?_⟩
  · exact saved_and_loaded (same.named named) (same.distinct distinct) writable
  · obtain ⟨fault, refused⟩ := save_refused faulty
    exact ⟨fault, refused files name, rfl⟩
  · obtain ⟨named, distinct⟩ := ofText_ok read
    exact ⟨distinct, named, fun files name writable => saved_and_loaded named distinct writable⟩

namespace Preferences

/-- A name that does not fit in front of a colon. -/
def longName : String := String.ofList (List.replicate 200 'n')

theorem named_longName : Named longName := by
  have text : longName.toList = List.replicate 200 'n' := String.toList_ofList
  exact ⟨by rw [text]; exact List.cons_ne_nil _ _, by rw [text]; decide +kernel⟩

/-- Names that look like keywords and numbers, and names with quotes,
indicators, line breaks and control characters. -/
def awkward : Preferences where
  verbose := true
  units := [(longName, false), ("null", true), ("0x1F", false), ("it's", true), ("a: b", false), ("a #b", true),
    ("- \"x\"", false), ("two\n  lines", true), ("a\u2028b", false), ("\x07\t\\\x00", true), ("space \nbreak", false),
    ("\ufeff?", true)]

end Preferences

open Preferences in
/-- Names that need quotes, escapes and lines of their own are saved and
loaded again. A name with a blank in front is refused, and a directory is not
replaced by them. -/
theorem preferences_survive_saving_awkward :
    (∃ later log, awkward.save {} "precache.yaml" = (.ok (), later, log) ∧
        (load later "precache.yaml").1 = .ok awkward) ∧
      (∃ fault, save { units := [(" plots", true)] } {} "precache.yaml" = (.error (.unitName fault), {}, [])) ∧
        (awkward.save { nodes := [(["conf"], .directory)] } "conf").2.1 = { nodes := [(["conf"], .directory)] } := by
  obtain ⟨saves, _⟩ := preferences_survive_saving
  have others : ∀ unit ∈ awkward.units.tail, CallCapture.nameFault? unit.1 = none := by decide +kernel
  have named : ∀ unit ∈ awkward.units, Named unit.1 :=
    List.forall_mem_cons.mpr ⟨named_longName, fun unit member => named_iff.mp (others unit member)⟩
  have writable : Files.Writable {} [] "precache.yaml" := ⟨["precache.yaml"], by decide +kernel, by decide +kernel, by decide⟩
  refine ⟨(saves awkward {} "precache.yaml" (by decide +kernel)).1 named writable awkward ⟨rfl, rfl, .rfl⟩, ?_⟩
  have faulty : ¬ ∀ unit ∈ [(" plots", true)], Named unit.1 := fun named =>
    absurd (named (" plots", true) List.mem_cons_self).trimmed (by decide +kernel)
  obtain ⟨fault, refused, _⟩ :=
    (saves { units := [(" plots", true)] } {} "precache.yaml" (by decide)).2.1 faulty
  refine ⟨⟨fault, refused⟩, (saves awkward _ "conf" (by decide +kernel)).2.2 (.file .isDirectory) ?_⟩
  decide +kernel

end CallCapture
