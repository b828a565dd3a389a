import CallCapture.Proofs.JsonReading

namespace CallCapture

namespace Json

/-- How a tree is written. Both layouts put the same parts between the same
brackets, and differ in the white space around them, which no reader sees. The
level of an indented tree is how deep it stands in another one. -/
inductive Form where
  | compact
  | pretty (level : Nat)
  deriving DecidableEq

namespace Form

/-- The text of a tree in this form. What is read back does not depend on it,
so both are proved by one induction. -/
def write : Form → Tree → List Char
  | compact, tree => tree.compact
  | pretty level, tree => tree.pretty level

/-- How the parts of a list or an object are written. The level of what is
within is one more. -/
def inner : Form → Form
  | compact => compact
  | pretty level => pretty (level + 1)

/-- The white space in front of each part. On one line there is none. A reader
passes over it, whatever it is. -/
def gap : Form → List Char
  | compact => []
  | pretty level => Tree.lineBreak (level + 1)

/-- The white space behind a colon. On one line there is none, and
otherwise it is one blank. -/
def valueGap : Form → List Char
  | compact => []
  | pretty _ => [' ']

end Form

theorem lineBreak_space (level : Nat) : ∀ c ∈ Tree.lineBreak level, Cursor.isSpace c = true := by
  intro c member
  rcases List.mem_cons.mp member with rfl | blank
  · rfl
  · rw [(List.mem_replicate.mp blank).2]
    rfl

namespace Form

theorem gap_space (form : Form) : ∀ c ∈ form.gap, Cursor.isSpace c = true := by
  cases form with
  | compact => exact List.forall_mem_nil _
  | pretty level => exact lineBreak_space (level + 1)

theorem valueGap_space (form : Form) : ∀ c ∈ form.valueGap, Cursor.isSpace c = true := by
  cases form with
  | compact => exact List.forall_mem_nil _
  | pretty level =>
    intro c member
    rw [List.mem_singleton.mp member]
    rfl

end Form

theorem compactItems_eq (items : List Tree) : Tree.compactItems items = separated (items.map Tree.compact) := by
  induction items with
  | nil => rfl
  | cons item items ih =>
    cases items with
    | nil => simp [Tree.compactItems, separated]
    | cons next items => simp [Tree.compactItems, separated, ih]

/-- The items of an indented list, each on a line of its own, are parts with
commas between them. The commas stand at the ends of the lines. -/
theorem prettyItems_eq (level : Nat) (items : List Tree) :
    Tree.prettyItems level items = separated (items.map fun item => Tree.lineBreak level ++ item.pretty level) := by
  induction items with
  | nil => rfl
  | cons item items ih =>
    cases items with
    | nil => simp [Tree.prettyItems, separated]
    | cons next items => simp [Tree.prettyItems, separated, ih]

theorem compactEntries_eq (entries : List (String × Tree)) :
    Tree.compactEntries entries = separated (entries.map fun entry => fieldText [] (entry.1, entry.2.compact)) := by
  induction entries with
  | nil => rfl
  | cons entry entries ih =>
    cases entries with
    | nil => simp [Tree.compactEntries, separated, fieldText]
    | cons next entries => simp [Tree.compactEntries, separated, fieldText, ih]

/-- The entries of an indented object, each on a line of its own, are fields
with commas between them. -/
theorem prettyEntries_eq (level : Nat) (entries : List (String × Tree)) :
    Tree.prettyEntries level entries =
      separated (entries.map fun entry => fieldText (Tree.lineBreak level) (entry.1, ' ' :: entry.2.pretty level)) := by
  induction entries with
  | nil => rfl
  | cons entry entries ih =>
    cases entries with
    | nil => simp [Tree.prettyEntries, separated, fieldText]
    | cons next entries => simp [Tree.prettyEntries, separated, fieldText, ih]

namespace Form

theorem write_text (form : Form) (s : String) : form.write (.text s) = literal s := by
  cases form with
  | compact => simp only [write, Tree.compact]
  | pretty level => simp only [write, Tree.pretty]

/-- A list in either form: its items with their gaps, commas between them, and
space at most in front of the closing bracket. -/
theorem write_list (form : Form) (items : List Tree) :
    ∃ tail, (∀ c ∈ tail, Cursor.isSpace c = true) ∧ form.write (.list items) =
      '[' :: separated (items.map fun item => form.gap ++ form.inner.write item) ++ tail ++ [']'] := by
  cases form with
  | compact =>
    refine ⟨[], List.forall_mem_nil _, ?_⟩
    simp only [write, Tree.compact, compactItems_eq, gap, inner, List.nil_append, List.append_nil]
  | pretty level =>
    cases items with
    | nil =>
      refine ⟨[], List.forall_mem_nil _, ?_⟩
      simp only [write, Tree.pretty, List.map_nil, separated, List.append_nil, List.singleton_append]
    | cons item items =>
      refine ⟨Tree.lineBreak level, lineBreak_space level, ?_⟩
      simp only [write, Tree.pretty, prettyItems_eq, gap, inner]

/-- An object in either form, by the texts of its fields. Written on one line
there is no space between its parts. -/
theorem write_object (form : Form) (entries : List (String × Tree)) :
    ∃ tail, (∀ c ∈ tail, Cursor.isSpace c = true) ∧ form.write (.object entries) =
      '\x7b' :: separated ((entries.map fun entry => (entry.1, form.valueGap ++ form.inner.write entry.2)).map
        (fieldText form.gap)) ++ tail ++ ['\x7d'] := by
  cases form with
  | compact =>
    refine ⟨[], List.forall_mem_nil _, ?_⟩
    simp only [write, Tree.compact, compactEntries_eq, gap, inner, valueGap, List.nil_append, List.append_nil,
      List.map_map]
    rfl
  | pretty level =>
    cases entries with
    | nil =>
      refine ⟨[], List.forall_mem_nil _, ?_⟩
      simp only [write, Tree.pretty, List.map_nil, separated, List.append_nil, List.singleton_append]
    | cons entry entries =>
      refine ⟨Tree.lineBreak level, lineBreak_space level, ?_⟩
      simp only [write, Tree.pretty, prettyEntries_eq, gap, inner, valueGap, List.map_map]
      rfl

theorem write_opens (form : Form) (tree : Tree) : ∃ c, solidHead? (form.write tree) = some c ∧ c ≠ ']' := by
  cases tree with
  | text s => exact ⟨'"', by rw [write_text, literal, List.cons_append, solidHead?_cons rfl], by decide⟩
  | list items =>
    obtain ⟨tail, _, written⟩ := form.write_list items
    exact ⟨'[', by rw [written, List.cons_append, List.cons_append, solidHead?_cons rfl], by decide⟩
  | object entries =>
    obtain ⟨tail, _, written⟩ := form.write_object entries
    exact ⟨'\x7b', by rw [written, List.cons_append, List.cons_append, solidHead?_cons rfl], by decide⟩

end Form

/-- In whichever form a value is written, the reader reads it back. It is
proved for texts, carried through lists and records, and so holds of
everything that is persisted. -/
structure Undoes {α : Type} (reader : Reader α) (toTree : α → Tree) : Prop where
  skips : SkipsSpace reader
  reads : ∀ (form : Form) (value : α), Reads reader (form.write (toTree value)) value

theorem undoes_text : Undoes Reader.text .text where
  skips := .text
  reads form s := form.write_text s ▸ reads_text s

namespace Undoes

variable {α Draft : Type} {reader : Reader α} {toTree : α → Tree}

theorem list (undoes : Undoes reader toTree) : Undoes (Reader.list reader) fun values => .list (values.map toTree) where
  skips := .list reader
  reads form values := by
    obtain ⟨tail, space, written⟩ := form.write_list (values.map toTree)
    rw [written, List.map_map]
    refine reads_list undoes.skips ?_ space
    rw [List.forall₂_map_left_iff]
    refine List.forall₂_same.mpr fun value _ => ⟨?_, ?_⟩
    · exact (undoes.reads form.inner value).behind undoes.skips form.gap_space
    · obtain ⟨c, opens, other⟩ := form.inner.write_opens (toTree value)
      exact ⟨c, (solidHead?_gap form.gap_space _).trans opens, other⟩

theorem field (undoes : Undoes reader toTree) (form : Form) (value : α) (fill : α → Draft) :
    Reads (reader >>= fun value => pure (fill value)) (form.valueGap ++ form.inner.write (toTree value)) (fill value) :=
  ((undoes.reads form.inner value).behind undoes.skips form.valueGap_space).map fill

/-- The texts of both layouts are read to their end. These two are the texts
that are ever written. -/
theorem runs (undoes : Undoes reader toTree) (value : α) :
    reader.run (toTree value).compactText = .ok value ∧ reader.run (toTree value).prettyText = .ok value :=
  ⟨run_of_reads (undoes.reads .compact value), run_of_reads (undoes.reads (.pretty 0) value)⟩

end Undoes

/-- A record is read back if its fields, as they are written, fill the draft.
What has to be shown for a record is only that its fields are filled in the
order in which they are written. -/
theorem undoes_record {α Draft : Type} {layout : Layout Draft α} {toEntries : α → List (String × Tree)}
    (fills : ∀ (form : Form) (value : α), ∃ last, layout.finish last = some value ∧
      Fills layout layout.blank
        ((toEntries value).map fun entry => (entry.1, form.valueGap ++ form.inner.write entry.2)) last) :
    Undoes (Reader.record layout) fun value => .object (toEntries value) where
  skips := .record layout
  reads form value := by
    obtain ⟨last, finished, filled⟩ := fills form value
    obtain ⟨tail, space, written⟩ := form.write_object (toEntries value)
    rw [written]
    exact reads_record form.gap_space space filled finished

end Json

open Json

theorem Signature.undoes : Undoes Signature.reader Signature.toTree := by
  refine undoes_record fun form signature => ?_
  let routineRead : Draft := { routine := some signature.routine }
  let last : Draft := { routineRead with argTypes := some signature.argTypes }
  refine ⟨last, rfl, ?_⟩
  refine .next rfl rfl (undoes_text.field form signature.routine fun s => ({ routine := some s } : Draft)) ?_
  refine .next rfl rfl
    (undoes_text.list.field form signature.argTypes fun types => ({ routineRead with argTypes := some types } : Draft)) ?_
  exact .done rfl

theorem Directive.undoes : Undoes Directive.reader Directive.toTree := by
  refine undoes_record fun form directive => ⟨some directive.signature, rfl, ?_⟩
  refine .next rfl rfl (Signature.undoes.field form directive.signature some) ?_
  exact .done rfl

/-- A manifest is read back from both layouts, whatever stands in its two
lists. -/
theorem Manifest.undoes : Undoes Manifest.reader Manifest.toTree := by
  refine undoes_record fun form manifest => ?_
  let artifactRead : Draft := { artifact := some manifest.artifact }
  let signaturesRead : Draft := { artifactRead with signatures := some manifest.signatures }
  let last : Draft := { signaturesRead with directives := some manifest.directives }
  refine ⟨last, rfl, ?_⟩
  refine .next rfl rfl (undoes_text.field form manifest.artifact fun s => ({ artifact := some s } : Draft)) ?_
  refine .next rfl rfl (Signature.undoes.list.field form manifest.signatures
    fun signatures => ({ artifactRead with signatures := some signatures } : Draft)) ?_
  refine .next rfl rfl (undoes_text.list.field form manifest.directives
    fun directives => ({ signaturesRead with directives := some directives } : Draft)) ?_
  exact .done rfl

end CallCapture
