import CallCapture.Proofs.AcceptableNames

namespace CallCapture.Yaml

open Token (Kind)
open Scanner (Nested closers)

/-- A word that is written as it is, as a key or as a value. The
keys that preferences have of their own are such words, and so are
the two truth values. -/
def isPlainWord (text : List Char) : Bool :=
  text != [] && text.all (fun c => !isGap c && isVisible c) && !Name.hasIndicator text && text.head? != some '-' &&
    text.head? != some '.' && byteLength text ≤ 1024

section Words

variable {text : List Char} (word : isPlainWord text = true)

include word

theorem standsPlain_word : Name.StandsPlain text ∧ ∀ rest, startsToken (text ++ rest) = true := by
  simp only [isPlainWord, Bool.and_eq_true, List.all_eq_true, Bool.not_eq_true', bne_iff_ne, decide_eq_true_eq] at word
  obtain ⟨⟨⟨⟨⟨wordy, solid⟩, clean⟩, _⟩, _⟩, _⟩ := word
  have stands : Name.StandsPlain text := by
    refine ⟨.word wordy fun c member => ?_, fun c member gap => ?_, clean⟩
    · by_contra space
      obtain rfl : c = ' ' := by simpa using space
      cases (solid ' ' member).1
    · rw [(solid c member).1] at gap
      cases gap
  exact ⟨stands, stands.starts fun c member => (solid c member).2⟩

theorem isKey_word (column : Nat) : IsKey text (String.ofList text) .plain column := by
  obtain ⟨stands, starts⟩ := standsPlain_word word
  simp only [isPlainWord, Bool.and_eq_true, bne_iff_ne, decide_eq_true_eq] at word
  obtain ⟨⟨⟨_, hyphen⟩, dot⟩, short⟩ := word
  refine isKey_plain stands starts short fun rest mark _ => ?_
  obtain ⟨c, others, rfl⟩ := List.exists_cons_of_ne_nil stands.worded.ne_nil
  rw [Cursor.atDocumentBound, List.cons_append,
    Scanner.atDocumentMarker_of_head (fun same => hyphen (congrArg some same)),
    Scanner.atDocumentMarker_of_head (fun same => dot (congrArg some same))]
  rfl

end Words

/-- How a switch is written. -/
def boolName (b : Bool) : String := if b then "true" else "false"

namespace Render

/-- A switch under its key, in front of `tail`. The rest of the document is an
argument, so that a document can be read from its end to its start. -/
def setting (key : String) (b : Bool) (tail : List Char) : List Char :=
  key.toList ++ ':' :: ' ' :: ((boolName b).toList ++ '\n' :: tail)

/-- A name as the key of a mapping, in front of `tail`, which is indented
by four. The colon of a key on a line of its own stands on the line behind
it, indented by two. -/
def keyed (name : String) (tail : List Char) : List Char :=
  if Name.isSimple name then Name.render 4 name ++ ':' :: '\n' :: (List.replicate 4 ' ' ++ tail)
  else '?' :: ' ' :: (Name.render 4 name ++ Block.behind (' ' :: tail))

theorem unit_append (name : String) (skip : Bool) (rest : List Char) :
    unit name skip ++ rest = List.replicate 2 ' ' ++ keyed name (setting "skip_capture" skip rest) := by
  have key : "skip_capture: ".toList = "skip_capture".toList ++ [':', ' '] := rfl
  have line : ":\n    ".toList = ':' :: '\n' :: List.replicate 4 ' ' := rfl
  have question : "  ? ".toList = List.replicate 2 ' ' ++ ['?', ' '] := rfl
  have colon : "\n  : ".toList = '\n' :: (List.replicate 2 ' ' ++ [':', ' ']) := rfl
  have spaces : "  ".toList = List.replicate 2 ' ' := rfl
  have value : boolText skip = (boolName skip).toList := rfl
  unfold unit keyed setting
  rw [key, line, question, colon, spaces, value]
  split
  · simp only [List.append_assoc, List.cons_append, List.nil_append]
  · simp only [Block.behind, List.append_assoc, List.cons_append, List.nil_append]

/-- What stands behind `units:`. Units stand below it line for line; without
any there are only brackets. -/
def unitsTail (settings : List (String × Bool)) : List Char :=
  if settings = [] then " \x7b\x7d\n".toList else '\n' :: settings.flatMap fun entry => unit entry.1 entry.2

end Render

theorem render_toList (preferences : Preferences) :
    (render preferences).toList = Render.setting "force_run" preferences.forceRun
      (Render.setting "verbose" preferences.verbose ("units".toList ++ ':' :: Render.unitsTail preferences.units)) := by
  have forced : "force_run: ".toList = "force_run".toList ++ [':', ' '] := rfl
  have verbose : "\nverbose: ".toList = '\n' :: ("verbose".toList ++ [':', ' ']) := rfl
  have none : "units: \x7b\x7d\n".toList = "units".toList ++ ':' :: " \x7b\x7d\n".toList := rfl
  have some : "units:\n".toList = "units".toList ++ [':', '\n'] := rfl
  have value (b : Bool) : Render.boolText b = (boolName b).toList := rfl
  unfold Render.unitsTail Render.setting render Render.units
  simp only [String.toList_ofList]
  split
  · simp only [forced, verbose, none, value, List.append_assoc, List.cons_append, List.nil_append]
  · simp only [forced, verbose, some, value, List.append_assoc, List.cons_append, List.nil_append]

theorem isPlainWord_boolName (b : Bool) : isPlainWord (boolName b).toList = true := by
  cases b <;> decide

/-- The tokens of a switch. None of them opens a block, as the mapping that
holds the switch is open already. -/
def settingKinds (key : String) (b : Bool) : List Kind := [.key, .scalar key .plain, .value, .scalar (boolName b) .plain]

/-- A switch is read as its key and its value. The blocks that are further in
than its key are closed in front of it. This one step reads both switches at
the root and the one of every unit. -/
theorem leads_setting {spacing : Spacing} {key : String} {b : Bool} {rest : List Char} {column count : Nat}
    {indents closed left : List Nat} {allowed : Bool} (word : isPlainWord key.toList = true)
    (nested : Nested (spacing.column column) indents closed left) (allows : spacing.allows allowed = true)
    (inside : count ≤ spacing.column column) (solid : isSolid rest = true) :
    Leads ⟨spacing.text ++ Render.setting key b (List.replicate count ' ' ++ rest), column, indents, allowed⟩
      (closed.map (fun _ => .blockEnd) ++ (opening (spacing.column column) left ++ settingKinds key b))
      ⟨rest, count, opened (spacing.column column) left, true⟩ := by
  obtain ⟨others, opens⟩ := opened_cons (spacing.column column) left
  obtain ⟨stands, starts⟩ := standsPlain_word (isPlainWord_boolName b)
  let value := ' ' :: ((boolName b).toList ++ '\n' :: (List.replicate count ' ' ++ rest))
  have announced := @leads_key _ value _ _ spacing column indents closed left allowed (isKey_word word _) rfl nested allows
  have value := @leads_value (boolName b).toList rest (spacing.column column + key.toList.length + 1) count
    (spacing.column column) others stands starts inside (by omega) solid
  rw [opens] at announced ⊢
  rw [String.ofList_toList] at announced value
  have whole := announced.trans value
  rwa [List.append_assoc, List.append_assoc] at whole

/-- A name as a key, on one line with its colon or not. The mapping
behind it is indented by four in both cases. Here the ways part in which
a name can be written. -/
theorem leads_keyed {spacing : Spacing} {name : String} {tail : List Char} {column : Nat} {indents closed left : List Nat}
    {allowed : Bool} (named : Named name) (aligned : spacing.column column = 2) (nested : Nested 2 indents closed left)
    (allows : spacing.allows allowed = true) :
    ∃ (between : Spacing) (column' : Nat) (allowed' : Bool), between.column column' = 4 ∧
      between.allows allowed' = true ∧
      Leads ⟨spacing.text ++ Render.keyed name tail, column, indents, allowed⟩
        (closed.map (fun _ => .blockEnd) ++ (opening 2 left ++ [.key, .scalar name (Name.style name), .value]))
        ⟨between.text ++ tail, column', opened 2 left, allowed'⟩ := by
  cases simple : Name.isSimple name with
  | true =>
    refine ⟨.line 4, 2 + (Name.render 4 name).length + 1, false, rfl, rfl, ?_⟩
    rw [Render.keyed, if_pos simple]
    have key := @leads_key _ ('\n' :: (List.replicate 4 ' ' ++ tail)) _ _ spacing column indents closed left allowed
      (aligned ▸ isKey_name named simple) rfl (aligned ▸ nested) allows
    rw [aligned] at key
    exact key
  | false =>
    obtain ⟨others, opens⟩ := opened_cons 2 left
    refine ⟨.space, 3, true, rfl, rfl, ?_⟩
    rw [Render.keyed, simple, if_neg Bool.false_ne_true]
    have question := @leads_question spacing (' ' :: (Name.render 4 name ++ Block.behind (' ' :: tail))) column indents closed
      left allowed rfl (aligned ▸ nested) allows
    have key := @leads_nameAlone name (' ' :: tail) others named rfl
    rw [aligned, opens] at question
    have whole := question.trans key
    rw [List.append_assoc, List.append_assoc] at whole
    rw [opens]
    exact whole

/-- The tokens of a unit up to those that the next one brings along.
The mapping of the unit is open behind them; it ends where the next key
is less indented. -/
def unitKinds (name : String) (skip : Bool) : List Kind :=
  [.key, .scalar name (Name.style name), .value, .blockMappingStart] ++ settingKinds "skip_capture" skip

/-- A unit is read as its name and its switch, and leaves the scanner in front
of the next unit or at the end. The name may be written in any style, and on
one line with its colon or not. -/
theorem leads_unit {spacing : Spacing} {name : String} {skip : Bool} {rest : List Char} {column count : Nat}
    {indents closed left : List Nat} {allowed : Bool} (named : Named name) (aligned : spacing.column column = 2)
    (nested : Nested 2 indents closed left) (allows : spacing.allows allowed = true) (inside : count ≤ 4)
    (solid : isSolid rest = true) :
    Leads ⟨spacing.text ++ Render.keyed name (Render.setting "skip_capture" skip (List.replicate count ' ' ++ rest)), column,
        indents, allowed⟩
      (closed.map (fun _ => .blockEnd) ++ (opening 2 left ++ unitKinds name skip))
      ⟨rest, count, 4 :: opened 2 left, true⟩ := by
  obtain ⟨others, opens⟩ := opened_cons 2 left
  obtain ⟨between, column', allowed', four, allows', key⟩ :=
    @leads_keyed _ _ (Render.setting "skip_capture" skip (List.replicate count ' ' ++ rest)) _ _ _ _ _ named aligned nested
      allows
  have inner : Nested (between.column column') (2 :: others) [] (2 :: others) :=
    Scanner.nested_cons (four ▸ (by decide : 2 ≤ 4))
  have value := @leads_setting between "skip_capture" skip rest column' count (2 :: others) [] (2 :: others) allowed' (by decide)
    inner allows' (four ▸ inside) solid
  rw [four] at value
  rw [opens] at key ⊢
  have whole := key.trans value
  rw [List.append_assoc, List.append_assoc] at whole
  exact whole

/-- The units, one after the other. -/
def Render.lines (settings : List (String × Bool)) : List Char :=
  settings.flatMap fun entry => Render.unit entry.1 entry.2

/-- Where the scanner stands behind a unit, in front of those that are
left. The mappings of the root, of the units and of the unit itself
are all open there. -/
def unitsPort : List (String × Bool) → Port
  | [] => ⟨[], 0, [4, 2, 0], true⟩
  | (name, skip) :: others =>
    ⟨Render.keyed name (Render.setting "skip_capture" skip (Render.lines others)), 2, [4, 2, 0], true⟩

theorem lines_eq (settings : List (String × Bool)) :
    Render.lines settings = List.replicate (unitsPort settings).column ' ' ++ (unitsPort settings).rest := by
  cases settings with
  | nil => rfl
  | cons entry others => exact Render.unit_append entry.1 entry.2 (Render.lines others)

theorem isSolid_of_starts {rest : List Char} (starts : startsToken rest = true) : isSolid rest = true := by
  rw [isSolid, Scanner.any_of_starts starts fun c gap => by rw [gap, Bool.true_or, Bool.true_or]]
  rfl

theorem isSolid_keyed {name : String} (named : Named name) (tail : List Char) : isSolid (Render.keyed name tail) = true := by
  unfold Render.keyed
  split
  · exact isSolid_of_starts (Name.starts_render named _)
  · rfl

theorem isSolid_units {settings : List (String × Bool)} (named : ∀ entry ∈ settings, Named entry.1) :
    isSolid (unitsPort settings).rest = true := by
  cases settings with
  | nil => rfl
  | cons entry others => exact isSolid_keyed (named entry List.mem_cons_self) _

theorem unitsPort_eq (settings : List (String × Bool)) :
    unitsPort settings = ⟨(unitsPort settings).rest, (unitsPort settings).column, [4, 2, 0], true⟩ := by
  cases settings <;> rfl

theorem unitsPort_column (settings : List (String × Bool)) : (unitsPort settings).column ≤ 4 := by
  cases settings with
  | nil => exact Nat.zero_le 4
  | cons entry others => exact (by decide : 2 ≤ 4)

/-- The tokens of units; each is closed when the next one starts. The last one
is closed at the end of the document, where nothing follows it. -/
def entriesKinds (settings : List (String × Bool)) : List Kind :=
  settings.flatMap fun entry => unitKinds entry.1 entry.2 ++ [.blockEnd]

/-- The units are read one after the other, and the end of the document closes
all that is open. By induction on the units that are left. -/
theorem ends_units {settings : List (String × Bool)} (named : ∀ entry ∈ settings, Named entry.1) :
    Ends (unitsPort settings) (.blockEnd :: (entriesKinds settings ++ [.blockEnd, .blockEnd, .streamEnd])) := by
  induction settings with
  | nil => exact @ends_document .nothing 0 [4, 2, 0] [4, 2] [0] true rfl ⟨rfl, by decide, by decide⟩
  | cons entry others ih =>
    have namedOthers : ∀ other ∈ others, Named other.1 := fun other member => named other (List.mem_cons_of_mem _ member)
    have first := @leads_unit .nothing entry.1 entry.2 (unitsPort others).rest 2 (unitsPort others).column [4, 2, 0] [4]
      [2, 0] true (named entry List.mem_cons_self) rfl ⟨rfl, by decide, by decide⟩ rfl (unitsPort_column others)
      (isSolid_units namedOthers)
    rw [← lines_eq] at first
    have whole := first.ends (unitsPort_eq others ▸ ih namedOthers)
    change Ends (unitsPort (entry :: others)) _ at whole
    simp only [entriesKinds, List.flatMap_cons, List.append_assoc]
    simpa [opening, entriesKinds] using whole

/-- The tokens of all units, with the mapping that holds them. -/
def unitsKinds (settings : List (String × Bool)) : List Kind :=
  if settings = [] then [.flowMappingStart, .flowMappingEnd]
  else .blockMappingStart :: (entriesKinds settings ++ [.blockEnd])

/-- What stands behind `units:` is read to the end of the document,
whether there are units or not. Units that have proper names are all
that is asked for. -/
theorem ends_unitsTail {settings : List (String × Bool)} (named : ∀ entry ∈ settings, Named entry.1) (column : Nat) :
    Ends ⟨Render.unitsTail settings, column, [0], false⟩ (unitsKinds settings ++ [.blockEnd, .streamEnd]) := by
  cases settings with
  | nil =>
    have braces := @leads_braces ['\n'] column [0] fun indent head => Option.some.inj head ▸ Nat.zero_le _
    exact braces.ends (@ends_document (.line 0) (column + 3) [0] [] [0] false rfl ⟨rfl, by decide, by decide⟩)
  | cons entry others =>
    have namedOthers : ∀ other ∈ others, Named other.1 := fun other member => named other (List.mem_cons_of_mem _ member)
    have first := @leads_unit (.line 2) entry.1 entry.2 (unitsPort others).rest column (unitsPort others).column [0] []
      [0] false (named entry List.mem_cons_self) rfl ⟨rfl, by decide, by decide⟩ rfl (unitsPort_column others)
      (isSolid_units namedOthers)
    rw [← lines_eq] at first
    have whole := first.ends (unitsPort_eq others ▸ ends_units namedOthers)
    have shape : Render.unitsTail (entry :: others) = Spacing.text (.line 2) ++
        Render.keyed entry.1 (Render.setting "skip_capture" entry.2 (Render.lines others)) := by
      exact congrArg ('\n' :: ·) (Render.unit_append entry.1 entry.2 (Render.lines others))
    rw [shape]
    simpa [unitsKinds, opening, entriesKinds] using whole

/-- The tokens of saved preferences, between the start and the end of the
stream. -/
def bodyKinds (preferences : Preferences) : List Kind :=
  .blockMappingStart :: (settingKinds "force_run" preferences.forceRun ++
    (settingKinds "verbose" preferences.verbose ++
      (.key :: .scalar "units" .plain :: .value :: (unitsKinds preferences.units ++ [.blockEnd]))))

theorem isSolid_word {text : List Char} (word : isPlainWord text = true) (tail : List Char) : isSolid (text ++ tail) = true :=
  isSolid_of_starts ((standsPlain_word word).2 tail)

/-- A document of preferences is read to its end, switch for switch and unit
for unit. The steps are put together from the end of the document backwards,
as each needs to know what is behind it. -/
theorem ends_rendered {preferences : Preferences} (named : ∀ entry ∈ preferences.units, Named entry.1) :
    Ends ⟨(render preferences).toList, 0, [], true⟩ (bodyKinds preferences ++ [.streamEnd]) := by
  rw [render_toList]
  have unitsText : isSolid ("units".toList ++ ':' :: Render.unitsTail preferences.units) = true :=
    isSolid_word (by decide) _
  have verboseText : isSolid (Render.setting "verbose" preferences.verbose
      ("units".toList ++ ':' :: Render.unitsTail preferences.units)) = true := isSolid_word (by decide) _
  have forced := @leads_setting .nothing "force_run" preferences.forceRun _ 0 0 [] [] [] true (by decide)
    ⟨rfl, by decide, by decide⟩ rfl (Nat.le_refl 0) verboseText
  have verbose := @leads_setting .nothing "verbose" preferences.verbose _ 0 0 [0] [] [0] true (by decide)
    ⟨rfl, by decide, by decide⟩ rfl (Nat.le_refl 0) unitsText
  have gap : gapFollows (Render.unitsTail preferences.units) = true := by
    unfold Render.unitsTail
    split <;> rfl
  have units := @leads_key _ (Render.unitsTail preferences.units) _ _ .nothing 0 [0] [] [0] true
    (isKey_word (by decide : isPlainWord "units".toList = true) 0) gap ⟨rfl, by decide, by decide⟩ rfl
  have last := ends_unitsTail named ("units".toList.length + 1)
  have whole := forced.ends (verbose.ends (units.ends last))
  simp only [bodyKinds, List.cons_append, List.append_assoc, List.nil_append]
  exact whole

theorem acceptable_word {text : List Char} (word : isPlainWord text = true) : ∀ d ∈ text, isAcceptable d = true := by
  simp only [isPlainWord, Bool.and_eq_true, List.all_eq_true] at word
  exact fun d member => isAcceptable_of_visible (word.1.1.1.1.2 d member).2

namespace Render

theorem acceptable_setting {key : String} {b : Bool} {tail : List Char} (word : isPlainWord key.toList = true)
    (acceptable : ∀ d ∈ tail, isAcceptable d = true) : ∀ d ∈ setting key b tail, isAcceptable d = true := by
  have value : ∀ d ∈ (boolName b).toList, isAcceptable d = true := acceptable_word (isPlainWord_boolName b)
  simp only [setting, List.forall_mem_append, List.forall_mem_cons]
  exact ⟨acceptable_word word, rfl, rfl, value, rfl, acceptable⟩

theorem acceptable_keyed {name : String} {tail : List Char} (acceptable : ∀ d ∈ tail, isAcceptable d = true) :
    ∀ d ∈ keyed name tail, isAcceptable d = true := by
  have spaces (count : Nat) : ∀ d ∈ List.replicate count ' ', isAcceptable d = true := fun d member => by
    rw [List.eq_of_mem_replicate member]
    rfl
  unfold keyed
  split
  · simp only [List.forall_mem_append, List.forall_mem_cons]
    exact ⟨Name.acceptable_render name, rfl, rfl, spaces 4, acceptable⟩
  · simp only [Block.behind, List.forall_mem_append, List.forall_mem_cons]
    exact ⟨rfl, rfl, Name.acceptable_render name, rfl, spaces 2, rfl, rfl, acceptable⟩

theorem acceptable_lines (settings : List (String × Bool)) : ∀ d ∈ lines settings, isAcceptable d = true := by
  induction settings with
  | nil => exact List.forall_mem_nil _
  | cons entry others ih =>
    change ∀ d ∈ unit entry.1 entry.2 ++ lines others, isAcceptable d = true
    rw [unit_append, List.forall_mem_append]
    refine ⟨fun d member => ?_, acceptable_keyed (acceptable_setting (by decide) ih)⟩
    rw [List.eq_of_mem_replicate member]
    rfl

end Render

/-- All characters of a document of preferences may stand in one, whatever the
units are called. So the scanner is never cut off within one. -/
theorem acceptable_rendered (preferences : Preferences) : ∀ d ∈ (render preferences).toList, isAcceptable d = true := by
  have units : ∀ d ∈ Render.unitsTail preferences.units, isAcceptable d = true := by
    unfold Render.unitsTail
    split
    · exact List.all_eq_true.mp (by decide : " \x7b\x7d\n".toList.all isAcceptable = true)
    · exact List.forall_mem_cons.mpr ⟨rfl, Render.acceptable_lines preferences.units⟩
  rw [render_toList]
  refine Render.acceptable_setting (by decide) (Render.acceptable_setting (by decide) ?_)
  rw [List.forall_mem_append, List.forall_mem_cons]
  exact ⟨acceptable_word (by decide), rfl, units⟩

theorem Render.length_keyed (name : String) (tail : List Char) : tail.length ≤ (keyed name tail).length := by
  unfold keyed
  split
  · simp only [List.length_append, List.length_cons]
    omega
  · simp only [Block.behind, List.length_append, List.length_cons]
    omega

/-- Units take more characters than tokens. So no unit can use up the fuel
that the scanner has for its characters. -/
theorem length_entriesKinds (settings : List (String × Bool)) :
    (entriesKinds settings).length ≤ (Render.lines settings).length := by
  induction settings with
  | nil => exact Nat.le_refl 0
  | cons entry others ih =>
    have unit := congrArg List.length (Render.unit_append entry.1 entry.2 (Render.lines others))
    have keyed := Render.length_keyed entry.1 (Render.setting "skip_capture" entry.2 (Render.lines others))
    have setting : 12 + (Render.lines others).length ≤
        (Render.setting "skip_capture" entry.2 (Render.lines others)).length := by
      have key : "skip_capture".toList.length = 12 := rfl
      simp only [Render.setting, List.length_append, List.length_cons, key]
      omega
    rw [List.length_append] at unit
    change (unitKinds entry.1 entry.2 ++ [Kind.blockEnd] ++ entriesKinds others).length ≤
      (Render.unit entry.1 entry.2 ++ Render.lines others).length
    rw [List.length_append, List.length_append, List.length_append, unit, List.length_append]
    change 9 + _ ≤ _
    omega

/-- A document of preferences has no more tokens than characters, but for a
few. So the fuel of the scanner lasts to its end. -/
theorem length_bodyKinds (preferences : Preferences) :
    (bodyKinds preferences).length ≤ (render preferences).length + 6 := by
  have keys : "force_run".toList.length = 9 ∧ "verbose".toList.length = 7 := ⟨rfl, rfl⟩
  have units : (unitsKinds preferences.units).length ≤ (Render.unitsTail preferences.units).length + 1 := by
    have entries := length_entriesKinds preferences.units
    unfold unitsKinds Render.unitsTail
    split
    · decide
    · change (entriesKinds preferences.units ++ [Kind.blockEnd]).length + 1 ≤ (Render.lines preferences.units).length + 2
      rw [List.length_append, List.length_singleton]
      omega
  rw [← String.length_toList, render_toList]
  simp only [bodyKinds, settingKinds, Render.setting, List.length_append, List.length_cons, List.length_nil, keys]
  omega

/-- Saved preferences are read token for token. This is where the scanner is
left behind: from here on a document is a list of kinds. -/
theorem tokens_rendered {preferences : Preferences} (named : ∀ entry ∈ preferences.units, Named entry.1) :
    (Token.ofString (render preferences)).map Token.kind = .streamStart :: (bodyKinds preferences ++ [.streamEnd]) := by
  refine kinds_ofString (acceptable_rendered preferences) (ends_rendered named) ?_
  have length := length_bodyKinds preferences
  rw [List.length_append, List.length_singleton]
  omega

end CallCapture.Yaml
