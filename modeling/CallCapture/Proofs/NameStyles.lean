import CallCapture.Preferences
import CallCapture.Proofs.ExplicitKeys

namespace CallCapture

/-- A name that a unit may have: there is something in it, and no blank at its
ends. Everything else may be in it: quotes, indicators, line breaks and
control characters. -/
structure Named (name : String) : Prop where
  wordy : name.toList ≠ []
  trimmed : IsTrimmed name.toList

theorem named_iff {name : String} : nameFault? name = none ↔ Named name := by
  have empty : name = "" ↔ name.toList = [] := String.toList_eq_nil_iff.symm
  unfold nameFault?
  split
  · rename_i nothing
    exact ⟨nofun, fun named => absurd (empty.mp nothing) named.wordy⟩
  · rename_i wordy
    split
    · rename_i trimmed
      exact ⟨fun _ => ⟨mt empty.mpr wordy, trimmed⟩, fun _ => rfl⟩
    · rename_i untrimmed
      exact ⟨nofun, fun named => absurd named.trimmed untrimmed⟩

theorem byteLength_toList (name : String) : byteLength name.toList = name.utf8ByteSize := by
  have whole (text : List Char) : byteLength text = (String.ofList text).utf8ByteSize := by
    induction text with
    | nil => rfl
    | cons c text ih =>
      rw [String.ofList_cons, String.utf8ByteSize_append, String.utf8ByteSize_singleton, byteLength, ih]
  rw [whole, String.ofList_toList]

namespace Yaml

open Token (Kind)

namespace Name

variable {text : List Char} {name : String}

/-- What is known of a name by the style that is chosen for it. Each style is
chosen only for names that are read back from it. The conditions are those
that the readers of each style ask for. -/
theorem style_cases (name : String) :
    style name = .double ∨
      needsEscapes name.toList = false ∧
        ('\n' ∈ name.toList ∧ style name = .literal ∨
          '\n' ∉ name.toList ∧
            (style name = .single ∧ hasBreakSpace name.toList = false ∨
              style name = .plain ∧ hasIndicator name.toList = false ∧ isMultiline name.toList = false)) := by
  cases escapes : needsEscapes name.toList with
  | true => exact Or.inl (by simp [style, escapes])
  | false =>
    by_cases newLine : '\n' ∈ name.toList
    · exact Or.inr ⟨rfl, Or.inl ⟨newLine, by simp [style, escapes, newLine]⟩⟩
    · cases quotes : Untagged.isAmbiguous name || hasIndicator name.toList || isMultiline name.toList with
      | true =>
        cases breakSpace : hasBreakSpace name.toList with
        | true => exact Or.inl (by simp only [style, escapes, List.contains_eq_mem, newLine, quotes, breakSpace]; rfl)
        | false =>
          refine Or.inr ⟨rfl, Or.inr ⟨newLine, Or.inl ⟨?_, rfl⟩⟩⟩
          simp only [style, escapes, List.contains_eq_mem, newLine, quotes, breakSpace]
          rfl
      | false =>
        obtain ⟨⟨_, clean⟩, oneLine⟩ : (_ ∧ _) ∧ _ := by simpa only [Bool.or_eq_false_iff] using quotes
        refine Or.inr ⟨rfl, Or.inr ⟨newLine, Or.inr ⟨?_, clean, oneLine⟩⟩⟩
        simp only [style, escapes, List.contains_eq_mem, newLine, quotes]
        rfl

/-- A name without escapes has only characters that can be seen, and no blanks
at the ends of its lines. -/
theorem visible_of_plain (plain : needsEscapes text = false) :
    hasSpaceBreak text = false ∧ ∀ c ∈ text, isVisible c = true := by
  obtain ⟨spaceBreak, visible⟩ := Bool.or_eq_false_iff.mp plain
  exact ⟨spaceBreak, fun c member => by simpa using List.any_eq_false.mp visible c member⟩

theorem gap_of_visible {c : Char} (gap : isGap c = true) (visible : isVisible c = true) : c = ' ' ∨ isBreak c = true := by
  rcases Bool.or_eq_true_iff.mp gap with blank | breaks
  · rcases Bool.or_eq_true_iff.mp blank with space | tab
    · exact Or.inl (eq_of_beq space)
    · rw [eq_of_beq tab] at visible
      cases visible
  · exact Or.inr breaks

theorem oneLine_of_not_multiline (oneLine : isMultiline text = false) : ∀ c ∈ text, isBreak c = false := fun c member => by
  simpa using List.any_eq_false.mp oneLine c member

/-- A name that stands plain starts a token: its first character is no gap,
and no indicator that would be taken for something else. -/
theorem StandsPlain.starts (plain : StandsPlain text) (visible : ∀ c ∈ text, isVisible c = true) (rest : List Char) :
    startsToken (text ++ rest) = true := by
  obtain ⟨c, others, rfl, space⟩ := plain.worded.head
  obtain ⟨leading, _, _⟩ := indicators plain.clean
  have solid : isGap c = false := not_gap (· == ' ') (plain.gaps c List.mem_cons_self) space
  have comment : (c == '#') = false := by
    by_contra same
    obtain rfl : c = '#' := by simpa using same
    cases leading
  have order : (c == byteOrderMark) = false := by
    by_contra same
    obtain rfl : c = byteOrderMark := by simpa using same
    cases visible byteOrderMark List.mem_cons_self
  change (!(isGap c || c == '#' || c == byteOrderMark)) = true
  rw [solid, comment, order]
  rfl

theorem worded_spaces (wordy : text ≠ []) (trimmed : IsTrimmed text) : Worded (· == ' ') text :=
  worded_of_trimmed wordy trimmed fun c space => by rw [eq_of_beq space]; rfl

/-- A name without gaps other than spaces, and without indicators, can stand
plain. This is what the reader of plain scalars asks for. -/
theorem standsPlain (wordy : text ≠ []) (trimmed : IsTrimmed text) (visible : ∀ c ∈ text, isVisible c = true)
    (clean : hasIndicator text = false) (oneLine : isMultiline text = false) : StandsPlain text where
  worded := worded_spaces wordy trimmed
  gaps c member gap := by
    rcases gap_of_visible gap (visible c member) with rfl | breaks
    · rfl
    · rw [oneLine_of_not_multiline oneLine c member] at breaks
      cases breaks
  clean := clean

theorem render_plain (plain : style name = .plain) : render 4 name = name.toList := by
  rw [render, plain]

theorem render_single (quoted : style name = .single) :
    render 4 name = '\'' :: (single 4 false name.toList ++ ['\'']) := by
  rw [render, quoted, List.cons_append]

theorem render_double (quoted : style name = .double) :
    render 4 name = '"' :: (name.toList.flatMap (Quoted.unit false) ++ ['"']) := by
  rw [render, quoted, List.cons_append]
  rfl

theorem render_literal (literal : style name = .literal) :
    render 4 name = '|' :: '-' :: '\n' :: block 4 true name.toList := by
  rw [render, literal]
  rfl

theorem starts_render (named : Named name) (rest : List Char) : startsToken (render 4 name ++ rest) = true := by
  rcases style_cases name with double | ⟨plain, ⟨_, literal⟩ | ⟨_, ⟨single, _⟩ | ⟨unquoted, clean, oneLine⟩⟩⟩
  · rw [render_double double]
    rfl
  · rw [render_literal literal]
    rfl
  · rw [render_single single]
    rfl
  · have visible := (visible_of_plain plain).2
    rw [render_plain unquoted]
    exact (standsPlain named.wordy named.trimmed visible clean oneLine).starts visible rest

end Name

namespace Quoted

theorem short_escape_low : ∀ n < 0xa0, byteLength ('\\' :: Name.escape (Char.ofNat n)) ≤ 6 := by
  decide +kernel

theorem short_escape_high : ∀ n ∈ [0x2028, 0x2029, 0xfeff, 0xfffe, 0xffff],
    byteLength ('\\' :: Name.escape (Char.ofNat n)) ≤ 6 := by
  decide +kernel

/-- Escapes take at most six bytes for each byte of the character that they
stand for. This bounds how much longer a name can become between quotes. -/
theorem byteLength_unit (single : Bool) (c : Char) : byteLength (unit single c) ≤ 6 * c.utf8Size := by
  have least := c.utf8Size_pos
  have itself : byteLength [c] ≤ 6 * c.utf8Size := by
    rw [byteLength, byteLength]
    omega
  unfold unit
  split_ifs with isSingle isQuote escaped
  · rw [isQuote]
    decide
  · exact itself
  · have short : byteLength ('\\' :: Name.escape c) ≤ 6 :=
      @of_escaped (fun c => byteLength ('\\' :: Name.escape c) ≤ 6) short_escape_low short_escape_high c escaped
    omega
  · exact itself

/-- So a name that is short enough in front of its colon is short enough
with its escapes as well. The limit for names in front of their colon
leaves room for this. -/
theorem byteLength_units (single : Bool) (text : List Char) :
    byteLength (text.flatMap (unit single)) ≤ 6 * byteLength text := by
  induction text with
  | nil => exact Nat.le_refl 0
  | cons c text ih =>
    have first := byteLength_unit single c
    rw [List.flatMap_cons, byteLength_append, byteLength]
    omega

end Quoted

section Keys

variable {text : List Char} {column : Nat}

theorem margin_le {s : Scanner} (outer : ∀ indent, s.indents.head? = some indent → indent ≤ column) :
    s.margin ≤ column + 1 := by
  unfold Scanner.margin
  cases indents : s.indents with
  | nil => exact Nat.zero_le _
  | cons indent others => exact Nat.succ_le_succ (outer indent (by rw [indents]; rfl))

/-- A plain name is a key if it is short and a colon with a gap follows it.
The scanner has to know its end from the colon behind it. -/
theorem isKey_plain (plain : Name.StandsPlain text) (starts : ∀ rest, startsToken (text ++ rest) = true)
    (short : byteLength text ≤ 1024)
    (bound : ∀ rest (mark : Mark), mark.column = column → (⟨text ++ rest, mark⟩ : Cursor).atDocumentBound = false) :
    IsKey text (String.ofList text) .plain column where
  starts := starts
  wordy := plain.worded.ne_nil
  short := short
  scans _ mark _ here aligned gap none outer :=
    Scanner.scans_plain_colon plain here none gap (aligned ▸ margin_le outer) (here ▸ bound _ mark aligned)

/-- A name in quotes is a key. Quotes and escapes make its text longer, but
not too long for a key, as the name itself is short. -/
theorem isKey_quoted {single : Bool} (worded : Worded (· == ' ') text)
    (gaps : ∀ c ∈ text, isGap c = true → (c == ' ') = true ∨ Quoted.isEscaped c = true ∧ single = false)
    (short : byteLength text ≤ 128) :
    IsKey (Quoted.quote single :: (text.flatMap (Quoted.unit single) ++ [Quoted.quote single])) (String.ofList text)
      (if single then .single else .double) column where
  starts rest := by cases single <;> rfl
  wordy := List.cons_ne_nil _ _
  short := by
    have least := Quoted.byteLength_units single text
    have quote : (Quoted.quote single).utf8Size = 1 := by cases single <;> rfl
    simp only [byteLength, byteLength_append, quote]
    omega
  scans s mark tail here aligned gap none outer := by
    have inside : (mark.after [Quoted.quote single]).column ≠ 0 := Nat.succ_ne_zero mark.column
    have enough : text.length ≤
        (Quoted.quote single :: (text.flatMap (Quoted.unit single) ++ Quoted.quote single :: ':' :: tail)).length + 1 := by
      have least := Quoted.length_le_flatMap (Quoted.unit_ne_nil single) text
      simp only [List.length_cons, List.length_append]
      omega
    have read := @Quoted.read?_worded single _ _ text [] (':' :: tail) worded gaps (by simp) inside enough
    rw [← Mark.after_append] at read
    refine Scanner.scans_quoted ?_ none read
    rw [here, List.cons_append, List.append_assoc]
    rfl

variable {name : String}

theorem escaped_of_gap {c : Char} (gap : isGap c = true) : (c == ' ') = true ∨ Quoted.isEscaped c = true ∧ false = false := by
  rcases Bool.or_eq_true_iff.mp gap with blank | breaks
  · rcases Bool.or_eq_true_iff.mp blank with space | tab
    · exact Or.inl space
    · exact Or.inr ⟨eq_of_beq tab ▸ by decide, rfl⟩
  · exact Or.inr ⟨by simp [Quoted.isEscaped, breaks], rfl⟩

/-- A name that fits in front of a colon is a key there. Literal blocks are
not among these names, as they have a line break in them. -/
theorem isKey_name (named : Named name) (simple : Name.isSimple name = true) :
    IsKey (Name.render 4 name) name (Name.style name) 2 := by
  obtain ⟨single, bytes⟩ : Name.isMultiline name.toList = false ∧ name.utf8ByteSize ≤ 128 := by
    simpa [Name.isSimple] using simple
  rw [← byteLength_toList] at bytes
  have oneLine := Name.oneLine_of_not_multiline single
  have worded := Name.worded_spaces named.wordy named.trimmed
  rcases Name.style_cases name with double | ⟨plain, ⟨newLine, _⟩ | ⟨_, ⟨quoted, _⟩ | ⟨unquoted, clean, _⟩⟩⟩
  · have key := @isKey_quoted name.toList 2 false worded (fun c _ gap => escaped_of_gap gap) bytes
    rw [String.ofList_toList] at key
    rw [Name.render_double double, double]
    exact key
  · cases oneLine '\n' newLine
  · have visible := (Name.visible_of_plain plain).2
    have gaps : ∀ c ∈ name.toList, isGap c = true → (c == ' ') = true ∨ Quoted.isEscaped c = true ∧ true = false := by
      intro c member gap
      rcases Name.gap_of_visible gap (visible c member) with rfl | breaks
      · exact Or.inl rfl
      · rw [oneLine c member] at breaks
        cases breaks
    have key := @isKey_quoted name.toList 2 true worded gaps bytes
    rw [String.ofList_toList] at key
    rw [Name.render_single quoted, quoted, Name.single_oneLine oneLine]
    exact key
  · have visible := (Name.visible_of_plain plain).2
    have stands := Name.standsPlain named.wordy named.trimmed visible clean single
    have key := @isKey_plain name.toList 2 stands (stands.starts visible) (by omega) fun rest mark aligned =>
      Cursor.atDocumentBound_of_column (by omega)
    rw [String.ofList_toList] at key
    rw [Name.render_plain unquoted, unquoted]
    exact key

/-- A name on a line of its own, with its colon on the next one. All four
styles are possible there, and each is read by its own rule. -/
theorem leads_nameAlone {tail : List Char} {indents : List Nat} (named : Named name) (gap : gapFollows tail = true) :
    Leads ⟨' ' :: (Name.render 4 name ++ Block.behind tail), 3, 2 :: indents, true⟩
      [.scalar name (Name.style name), .value] ⟨tail, 3, 2 :: indents, true⟩ := by
  have colon : Leads ⟨':' :: tail, 2, 2 :: indents, true⟩ [.value] ⟨tail, 3, 2 :: indents, true⟩ :=
    @leads_colon .nothing tail 2 (2 :: indents) true gap rfl rfl
  rcases Name.style_cases name with double | ⟨plain, ⟨_, literal⟩ | ⟨newLine, ⟨quoted, breakSpace⟩ | ⟨unquoted, clean, oneLine⟩⟩⟩
  · have worded := Name.worded_spaces named.wordy named.trimmed
    have key := @leads_doubleAlone name.toList tail indents gap worded fun c _ gap => escaped_of_gap gap
    rw [String.ofList_toList] at key
    rw [Name.render_double double, double, List.cons_append, List.append_assoc]
    exact key
  · obtain ⟨_, visible⟩ := Name.visible_of_plain plain
    have worded : Worded isBreak name.toList :=
      worded_of_trimmed named.wordy named.trimmed fun c breaks => by rw [isGap, breaks, Bool.or_true]
    have tabless : '\t' ∉ name.toList := fun member => by cases visible '\t' member
    have solid : name.toList.head? ≠ some ' ' := fun head => by
      cases (ends_of_trimmed named.trimmed).1 ' ' head
    have key := @leads_literalAlone name.toList tail indents worded
      (fun c member breaks => kept_of_visible breaks (visible c member)) tabless solid
    rw [String.ofList_toList] at key
    rw [Name.render_literal literal, literal]
    exact key.trans colon
  · obtain ⟨spaceBreak, visible⟩ := Name.visible_of_plain plain
    have worded : Worded isGap name.toList := worded_of_trimmed named.wordy named.trimmed fun _ gap => gap
    have kinds : ∀ c ∈ name.toList, isGap c = true → c = ' ' ∨ c = lineSeparator ∨ c = paragraphSeparator := by
      intro c member gap
      rcases Name.gap_of_visible gap (visible c member) with space | breaks
      · exact Or.inl space
      · exact Or.inr ((kept_of_visible breaks (visible c member)).resolve_left fun same => newLine (same ▸ member))
    have key := @leads_singleAlone name.toList tail indents gap worded kinds spaceBreak breakSpace
    rw [String.ofList_toList] at key
    rw [Name.render_single quoted, quoted, List.cons_append, List.append_assoc]
    exact key
  · have visible := (Name.visible_of_plain plain).2
    have stands := Name.standsPlain named.wordy named.trimmed visible clean oneLine
    have key := @leads_plainAlone name.toList tail indents stands (stands.starts visible)
    rw [String.ofList_toList] at key
    rw [Name.render_plain unquoted, unquoted]
    exact key.trans colon

end Keys

end Yaml

end CallCapture
