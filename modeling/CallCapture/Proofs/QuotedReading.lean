import CallCapture.Proofs.PlainReading

namespace CallCapture.Yaml

namespace Quoted

/-- A character that stands for itself only behind a backslash, if at all. A
blank is not among them, so it stands for itself between quotes. -/
def isEscaped (c : Char) : Bool := !isVisible c || isBreak c || c == '"' || c == '\\'

/-- The text behind a backslash stands for the character. Either it is one
letter, or a letter and so many digits. -/
def escapesTo (text : List Char) (c : Char) : Bool :=
  match text with
  | [] => false
  | e :: digits => !isBreak e &&
    ((digits == [] && shortEscape? e == some c) ||
      (shortEscape? e == none && hexLength? e == some digits.length && numbered? digits digits.length == some c))

theorem escaped_number {c : Char} (escaped : isEscaped c = true) :
    c.toNat < 0xa0 ∨ c.toNat ∈ [0x2028, 0x2029, 0xfeff, 0xfffe, 0xffff] := by
  simp only [isEscaped, Bool.or_eq_true, beq_iff_eq] at escaped
  rcases escaped with ((invisible | breaks) | rfl) | rfl
  · have valid : c.toNat < 0xd800 ∨ 0xdfff < c.toNat ∧ c.toNat < 0x110000 := c.valid
    simp only [isVisible, Bool.not_eq_true', Bool.or_eq_false_iff, Bool.and_eq_false_iff, decide_eq_false_iff_not,
      beq_eq_false_iff_ne, bne_eq_false_iff_eq] at invisible
    simp only [List.mem_cons, List.not_mem_nil, or_false]
    omega
  · simp only [isBreak, Bool.or_eq_true, beq_iff_eq] at breaks
    rcases breaks with (((rfl | rfl) | rfl) | rfl) | rfl <;> decide
  · decide
  · decide

/-- What holds of the characters in a table holds of all that are escaped. So
what every escape has in common is looked up once for each. -/
theorem of_escaped {p : Char → Prop} (low : ∀ n < 0xa0, p (Char.ofNat n))
    (high : ∀ n ∈ [0x2028, 0x2029, 0xfeff, 0xfffe, 0xffff], p (Char.ofNat n)) {c : Char} (escaped : isEscaped c = true) :
    p c := by
  rw [← Char.ofNat_toNat c]
  rcases escaped_number escaped with small | large
  · exact low c.toNat small
  · exact high c.toNat large

theorem escape_low : ∀ n < 0xa0, isEscaped (Char.ofNat n) = true →
    escapesTo (Name.escape (Char.ofNat n)) (Char.ofNat n) = true := by
  decide +kernel

theorem escape_high : ∀ n ∈ [0x2028, 0x2029, 0xfeff, 0xfffe, 0xffff], isEscaped (Char.ofNat n) = true →
    escapesTo (Name.escape (Char.ofNat n)) (Char.ofNat n) = true := by
  decide +kernel

theorem escape_reads {c : Char} (escaped : isEscaped c = true) : escapesTo (Name.escape c) c = true :=
  @of_escaped (fun c => isEscaped c = true → escapesTo (Name.escape c) c = true) escape_low escape_high c escaped escaped

/-- How a character stands between quotes. Single quotes have no escapes, but
a quote is doubled. -/
def unit (single : Bool) (c : Char) : List Char :=
  if single then (if c = '\'' then ['\'', '\''] else [c])
  else if isEscaped c then '\\' :: Name.escape c else [c]

/-- The character in front of what else is in a run. The rest of what was
read, and the cursor behind it, stay. -/
def runBehind (c : Char) (run : List Char × Bool × Cursor) : List Char × Bool × Cursor := (c :: run.1, run.2)

theorem bind_runBehind (c : Char) (read : Option (List Char × Bool × Cursor)) :
    (do
      let (text, escaped, cursor) ← read
      return (c :: text, escaped, cursor)) = read.map (runBehind c) := by
  cases read <;> rfl

variable {single : Bool} {fuel : Nat} {rest : List Char} {mark : Mark}

/-- A backslash with its escape is one character of a run. Short escapes and
numeric ones are read apart, and come to the same. -/
theorem run?_escaped {text : List Char} {c : Char} (reads : escapesTo text c = true) :
    run? false (fuel + 1) ⟨'\\' :: (text ++ rest), mark⟩ =
      (run? false fuel ⟨rest, mark.after ('\\' :: text)⟩).map (runBehind c) := by
  cases text with
  | nil => cases reads
  | cons e digits =>
    have backslash : isGap '\\' = false := by decide
    have step : (⟨'\\' :: e :: (digits ++ rest), mark⟩ : Cursor).advance (2 + digits.length) =
        ⟨rest, mark.after ('\\' :: e :: digits)⟩ := by
      have whole := Cursor.advance_append ('\\' :: e :: digits) rest mark
      rwa [List.length_cons, List.length_cons, Nat.add_assoc, Nat.add_comm] at whole
    simp only [escapesTo, Bool.and_eq_true, Bool.not_eq_true', Bool.or_eq_true, beq_iff_eq] at reads
    obtain ⟨line, reads⟩ := reads
    rw [run?]
    simp only [backslash, Bool.false_eq_true, if_false, if_neg (by decide : '\\' ≠ '"'), if_true, List.cons_append, line]
    rcases reads with ⟨rfl, short⟩ | ⟨⟨long, length⟩, number⟩
    · simp only [short]
      rw [List.length_nil, Nat.add_zero] at step
      rw [step]
      exact bind_runBehind c _
    · simp only [long, length, List.take_left, number, Option.bind_some, bind]
      rw [step]
      exact bind_runBehind c _

/-- Whatever a character is written as between quotes is read as that
character. In single quotes only the quote itself needs more than one. -/
theorem run?_unit {c : Char} (solid : isGap c = true → isEscaped c = true ∧ single = false) :
    run? single (fuel + 1) ⟨unit single c ++ rest, mark⟩ =
      (run? single fuel ⟨rest, mark.after (unit single c)⟩).map (runBehind c) := by
  cases single with
  | true =>
    have word : isGap c = false := by
      by_contra gap
      cases (solid (Bool.not_eq_false _ ▸ gap)).2
    by_cases quote : c = '\''
    · subst quote
      rw [show unit true '\'' = ['\'', '\''] from rfl, ← Cursor.advance_append]
      rw [List.cons_append, List.singleton_append, run?]
      simp only [word, Bool.false_eq_true, if_false, if_true, List.head?_cons]
      exact bind_runBehind '\'' _
    · rw [unit, if_pos rfl, if_neg quote, ← Cursor.advance_append, List.singleton_append, run?]
      simp only [word, Bool.false_eq_true, if_false, if_true, if_neg quote]
      exact bind_runBehind c _
  | false =>
    by_cases escaped : isEscaped c = true
    · rw [unit, if_neg Bool.false_ne_true, if_pos escaped]
      exact run?_escaped (escape_reads escaped)
    · have word : isGap c = false := by
        by_contra gap
        exact escaped (solid (Bool.not_eq_false _ ▸ gap)).1
      have quote : c ≠ '"' := by
        rintro rfl
        exact escaped (by decide)
      have backslash : c ≠ '\\' := by
        rintro rfl
        exact escaped (by decide)
      rw [unit, if_neg Bool.false_ne_true, if_neg escaped, ← Cursor.advance_append, List.singleton_append, run?]
      simp only [word, Bool.false_eq_true, if_false, if_neg quote, if_neg backslash]
      exact bind_runBehind c _

/-- What ends a run: a gap, or the quote. A doubled quote ends none. The end
of the document ends no run, as the quote would be missing. -/
def EndsRun (single : Bool) (rest : List Char) : Prop :=
  (∃ c tail, rest = c :: tail ∧ isGap c = true) ∨
    ∃ tail, rest = quote single :: tail ∧ tail.head? ≠ some '\''

theorem run?_end (ends : EndsRun single rest) : run? single (fuel + 1) ⟨rest, mark⟩ = some ([], false, ⟨rest, mark⟩) := by
  rcases ends with ⟨c, tail, rfl, gap⟩ | ⟨tail, rfl, other⟩
  · rw [run?]
    simp only [gap, if_true]
  · cases single with
    | true =>
      have word : isGap '\'' = false := by decide
      rw [quote, if_pos rfl, run?]
      simp only [word, Bool.false_eq_true, if_false, if_true, if_neg other]
    | false =>
      have word : isGap '"' = false := by decide
      rw [quote, if_neg Bool.false_ne_true, run?]
      simp only [word, Bool.false_eq_true, if_false, if_true]

/-- A word is one run, by induction on its characters. A word has gaps in it
only where these are escaped. -/
theorem run?_word {word : List Char} (solid : ∀ c ∈ word, isGap c = true → isEscaped c = true ∧ single = false)
    (ends : EndsRun single rest) (enough : word.length < fuel) :
    run? single fuel ⟨word.flatMap (unit single) ++ rest, mark⟩ =
      some (word, false, ⟨rest, mark.after (word.flatMap (unit single))⟩) := by
  induction word generalizing fuel mark with
  | nil =>
    obtain ⟨fuel, rfl⟩ := Nat.exists_eq_succ_of_ne_zero (by omega : fuel ≠ 0)
    exact run?_end ends
  | cons c word ih =>
    rw [List.length_cons] at enough
    obtain ⟨fuel, rfl⟩ := Nat.exists_eq_succ_of_ne_zero (by omega : fuel ≠ 0)
    rw [List.flatMap_cons, List.append_assoc, run?_unit (solid c List.mem_cons_self),
      ih (fun d member => solid d (List.mem_cons_of_mem c member)) (by omega), ← Mark.after_append]
    rfl

theorem unit_ne_nil (single : Bool) (c : Char) : unit single c ≠ [] := by
  unfold unit
  split_ifs <;> exact List.cons_ne_nil _ _

theorem length_le_flatMap {f : Char → List Char} (some : ∀ c, f c ≠ []) (text : List Char) :
    text.length ≤ (text.flatMap f).length := by
  induction text with
  | nil => exact Nat.le_refl _
  | cons c text ih =>
    have least := List.length_pos_iff.mpr (some c)
    rw [List.flatMap_cons, List.length_append, List.length_cons]
    omega

theorem unit_space (single : Bool) : unit single ' ' = [' '] := by
  cases single <;> decide

theorem flatMap_spaces (single : Bool) (count : Nat) :
    (List.replicate count ' ').flatMap (unit single) = List.replicate count ' ' := by
  induction count with
  | zero => rfl
  | succ count ih => rw [List.replicate_succ, List.flatMap_cons, ih, unit_space, List.singleton_append]

/-- What a character is written as does not begin with a gap, so a run that
stands there goes on. -/
theorem unit_solid {c : Char} (solid : isGap c = true → isEscaped c = true ∧ single = false) (rest : List Char) :
    isSolid (unit single c ++ rest) = true := by
  have word (d : Char) (others : List Char) (notGap : isGap d = false) : isSolid (d :: others) = true := by
    simp [isSolid, notGap]
  unfold unit
  split_ifs with quoted quote escaped
  · exact word _ _ (by decide)
  · refine word c rest ?_
    by_contra gap
    rw [(solid (Bool.not_eq_false _ ▸ gap)).2] at quoted
    cases quoted
  · exact word _ _ (by decide)
  · refine word c rest ?_
    by_contra gap
    exact escaped (solid (Bool.not_eq_false _ ▸ gap)).1

section Words

variable {word before tail : List Char}

/-- A word between quotes is read up to the gap or the quote behind it, and
then the scalar goes on or is over. -/
theorem read?_word (solid : ∀ c ∈ word, isGap c = true → isEscaped c = true ∧ single = false)
    (ends : EndsRun single rest) (inside : mark.column ≠ 0) :
    read? single (fuel + 1) before ⟨word.flatMap (unit single) ++ rest, mark⟩ =
      let next : Cursor := ⟨rest, mark.after (word.flatMap (unit single))⟩
      if next.isAt (quote single) then some (before ++ word, next.advance 1)
      else (Gap.read? 0 (rest.length + 1) {} next).bind fun found =>
        read? single fuel (before ++ word ++ found.1.folded) found.2 := by
  have some : word.flatMap (unit single) ++ rest ≠ [] := by
    refine List.append_ne_nil_of_right_ne_nil _ ?_
    rcases ends with ⟨c, tail, rfl, _⟩ | ⟨tail, rfl, _⟩ <;> exact List.cons_ne_nil _ _
  have enough : word.length < (word.flatMap (unit single) ++ rest).length + 1 := by
    have least := length_le_flatMap (unit_ne_nil single) word
    rw [List.length_append]
    omega
  rw [read?, Cursor.atDocumentBound_of_column inside]
  simp only [Bool.false_or, decide_eq_true_eq, if_neg some, run?_word solid ends enough]
  rfl

theorem read?_last (solid : ∀ c ∈ word, isGap c = true → isEscaped c = true ∧ single = false)
    (closing : tail.head? ≠ some '\'') (inside : mark.column ≠ 0) :
    read? single (fuel + 1) before ⟨word.flatMap (unit single) ++ quote single :: tail, mark⟩ =
      some (before ++ word, ⟨tail, mark.after (word.flatMap (unit single) ++ [quote single])⟩) := by
  rw [read?_word solid (Or.inr ⟨tail, rfl, closing⟩) inside]
  dsimp only
  rw [if_pos (by simp [Cursor.isAt]), Cursor.advance_one, Mark.after_append]

theorem read?_more (solid : ∀ c ∈ word, isGap c = true → isEscaped c = true ∧ single = false) {c : Char}
    (gap : isGap c = true) (inside : mark.column ≠ 0) :
    read? single (fuel + 1) before ⟨word.flatMap (unit single) ++ c :: tail, mark⟩ =
      (Gap.read? 0 ((c :: tail).length + 1) {} ⟨c :: tail, mark.after (word.flatMap (unit single))⟩).bind fun found =>
        read? single fuel (before ++ word ++ found.1.folded) found.2 := by
  have other : c ≠ quote single := by
    rintro rfl
    cases single <;> cases gap
  rw [read?_word solid (Or.inl ⟨c, tail, rfl, gap⟩) inside]
  dsimp only
  rw [if_neg (by simp [Cursor.isAt, other])]

end Words

/-- A whole text between quotes is read back. By induction on its words, with
the blanks between them gathered as gaps. -/
theorem read?_worded {text before tail : List Char} (worded : Worded (· == ' ') text)
    (gaps : ∀ c ∈ text, isGap c = true → (c == ' ') = true ∨ isEscaped c = true ∧ single = false)
    (closing : tail.head? ≠ some '\'') (inside : mark.column ≠ 0) (enough : text.length ≤ fuel) :
    read? single fuel before ⟨text.flatMap (unit single) ++ quote single :: tail, mark⟩ =
      some (before ++ text, ⟨tail, mark.after (text.flatMap (unit single) ++ [quote single])⟩) := by
  induction worded generalizing fuel before mark with
  | @word word wordy solid =>
    obtain ⟨fuel, rfl⟩ := Nat.exists_eq_succ_of_ne_zero (by have := List.length_pos_iff.mpr wordy; omega : fuel ≠ 0)
    refine read?_last (fun c member gap => (gaps c member gap).resolve_left ?_) closing inside
    rw [solid c member]
    exact Bool.false_ne_true
  | @more word space rest wordy solid wide separates later ih =>
    obtain ⟨count, rfl⟩ := spaces_of_gap wide separates
    have some := List.length_pos_iff.mpr wordy
    simp only [List.length_append, List.length_replicate] at enough
    obtain ⟨fuel, rfl⟩ := Nat.exists_eq_succ_of_ne_zero (by omega : fuel ≠ 0)
    have gapsLater : ∀ c ∈ rest, isGap c = true → (c == ' ') = true ∨ isEscaped c = true ∧ single = false :=
      fun c member => gaps c (List.mem_append_right _ (List.mem_append_right _ member))
    have solidWord : ∀ c ∈ word, isGap c = true → isEscaped c = true ∧ single = false := by
      intro c member gap
      refine (gaps c (List.mem_append_left _ member) gap).resolve_left ?_
      rw [solid c member]
      exact Bool.false_ne_true
    let behind := rest.flatMap (unit single) ++ quote single :: tail
    have solidBehind : isSolid behind = true := by
      obtain ⟨c, others, rfl, notSpace⟩ := later.head
      have first := gapsLater c List.mem_cons_self
      rw [notSpace] at first
      simp only [behind, List.flatMap_cons, List.append_assoc]
      exact unit_solid (fun gap => (first gap).resolve_left Bool.false_ne_true) _
    have shape : (word ++ (List.replicate (count + 1) ' ' ++ rest)).flatMap (unit single) ++ quote single :: tail =
        word.flatMap (unit single) ++ ' ' :: (List.replicate count ' ' ++ behind) := by
      simp only [behind, List.flatMap_append, flatMap_spaces, List.append_assoc]
      rfl
    have read := @Gap.read?_spaces 0 ((' ' :: (List.replicate count ' ' ++ behind)).length + 1) (count + 1) behind
      (mark.after (word.flatMap (unit single))) [] solidBehind
      (by rw [List.length_cons, List.length_append, List.length_replicate]; omega)
    rw [List.nil_append, List.replicate_succ, List.cons_append] at read
    rw [shape, read?_more solidWord (by decide) inside, read, Option.bind_some]
    dsimp only
    rw [ih gapsLater (by simp only [Mark.after, List.length_cons]; omega) (by omega), ← Mark.after_append,
      ← Mark.after_append]
    simp only [Gap.folded, Bool.not_false, if_true, List.flatMap_append, List.flatMap_cons, flatMap_spaces, unit_space,
      List.replicate_succ, List.append_assoc, List.cons_append, List.nil_append]

end Quoted

namespace Name

theorem single_word {indent : Nat} {word : List Char} (oneLine : ∀ c ∈ word, isBreak c = false) (rest : List Char) :
    single indent false (word ++ rest) = word.flatMap (Quoted.unit true) ++ single indent false rest := by
  refine written_word (fun c rest line => ?_) oneLine rest
  rw [single, line, if_neg Bool.false_ne_true, if_neg Bool.false_ne_true]
  rfl

theorem single_oneLine {indent : Nat} {text : List Char} (oneLine : ∀ c ∈ text, isBreak c = false) :
    single indent false text = text.flatMap (Quoted.unit true) := by
  have whole := @single_word indent text oneLine []
  rwa [List.append_nil, show single indent false [] = [] from rfl, List.append_nil] at whole

theorem single_breaks {indent : Nat} {breaks : List Char} (wide : breaks ≠ []) (all : ∀ c ∈ breaks, isBreak c = true)
    (afterBreak : Bool) (rest : List Char) :
    single indent afterBreak (breaks ++ rest) = breaks ++ single indent true rest :=
  written_breaks (fun afterBreak c rest breaks => by rw [single, if_pos breaks]) wide all afterBreak rest

theorem single_line {indent : Nat} {c : Char} (oneLine : isBreak c = false) (rest : List Char) :
    single indent true (c :: rest) = indentation indent ++ single indent false (c :: rest) := by
  rw [single, single, oneLine, if_neg Bool.false_ne_true, if_neg Bool.false_ne_true, if_pos rfl,
    if_neg Bool.false_ne_true, List.nil_append, List.append_assoc]

theorem length_le_single (indent : Nat) (afterBreak : Bool) (text : List Char) :
    text.length ≤ (single indent afterBreak text).length := by
  induction text generalizing afterBreak with
  | nil => exact Nat.zero_le _
  | cons c text ih =>
    rw [single]
    split
    · exact Nat.succ_le_succ (ih true)
    · have least : 1 ≤ (if c = '\'' then ['\'', '\''] else [c]).length := by split <;> simp
      have later := ih false
      simp only [List.length_append, List.length_cons]
      omega

theorem hasAdjacent_append {p q : Char → Bool} {text other : List Char} (none : hasAdjacent p q (text ++ other) = false) :
    hasAdjacent p q text = false ∧ hasAdjacent p q other = false := by
  induction text with
  | nil => exact ⟨rfl, none⟩
  | cons c text ih =>
    rw [List.cons_append, hasAdjacent, Bool.or_eq_false_iff] at none
    obtain ⟨first, later⟩ := ih none.2
    refine ⟨?_, later⟩
    rw [hasAdjacent, first, Bool.or_false]
    cases text with
    | nil => simp
    | cons d text => exact none.1

/-- Spaces and line breaks that do not stand side by side. Names for which
this does not hold are written in double quotes. -/
theorem uniform_gap {gap : List Char} (kinds : ∀ c ∈ gap, c = ' ' ∨ isBreak c = true)
    (spaceBreak : hasSpaceBreak gap = false) (breakSpace : hasBreakSpace gap = false) :
    (∀ c ∈ gap, (c == ' ') = true) ∨ ∀ c ∈ gap, isBreak c = true := by
  induction gap with
  | nil => exact Or.inl (List.forall_mem_nil _)
  | cons c gap ih =>
    obtain ⟨noBreakNext, spaceBreak⟩ : ((c == ' ') && gap.head?.any isBreak) = false ∧ hasSpaceBreak gap = false :=
      Bool.or_eq_false_iff.mp spaceBreak
    obtain ⟨noSpaceNext, breakSpace⟩ : (isBreak c && gap.head?.any (· == ' ')) = false ∧ hasBreakSpace gap = false :=
      Bool.or_eq_false_iff.mp breakSpace
    have later := ih (fun d member => kinds d (List.mem_cons_of_mem c member)) spaceBreak breakSpace
    cases gap with
    | nil =>
      simp only [List.forall_mem_singleton, beq_iff_eq]
      exact kinds c List.mem_cons_self
    | cons d gap =>
      have next : d ∈ d :: gap := List.mem_cons_self
      rcases kinds c List.mem_cons_self with rfl | line
      · refine Or.inl (List.forall_mem_cons.mpr ⟨beq_self_eq_true ' ', later.resolve_right fun lines => ?_⟩)
        simp [lines d next] at noBreakNext
      · refine Or.inr (List.forall_mem_cons.mpr ⟨line, later.resolve_left fun spaces => ?_⟩)
        simp [line, eq_of_beq (spaces d next)] at noSpaceNext

/-- A gap between single quotes is read back: spaces stand as they are, line
breaks are followed by the indentation. -/
theorem read?_gap {gap rest tail : List Char} {mark : Mark} (wide : gap ≠ [])
    (kinds : ∀ c ∈ gap, c = ' ' ∨ c = lineSeparator ∨ c = paragraphSeparator) (spaceBreak : hasSpaceBreak gap = false)
    (breakSpace : hasBreakSpace gap = false) (later : Worded isGap rest) :
    let text := single 4 false (gap ++ rest) ++ tail
    (∃ c behind, text = c :: behind ∧ isGap c = true) ∧
    ∃ (found : Gap) (reached : Mark), found.folded = gap ∧ reached.column ≠ 0 ∧ mark.line ≤ reached.line ∧
      Gap.read? 0 (text.length + 1) {} ⟨text, mark⟩ = some (found, ⟨single 4 false rest ++ tail, reached⟩) := by
  have solid : isSolid (single 4 false rest ++ tail) = true := by
    obtain ⟨c, others, rfl, word⟩ := later.head
    have unit := @Quoted.unit_solid true c (fun gap => by rw [word] at gap; cases gap) (single 4 false others ++ tail)
    rw [← List.singleton_append, single_word fun d member => ?_]
    · rw [List.flatMap_singleton, List.append_assoc]
      exact unit
    · rw [List.mem_singleton.mp member]
      exact (Bool.or_eq_false_iff.mp word).2
  rcases uniform_gap (fun c member => (kinds c member).imp_right (by rintro (rfl | rfl) <;> rfl)) spaceBreak
      breakSpace with spaces | lines
  · obtain ⟨count, rfl⟩ := spaces_of_gap wide spaces
    rw [single_word fun c member => by rw [(List.mem_replicate.mp member).2]; rfl, Quoted.flatMap_spaces,
      List.append_assoc]
    refine ⟨⟨' ', _, rfl, by decide⟩, { blanks := List.replicate (count + 1) ' ' }, _, rfl, ?_, ?_,
      (Gap.read?_spaces solid ?_)⟩
    · simp [Mark.after]
    · simp [Mark.after]
    · rw [List.length_append, List.length_replicate]
      omega
  · obtain ⟨c, others, rfl, word⟩ := later.head
    rw [single_breaks wide lines, single_line (Bool.or_eq_false_iff.mp word).2, List.append_assoc, List.append_assoc]
    have kept : ∀ d ∈ gap, d = lineSeparator ∨ d = paragraphSeparator := by
      intro d member
      refine (kinds d member).resolve_left ?_
      rintro rfl
      cases lines ' ' member
    refine ⟨?_, ?_⟩
    · obtain ⟨d, behind, rfl⟩ := List.exists_cons_of_ne_nil wide
      exact ⟨d, _, rfl, by rw [isGap, lines d List.mem_cons_self, Bool.or_true]⟩
    · obtain ⟨found, reached, folded, column, below, read⟩ := @Gap.read?_separators 0
        ((gap ++ (indentation 4 ++ (single 4 false (c :: others) ++ tail))).length + 1) 4
        (single 4 false (c :: others) ++ tail) mark gap wide kept solid (by simp [indentation])
      exact ⟨found, reached, folded, by omega, below, read⟩

end Name

/-- A text in single quotes is read back, also when it stands on several
lines. Only breaks that are kept when lines are folded may be in it. -/
theorem Quoted.read?_lines {text before tail : List Char} {fuel : Nat} {mark : Mark} (worded : Worded isGap text)
    (kinds : ∀ c ∈ text, isGap c = true → c = ' ' ∨ c = lineSeparator ∨ c = paragraphSeparator)
    (spaceBreak : Name.hasSpaceBreak text = false) (breakSpace : Name.hasBreakSpace text = false)
    (closing : tail.head? ≠ some '\'') (inside : mark.column ≠ 0) (enough : text.length ≤ fuel) :
    ∃ reached : Mark, mark.line ≤ reached.line ∧
      read? true fuel before ⟨Name.single 4 false text ++ '\'' :: tail, mark⟩ =
        some (before ++ text, ⟨tail, reached⟩) := by
  induction worded generalizing fuel before mark with
  | @word word wordy solid =>
    obtain ⟨fuel, rfl⟩ := Nat.exists_eq_succ_of_ne_zero (by have := List.length_pos_iff.mpr wordy; omega : fuel ≠ 0)
    rw [Name.single_oneLine fun c member => (Bool.or_eq_false_iff.mp (solid c member)).2]
    exact ⟨mark.after (word.flatMap (unit true) ++ [quote true]), Nat.le_refl _, read?_last (no_gap solid) closing inside⟩
  | @more word gap rest wordy solid wide separates later ih =>
    have some := List.length_pos_iff.mpr wordy
    simp only [List.length_append] at enough
    obtain ⟨fuel, rfl⟩ := Nat.exists_eq_succ_of_ne_zero (by omega : fuel ≠ 0)
    have oneLine : ∀ c ∈ word, isBreak c = false := fun c member => (Bool.or_eq_false_iff.mp (solid c member)).2
    have kindsGap : ∀ c ∈ gap, c = ' ' ∨ c = lineSeparator ∨ c = paragraphSeparator := fun c member =>
      kinds c (List.mem_append_right _ (List.mem_append_left _ member)) (separates c member)
    have kindsLater : ∀ c ∈ rest, isGap c = true → c = ' ' ∨ c = lineSeparator ∨ c = paragraphSeparator :=
      fun c member => kinds c (List.mem_append_right _ (List.mem_append_right _ member))
    obtain ⟨spaceBreakGap, spaceBreakLater⟩ := Name.hasAdjacent_append (Name.hasAdjacent_append spaceBreak).2
    obtain ⟨breakSpaceGap, breakSpaceLater⟩ := Name.hasAdjacent_append (Name.hasAdjacent_append breakSpace).2
    obtain ⟨⟨c, behind, shape, isGap⟩, found, reached, folded, column, below, read⟩ := @Name.read?_gap gap rest ('\'' :: tail)
      (mark.after (word.flatMap (unit true))) wide kindsGap spaceBreakGap breakSpaceGap later
    obtain ⟨last, further, done⟩ := @ih (before ++ word ++ found.folded) fuel reached kindsLater spaceBreakLater
      breakSpaceLater column (by omega)
    refine ⟨last, below.trans further, ?_⟩
    rw [Name.single_word oneLine, List.append_assoc, shape, read?_more (no_gap solid) isGap inside, ← shape, read,
      Option.bind_some]
    dsimp only
    rw [done, folded, List.append_assoc, List.append_assoc]

end CallCapture.Yaml
