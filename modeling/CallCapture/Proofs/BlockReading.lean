import CallCapture.Proofs.PlainReading

namespace CallCapture.Yaml

namespace Name

theorem block_word {indent : Nat} {word : List Char} (oneLine : ∀ c ∈ word, isBreak c = false) (rest : List Char) :
    block indent false (word ++ rest) = word ++ block indent false rest := by
  have step (c : Char) (rest : List Char) (line : isBreak c = false) :
      block indent false (c :: rest) = [c] ++ block indent false rest := by
    rw [block, line, if_neg Bool.false_ne_true, if_neg Bool.false_ne_true]
    rfl
  have written := written_word step oneLine rest
  rwa [List.flatMap_singleton'] at written

/-- Line breaks are written as they are, and the line behind them is indented.
Blank lines in a block are not indented, which the reader allows for. -/
theorem block_breaks {indent : Nat} {breaks : List Char} (wide : breaks ≠ []) (all : ∀ c ∈ breaks, isBreak c = true)
    (afterBreak : Bool) (rest : List Char) :
    block indent afterBreak (breaks ++ rest) = breaks ++ block indent true rest :=
  written_breaks (fun afterBreak c rest breaks => by rw [block, if_pos breaks]) wide all afterBreak rest

theorem block_line {indent : Nat} {text : List Char} (worded : Worded isBreak text) :
    block indent true text = indentation indent ++ block indent false text := by
  obtain ⟨c, rest, rfl, oneLine⟩ := worded.head
  rw [block, block, oneLine, if_neg Bool.false_ne_true, if_neg Bool.false_ne_true, if_pos rfl,
    if_neg Bool.false_ne_true, List.nil_append]

theorem length_le_block (indent : Nat) (afterBreak : Bool) (text : List Char) :
    text.length ≤ (block indent afterBreak text).length := by
  induction text generalizing afterBreak with
  | nil => exact Nat.zero_le _
  | cons c text ih =>
    unfold block
    split
    · have least := ih true
      simp only [List.length_cons]
      omega
    · have least := ih false
      simp only [List.length_append, List.length_cons]
      omega

end Name

namespace Block

variable {fuel count deepest : Nat} {rest before : List Char} {mark : Mark}

/-- The blanks of a line are those that were written and those that the text
itself begins with. The reader cannot tell the two apart but by the
indentation of the block. -/
theorem takeWhile_spaces (count : Nat) (rest : List Char) :
    ((List.replicate count ' ' ++ rest).takeWhile (· == ' ')).length =
      count + (rest.takeWhile (· == ' ')).length := by
  rw [List.takeWhile_append_of_pos fun c member => by rw [(List.mem_replicate.mp member).2]; rfl, List.length_append,
    List.length_replicate]

theorem advance_spaces (count : Nat) (rest : List Char) (mark : Mark) :
    (⟨List.replicate count ' ' ++ rest, mark⟩ : Cursor).advance count =
      ⟨rest, mark.after (List.replicate count ' ')⟩ := by
  have whole := Cursor.advance_append (List.replicate count ' ') rest mark
  rwa [List.length_replicate] at whole

/-- What the next line with content starts with: no break and no tab. Blanks
may stand there, unless it is the first line of a block. -/
def StartsLine (rest : List Char) : Prop := rest.head?.any isBreak = false ∧ rest.head? ≠ some '\t'

/-- The line behind the blank ones: as much of its indentation is taken as
belongs to the block. Blanks beyond the indentation are content, so the reader
stops in front of them. -/
theorem blankLines?_end (start : mark.column = 0) (reach : min (count + (rest.takeWhile (· == ' ')).length) 4 = count)
    (starts : StartsLine rest) :
    ∃ (deeper : Nat) (reached : Mark), reached.column = count ∧
      blankLines? (some 4) (fuel + 1) before deepest ⟨List.replicate count ' ' ++ rest, mark⟩ =
        some (before, deeper, ⟨rest, reached⟩) := by
  refine ⟨max deepest (mark.after (List.replicate count ' ')).column, mark.after (List.replicate count ' '), ?_, ?_⟩
  · simp [Mark.after, start]
  · have tab : (⟨rest, mark.after (List.replicate count ' ')⟩ : Cursor).isAt '\t' = false := by
      simpa [Cursor.isAt] using starts.2
    have solid : (⟨rest, mark.after (List.replicate count ' ')⟩ : Cursor).atBreak = false := starts.1
    rw [blankLines?]
    simp only [takeWhile_spaces, start, Nat.sub_zero, reach, advance_spaces, tab, solid, Bool.and_false,
      Bool.false_eq_true, if_false]

/-- Blank lines, and the line behind them. By induction on the breaks, each of
which is a blank line of its own. -/
theorem blankLines?_breaks {breaks : List Char} (kept : ∀ c ∈ breaks, c = '\n' ∨ c = lineSeparator ∨ c = paragraphSeparator)
    (start : mark.column = 0) (reach : min (count + (rest.takeWhile (· == ' ')).length) 4 = count)
    (starts : StartsLine rest) (enough : breaks.length < fuel) :
    ∃ (deeper : Nat) (reached : Mark), reached.column = count ∧
      blankLines? (some 4) fuel before deepest ⟨breaks ++ (List.replicate count ' ' ++ rest), mark⟩ =
        some (before ++ breaks, deeper, ⟨rest, reached⟩) := by
  induction breaks generalizing fuel before deepest mark with
  | nil =>
    obtain ⟨fuel, rfl⟩ := Nat.exists_eq_succ_of_ne_zero (by omega : fuel ≠ 0)
    rw [List.append_nil]
    exact blankLines?_end start reach starts
  | cons c breaks ih =>
    rw [List.length_cons] at enough
    obtain ⟨fuel, rfl⟩ := Nat.exists_eq_succ_of_ne_zero (by omega : fuel ≠ 0)
    have step (others : List Char) : blankLines? (some 4) (fuel + 1) before deepest ⟨c :: others, mark⟩ =
        blankLines? (some 4) fuel (before ++ [c]) (max deepest 0) ⟨others, mark.below c⟩ := by
      obtain ⟨index, line, column⟩ := mark
      obtain rfl : column = 0 := start
      rcases kept c List.mem_cons_self with rfl | rfl | rfl <;> rfl
    obtain ⟨deeper, reached, column, read⟩ := @ih fuel (max deepest 0) (before ++ [c]) (mark.below c)
      (fun d member => kept d (List.mem_cons_of_mem c member)) rfl (by omega)
    refine ⟨deeper, reached, column, ?_⟩
    rw [List.cons_append, step, read, List.append_assoc]
    rfl

/-- What stands behind a block that is a key: the colon on a line that
is indented less. -/
def behind (tail : List Char) : List Char := '\n' :: (List.replicate 2 ' ' ++ ':' :: tail)

theorem takeWhile_line {line : List Char} (oneLine : ∀ c ∈ line, isBreak c = false) {c : Char}
    (breaks : isBreak c = true) (tail : List Char) (mark : Mark) :
    (⟨line ++ c :: tail, mark⟩ : Cursor).takeWhile (!isBreak ·) = (line, ⟨c :: tail, mark.after line⟩) := by
  have found : (line ++ c :: tail).takeWhile (!isBreak ·) = line := by
    rw [List.takeWhile_append_of_pos fun d member => by rw [oneLine d member]; rfl,
      List.takeWhile_cons_of_neg (by simp [breaks]), List.append_nil]
  rw [Cursor.takeWhile, found, Cursor.advance_append]

/-- One line of a block that has a break behind it. The break is held back, as
what becomes of it depends on what follows. -/
theorem lines?_line {line tail : List Char} {c : Char} {lines : Lines} (wordy : line ≠ [])
    (oneLine : ∀ d ∈ line, isBreak d = false) (kept : c = '\n' ∨ c = lineSeparator ∨ c = paragraphSeparator)
    (inside : mark.column = 4) :
    ∃ startsBlank, lines? true 4 (fuel + 1) lines ⟨line ++ c :: tail, mark⟩ =
      (blankLines? (some 4) (tail.length + 1) [] 0 ⟨tail, (mark.after line).below c⟩).bind fun found =>
        lines? true 4 fuel
          ⟨lines.text ++ lines.pending ++ lines.breaks ++ line, [c], found.1, startsBlank⟩ found.2.2 := by
  have some : line ++ c :: tail ≠ [] := List.append_ne_nil_of_left_ne_nil wordy _
  have breaks : isBreak c = true := by
    rcases kept with rfl | rfl | rfl <;> rfl
  refine ⟨(⟨line ++ c :: tail, mark⟩ : Cursor).peek?.any isSpaceOrTab, ?_⟩
  rw [lines?]
  simp only [inside, true_and, ne_eq, some, not_false_eq_true, if_true, takeWhile_line oneLine breaks,
    Cursor.takeBreak_kept kept, Lines.joint, Bool.not_true, Bool.false_and, Bool.false_eq_true, if_false]
  rfl

theorem startsLine_block {text : List Char} (worded : Worded isBreak text) (tabless : '\t' ∉ text) (tail : List Char) :
    StartsLine (Name.block 4 false text ++ tail) := by
  obtain ⟨c, others, rfl, oneLine⟩ := worded.head
  rw [Name.block, if_neg (Bool.not_eq_true _ ▸ oneLine), if_neg Bool.false_ne_true]
  refine ⟨by simpa using oneLine, ?_⟩
  rintro ⟨⟩
  exact tabless List.mem_cons_self

/-- The last line of a block. The line behind it is indented by less, so the
block ends there, with its last break still held back. -/
theorem lines?_last {line tail : List Char} {lines : Lines} (wordy : line ≠ [])
    (oneLine : ∀ d ∈ line, isBreak d = false) (inside : mark.column = 4) :
    ∃ (last : Lines) (reached : Mark), reached.column = 2 ∧
      last.text = lines.text ++ lines.pending ++ lines.breaks ++ line ∧
      lines? true 4 (fuel + 1) lines ⟨line ++ behind tail, mark⟩ = some (last, ⟨':' :: tail, reached⟩) := by
  obtain ⟨deeper, reached, column, read⟩ := @blankLines?_end ((List.replicate 2 ' ' ++ ':' :: tail).length) 2 0
    (':' :: tail) [] ((mark.after line).below '\n') rfl rfl ⟨rfl, by simp⟩
  obtain ⟨startsBlank, found⟩ := @lines?_line fuel mark line (List.replicate 2 ' ' ++ ':' :: tail) '\n' lines wordy
    oneLine (Or.inl rfl) inside
  let last : Lines := ⟨lines.text ++ lines.pending ++ lines.breaks ++ line, ['\n'], [], startsBlank⟩
  refine ⟨last, reached, column, rfl, ?_⟩
  rw [behind, found, read, Option.bind_some]
  cases fuel with
  | zero => rfl
  | succ fuel =>
    have outside : ¬ (reached.column = 4 ∧ ':' :: tail ≠ []) := by
      rintro ⟨four, _⟩
      omega
    rw [lines?, if_neg outside]

/-- One line with the breaks behind it, and the indentation of the next. All
that was read so far and held back is the text up to there. -/
theorem lines?_more {line breaks : List Char} {lines : Lines} (wordy : line ≠ [])
    (oneLine : ∀ d ∈ line, isBreak d = false) (wide : breaks ≠ [])
    (kept : ∀ c ∈ breaks, c = '\n' ∨ c = lineSeparator ∨ c = paragraphSeparator) (starts : StartsLine rest)
    (inside : mark.column = 4) :
    ∃ (next : Lines) (reached : Mark), reached.column = 4 ∧
      next.text ++ next.pending ++ next.breaks = lines.text ++ lines.pending ++ lines.breaks ++ line ++ breaks ∧
      lines? true 4 (fuel + 1) lines ⟨line ++ (breaks ++ (List.replicate 4 ' ' ++ rest)), mark⟩ =
        lines? true 4 fuel next ⟨rest, reached⟩ := by
  obtain ⟨c, others, rfl⟩ := List.exists_cons_of_ne_nil wide
  obtain ⟨startsBlank, found⟩ := @lines?_line fuel mark line (others ++ (List.replicate 4 ' ' ++ rest)) c lines wordy
    oneLine (kept c List.mem_cons_self) inside
  obtain ⟨deeper, reached, column, read⟩ := @blankLines?_breaks
    ((others ++ (List.replicate 4 ' ' ++ rest)).length + 1) 4 0 rest [] ((mark.after line).below c) others
    (fun d member => kept d (List.mem_cons_of_mem c member)) rfl (by omega) starts
    (by rw [List.length_append]; omega)
  refine ⟨⟨lines.text ++ lines.pending ++ lines.breaks ++ line, [c], others, startsBlank⟩, reached, column, ?_, ?_⟩
  · simp only [List.append_assoc, List.cons_append, List.nil_append]
  · rw [List.cons_append, found, read, Option.bind_some]
    rfl

/-- The text of a block is read line for line. By induction on the words, each
line together with the breaks behind it. -/
theorem lines?_worded {text tail : List Char} (worded : Worded isBreak text)
    (kept : ∀ c ∈ text, isBreak c = true → c = '\n' ∨ c = lineSeparator ∨ c = paragraphSeparator)
    (tabless : '\t' ∉ text) {lines : Lines} (inside : mark.column = 4) (enough : text.length ≤ fuel) :
    ∃ (last : Lines) (reached : Mark), reached.column = 2 ∧
      last.text = lines.text ++ lines.pending ++ lines.breaks ++ text ∧
      lines? true 4 fuel lines ⟨Name.block 4 false text ++ behind tail, mark⟩ =
        some (last, ⟨':' :: tail, reached⟩) := by
  induction worded generalizing fuel lines mark with
  | @word word wordy oneLine =>
    obtain ⟨fuel, rfl⟩ := Nat.exists_eq_succ_of_ne_zero (by have := List.length_pos_iff.mpr wordy; omega : fuel ≠ 0)
    have whole := @Name.block_word 4 word oneLine []
    rw [List.append_nil, show Name.block 4 false [] = [] from rfl, List.append_nil] at whole
    rw [whole]
    exact lines?_last wordy oneLine inside
  | @more word gap rest wordy oneLine wide separates later ih =>
    have least := List.length_pos_iff.mpr wordy
    simp only [List.length_append] at enough
    obtain ⟨fuel, rfl⟩ := Nat.exists_eq_succ_of_ne_zero (by omega : fuel ≠ 0)
    have keptGap : ∀ c ∈ gap, c = '\n' ∨ c = lineSeparator ∨ c = paragraphSeparator := fun c member =>
      kept c (List.mem_append_right _ (List.mem_append_left _ member)) (separates c member)
    have keptRest : ∀ c ∈ rest, isBreak c = true → c = '\n' ∨ c = lineSeparator ∨ c = paragraphSeparator :=
      fun c member => kept c (List.mem_append_right _ (List.mem_append_right _ member))
    have tablessRest : '\t' ∉ rest := fun member => tabless (List.mem_append_right _ (List.mem_append_right _ member))
    have shape : Name.block 4 false (word ++ (gap ++ rest)) ++ behind tail =
        word ++ (gap ++ (List.replicate 4 ' ' ++ (Name.block 4 false rest ++ behind tail))) := by
      rw [Name.block_word oneLine, Name.block_breaks wide separates, Name.block_line later]
      simp only [Name.indentation, List.append_assoc]
    have starts := startsLine_block later tablessRest (behind tail)
    obtain ⟨next, reached, column, held, line⟩ := @lines?_more fuel _ mark word gap lines wordy oneLine wide keptGap starts
      inside
    obtain ⟨last, final, column, text, done⟩ := @ih fuel reached keptRest tablessRest next column (by omega)
    refine ⟨last, final, column, ?_, ?_⟩
    · rw [text, held]
      simp only [List.append_assoc]
    · rw [shape, line, done]

/-- The indentation of a block is found from its first line: the blanks in
front of it are counted and passed over. -/
theorem blankLines?_first (start : mark.column = 0) (starts : StartsLine rest) (solid : rest.head? ≠ some ' ') :
    blankLines? none (fuel + 1) [] 0 ⟨List.replicate 4 ' ' ++ rest, mark⟩ =
      some ([], 4, ⟨rest, mark.after (List.replicate 4 ' ')⟩) := by
  have none : (rest.takeWhile (· == ' ')).length = 0 := by
    cases rest with
    | nil => rfl
    | cons c rest =>
      have other : c ≠ ' ' := by simpa using solid
      simp [other]
  have tab : (⟨rest, mark.after (List.replicate 4 ' ')⟩ : Cursor).isAt '\t' = false := by
    simpa [Cursor.isAt] using starts.2
  have line : (⟨rest, mark.after (List.replicate 4 ' ')⟩ : Cursor).atBreak = false := starts.1
  have column : (mark.after (List.replicate 4 ' ')).column = 4 := by simp [Mark.after, start]
  rw [blankLines?]
  simp only [takeWhile_spaces, none, Nat.add_zero, advance_spaces, tab, line, column, Bool.and_false,
    Bool.false_eq_true, if_false, Nat.zero_max]

/-- A literal block that is indented by four, in a mapping that is indented by
two, is read back as its text. A name must not begin with a blank, as its
first line tells how far the block is indented. Names of units are trimmed, so
none of them does. -/
theorem read?_worded {text tail : List Char} (worded : Worded isBreak text)
    (kept : ∀ c ∈ text, isBreak c = true → c = '\n' ∨ c = lineSeparator ∨ c = paragraphSeparator)
    (tabless : '\t' ∉ text) (solid : text.head? ≠ some ' ') :
    ∃ reached : Mark, reached.column = 2 ∧
      read? true (some 2) ⟨'-' :: '\n' :: (Name.block 4 true text ++ behind tail), mark⟩ =
        some ⟨text, true, ⟨':' :: tail, reached⟩⟩ := by
  let body := Name.block 4 false text ++ behind tail
  have starts : StartsLine body := startsLine_block worded tabless (behind tail)
  have spaceless : body.head? ≠ some ' ' := by
    obtain ⟨c, others, rfl, oneLine⟩ := worded.head
    have head : body.head? = some c := by
      simp only [body, Name.block, oneLine, Bool.false_eq_true, if_false, List.nil_append, List.cons_append,
        List.head?_cons]
    exact head.symm ▸ solid
  have shape : Name.block 4 true text ++ behind tail = List.replicate 4 ' ' ++ body := by
    rw [Name.block_line worded, List.append_assoc]
    rfl
  let lineStart := (mark.after ['-']).below '\n'
  have first := @blankLines?_first ((List.replicate 4 ' ' ++ body).length) body lineStart rfl starts spaceless
  have enough : text.length ≤ body.length + 1 := by
    have least := Name.length_le_block 4 false text
    rw [List.length_append]
    omega
  obtain ⟨last, reached, column, lines, done⟩ := @lines?_worded (body.length + 1)
    (lineStart.after (List.replicate 4 ' ')) text tail worded kept tabless {} (by simp [Mark.after, lineStart, Mark.below]) enough
  refine ⟨reached, column, ?_⟩
  have header : header? ⟨'-' :: '\n' :: (List.replicate 4 ' ' ++ body), mark⟩ =
      some (⟨.strip, none⟩, ⟨'\n' :: (List.replicate 4 ' ' ++ body), mark.after ['-']⟩) := by
    rw [← Cursor.advance_one]
    rfl
  have finish : Cursor.finishLine? ⟨'\n' :: (List.replicate 4 ' ' ++ body), mark.after ['-']⟩ =
      some ⟨List.replicate 4 ' ' ++ body, lineStart⟩ := by
    rfl
  rw [shape, read?, header]
  simp only [bind, Option.bind, finish, Option.map_none, first]
  change (lines? true 4 (body.length + 1) {} ⟨body, lineStart.after (List.replicate 4 ' ')⟩).bind _ = _
  rw [done, Option.bind_some, lines, List.append_nil]
  rfl

end Block

end CallCapture.Yaml
