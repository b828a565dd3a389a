import CallCapture.Proofs.SpacedText
import CallCapture.Yaml.Token.Scalar

namespace CallCapture.Yaml

theorem kept_of_visible {c : Char} (breaks : isBreak c = true) (visible : isVisible c = true) :
    c = '\n' ∨ c = lineSeparator ∨ c = paragraphSeparator := by
  simp only [isBreak, Bool.or_eq_true, beq_iff_eq] at breaks
  rcases breaks with (((same | rfl) | rfl) | same) | same
  · exact Or.inl same
  · cases visible
  · cases visible
  · exact Or.inr (Or.inl same)
  · exact Or.inr (Or.inr same)

section Written

variable {write : Bool → List Char → List Char}

/-- A text that is written line for line, after a break
differently from within a line, has the words of a line written
one character after the other. -/
theorem written_word {shown : Char → List Char}
    (step : ∀ c rest, isBreak c = false → write false (c :: rest) = shown c ++ write false rest) {word : List Char}
    (oneLine : ∀ c ∈ word, isBreak c = false) (rest : List Char) :
    write false (word ++ rest) = word.flatMap shown ++ write false rest := by
  induction word with
  | nil => rfl
  | cons c word ih =>
    rw [List.cons_append, step c _ (oneLine c List.mem_cons_self), ih fun d member => oneLine d (List.mem_cons_of_mem c member),
      List.flatMap_cons, List.append_assoc]

/-- The breaks of such a text are written as they are, and what is behind them
as after a break. -/
theorem written_breaks (step : ∀ afterBreak c rest, isBreak c = true → write afterBreak (c :: rest) = c :: write true rest)
    {breaks : List Char} (wide : breaks ≠ []) (all : ∀ c ∈ breaks, isBreak c = true) (afterBreak : Bool)
    (rest : List Char) : write afterBreak (breaks ++ rest) = breaks ++ write true rest := by
  induction breaks generalizing afterBreak with
  | nil => exact absurd rfl wide
  | cons c breaks ih =>
    rw [List.cons_append, step afterBreak c _ (all c List.mem_cons_self), List.cons_append]
    cases breaks with
    | nil => rfl
    | cons d breaks => rw [ih (List.cons_ne_nil d breaks) fun e member => all e (List.mem_cons_of_mem c member)]

end Written

/-- No gap follows; the end may. A reader of gaps stops there. -/
def isSolid (text : List Char) : Bool := !text.head?.any isGap

namespace Cursor

theorem atDocumentBound_of_column {rest : List Char} {mark : Mark} (inside : mark.column ≠ 0) :
    (⟨rest, mark⟩ : Cursor).atDocumentBound = false := by
  simp [atDocumentBound, atDocumentMarker, inside]

theorem takeBreak_kept {c : Char} (kept : c = '\n' ∨ c = lineSeparator ∨ c = paragraphSeparator) (rest : List Char)
    (mark : Mark) : (⟨c :: rest, mark⟩ : Cursor).takeBreak = ([c], ⟨rest, mark.below c⟩) := by
  rcases kept with rfl | rfl | rfl <;> rfl

end Cursor

namespace Gap

variable {tabLimit fuel count : Nat} {gap : Gap} {rest : List Char} {mark : Mark}

theorem read?_solid (solid : isSolid rest = true) :
    read? tabLimit fuel gap ⟨rest, mark⟩ = some (gap, ⟨rest, mark⟩) := by
  cases fuel with
  | zero => rfl
  | succ fuel =>
    cases rest with
    | nil => rfl
    | cons c rest =>
      have word : isGap c = false := by simpa [isSolid] using solid
      obtain ⟨blank, line⟩ := Bool.or_eq_false_iff.mp word
      simp only [read?, Cursor.peek?, List.head?_cons, blank, line, Bool.false_eq_true, if_false]

/-- Blanks on one line are all gathered. By induction on their number: each of
them may turn out to be the last. -/
theorem read?_spaces {before : List Char} (solid : isSolid rest = true) (enough : count ≤ fuel) :
    read? tabLimit fuel { blanks := before } ⟨List.replicate count ' ' ++ rest, mark⟩ =
      some ({ blanks := before ++ List.replicate count ' ' }, ⟨rest, mark.after (List.replicate count ' ')⟩) := by
  induction count generalizing fuel before mark with
  | zero =>
    rw [List.replicate_zero, List.nil_append, List.append_nil]
    exact read?_solid solid
  | succ count ih =>
    obtain ⟨fuel, rfl⟩ := Nat.exists_eq_succ_of_ne_zero (by omega : fuel ≠ 0)
    have step : read? tabLimit (fuel + 1) { blanks := before } ⟨' ' :: (List.replicate count ' ' ++ rest), mark⟩ =
        read? tabLimit fuel { blanks := before ++ [' '] } ⟨List.replicate count ' ' ++ rest, mark.after [' ']⟩ := by
      rw [← Cursor.advance_one]
      rfl
    rw [List.replicate_succ, List.cons_append, step, ih (by omega), ← Mark.after_append, List.append_assoc]
    rfl

/-- Blanks behind a line break are passed over, as they are indentation and no
part of the text. -/
theorem read?_indentation (solid : isSolid rest = true) (broken : gap.broken = true) (enough : count ≤ fuel) :
    read? tabLimit fuel gap ⟨List.replicate count ' ' ++ rest, mark⟩ =
      some (gap, ⟨rest, mark.after (List.replicate count ' ')⟩) := by
  induction count generalizing fuel mark with
  | zero => exact read?_solid solid
  | succ count ih =>
    obtain ⟨fuel, rfl⟩ := Nat.exists_eq_succ_of_ne_zero (by omega : fuel ≠ 0)
    have step : read? tabLimit (fuel + 1) gap ⟨' ' :: (List.replicate count ' ' ++ rest), mark⟩ =
        read? tabLimit fuel gap ⟨List.replicate count ' ' ++ rest, mark.after [' ']⟩ := by
      rw [read?]
      simp only [Cursor.peek?, List.head?_cons, broken, Cursor.advance_one]
      rfl
    rw [List.replicate_succ, List.cons_append, step, ih (by omega), ← Mark.after_append]
    rfl

theorem read?_line (solid : isSolid rest = true) (enough : count < fuel) :
    ∃ reached : Mark, reached.column = count ∧ mark.line < reached.line ∧
      read? tabLimit fuel {} ⟨'\n' :: (List.replicate count ' ' ++ rest), mark⟩ =
        some ({ broken := true, firstBreak := ['\n'] }, ⟨rest, reached⟩) := by
  obtain ⟨fuel, rfl⟩ := Nat.exists_eq_succ_of_ne_zero (by omega : fuel ≠ 0)
  refine ⟨(mark.below '\n').after (List.replicate count ' '), ?_, Nat.lt_succ_self _, ?_⟩
  · simp [Mark.below, Mark.after]
  · exact read?_indentation solid rfl (Nat.le_of_lt_succ enough)

/-- Further line breaks are kept, if they separate lines or paragraphs, and
the indentation behind them is passed over. -/
theorem read?_breaks {breaks before : List Char} {first : List Char}
    (kept : ∀ c ∈ breaks, c = lineSeparator ∨ c = paragraphSeparator) (solid : isSolid rest = true)
    (enough : breaks.length + count ≤ fuel) (start : mark.column = 0) :
    ∃ reached : Mark, reached.column = count ∧ mark.line ≤ reached.line ∧
      read? tabLimit fuel ⟨[], true, first, before⟩ ⟨breaks ++ (List.replicate count ' ' ++ rest), mark⟩ =
        some (⟨[], true, first, before ++ breaks⟩, ⟨rest, reached⟩) := by
  induction breaks generalizing fuel before mark with
  | nil =>
    refine ⟨mark.after (List.replicate count ' '), ?_, Nat.le_refl _, ?_⟩
    · simp [Mark.after, start]
    · rw [List.nil_append, List.append_nil]
      exact read?_indentation solid rfl (by simpa using enough)
  | cons c breaks ih =>
    rw [List.length_cons] at enough
    obtain ⟨fuel, rfl⟩ := Nat.exists_eq_succ_of_ne_zero (by omega : fuel ≠ 0)
    have step (others : List Char) : read? tabLimit (fuel + 1) ⟨[], true, first, before⟩ ⟨c :: others, mark⟩ =
        read? tabLimit fuel ⟨[], true, first, before ++ [c]⟩ ⟨others, mark.below c⟩ := by
      rcases kept c List.mem_cons_self with rfl | rfl <;> rfl
    obtain ⟨reached, column, later, read⟩ := @ih fuel (mark.below c) (before ++ [c])
      (fun d member => kept d (List.mem_cons_of_mem c member)) (by omega) rfl
    refine ⟨reached, column, (Nat.le_succ _).trans later, ?_⟩
    rw [List.cons_append, step, read, List.append_assoc]
    rfl

/-- A gap of line breaks that separate lines or paragraphs is kept. Breaks of
this kind are kept when lines are folded, which new lines are not. -/
theorem read?_separators {breaks : List Char} (wide : breaks ≠ [])
    (kept : ∀ c ∈ breaks, c = lineSeparator ∨ c = paragraphSeparator) (solid : isSolid rest = true)
    (enough : breaks.length + count ≤ fuel) :
    ∃ (gap : Gap) (reached : Mark), gap.folded = breaks ∧ reached.column = count ∧ mark.line ≤ reached.line ∧
      read? tabLimit fuel {} ⟨breaks ++ (List.replicate count ' ' ++ rest), mark⟩ = some (gap, ⟨rest, reached⟩) := by
  obtain ⟨c, others, rfl⟩ := List.exists_cons_of_ne_nil wide
  rw [List.length_cons] at enough
  obtain ⟨fuel, rfl⟩ := Nat.exists_eq_succ_of_ne_zero (by omega : fuel ≠ 0)
  have step (behind : List Char) : read? tabLimit (fuel + 1) {} ⟨c :: behind, mark⟩ =
      read? tabLimit fuel ⟨[], true, [c], []⟩ ⟨behind, mark.below c⟩ := by
    rcases kept c List.mem_cons_self with rfl | rfl <;> rfl
  obtain ⟨reached, column, later, read⟩ := @read?_breaks tabLimit fuel count rest (mark.below c) others [] [c]
    (fun d member => kept d (List.mem_cons_of_mem c member)) solid (by omega) rfl
  refine ⟨⟨[], true, [c], others⟩, reached, ?_, column, (Nat.le_succ _).trans later, ?_⟩
  · rcases kept c List.mem_cons_self with rfl | rfl <;> rfl
  · rw [List.cons_append, step, read, List.nil_append]

end Gap

namespace Plain

/-- What may stand behind a word: a gap, the end, or the colon behind a key. A
colon without a gap behind it goes on as a part of the word. -/
def Stops (tail : List Char) : Prop := gapFollows tail = true ∨ ∃ rest, tail = ':' :: rest ∧ gapFollows rest = true

/-- A word is read up to what stops it, if it does not end in a colon itself.
Nothing of the word but its last character can be taken for an end. -/
theorem word?_eq {word tail : List Char} (solid : ∀ c ∈ word, isGap c = false) (colon : word.getLast? ≠ some ':')
    (stops : Stops tail) : word? false (word ++ tail) = some word := by
  induction word with
  | nil =>
    rcases stops with gap | ⟨rest, rfl, gap⟩
    · cases tail with
      | nil => rfl
      | cons c tail =>
        have separates : isGap c = true := gap
        rw [List.nil_append, word?, if_pos separates]
    · have solid : isGap ':' = false := by decide
      rw [List.nil_append, word?, solid, if_neg Bool.false_ne_true, if_neg (by simp), if_pos (Or.inl ⟨rfl, gap⟩)]
  | cons c word ih =>
    have inner : ¬ ((c = ':' ∧ gapFollows (word ++ tail) = true) ∨ (false = true ∧ isFlowIndicator c = true)) := by
      rintro (⟨rfl, gap⟩ | ⟨flow, _⟩)
      · cases word with
        | nil => exact colon rfl
        | cons d word =>
          have solidNext : isGap d = false := solid d (List.mem_cons_of_mem _ List.mem_cons_self)
          rw [show isGap d = true from gap] at solidNext
          cases solidNext
      · cases flow
    have later : word? false (word ++ tail) = some word := by
      refine ih (fun d member => solid d (List.mem_cons_of_mem c member)) fun final => colon ?_
      cases word with
      | nil => cases final
      | cons d word => exact final
    rw [List.cons_append, word?, solid c List.mem_cons_self, if_neg Bool.false_ne_true, if_neg (by simp), if_neg inner,
      later]
    rfl

/-- How a plain scalar is read on behind a word. It goes on while the next
line is indented far enough. -/
def readBehind (margin fuel : Nat) (text : List Char) (next : Cursor) : Option ScalarText :=
  if next.peek?.any isGap then do
    let (gap, behind) ← Gap.read? margin (next.rest.length + 1) {} next
    if behind.mark.column < margin then some ⟨text, gap.broken, behind⟩ else read? false margin fuel text gap behind
  else some ⟨text, false, next⟩

variable {margin fuel : Nat} {text tail rest : List Char} {mark : Mark}

theorem read?_word {word : List Char} {gap : Gap} (wordy : word ≠ []) (solid : ∀ c ∈ word, isGap c = false)
    (hash : word.head? ≠ some '#') (colon : word.getLast? ≠ some ':') (stops : Stops tail)
    (bound : (⟨word ++ tail, mark⟩ : Cursor).atDocumentBound = false) :
    read? false margin (fuel + 1) text gap ⟨word ++ tail, mark⟩ =
      readBehind margin fuel (text ++ gap.folded ++ word) ⟨tail, mark.after word⟩ := by
  have notComment : (⟨word ++ tail, mark⟩ : Cursor).isAt '#' = false := by
    obtain ⟨c, others, rfl⟩ := List.exists_cons_of_ne_nil wordy
    simpa [Cursor.isAt] using hash
  have found : word? false (⟨word ++ tail, mark⟩ : Cursor).rest = some word := word?_eq solid colon stops
  rw [read?, bound, notComment, found]
  simp only [Bool.or_false, Bool.false_eq_true, if_false, bind, Option.bind, if_neg wordy, Cursor.advance_append,
    Bool.not_false, Bool.true_and, decide_eq_true_eq]
  rfl

/-- A scalar goes on behind blanks on its line, if what follows is no gap and
stands within the margin. -/
theorem readBehind_spaces {count : Nat} (wide : count ≠ 0) (solid : isSolid rest = true)
    (inside : margin ≤ mark.column + count) :
    readBehind margin fuel text ⟨List.replicate count ' ' ++ rest, mark⟩ =
      read? false margin fuel text { blanks := List.replicate count ' ' }
        ⟨rest, mark.after (List.replicate count ' ')⟩ := by
  have gap : (List.replicate count ' ' ++ rest).head?.any isGap = true := by
    obtain ⟨count, rfl⟩ := Nat.exists_eq_succ_of_ne_zero wide
    rfl
  have enough : count ≤ (List.replicate count ' ' ++ rest).length + 1 := by
    rw [List.length_append, List.length_replicate]
    omega
  have stays : ¬ (mark.after (List.replicate count ' ')).column < margin := by
    rw [Mark.after, List.length_replicate]
    exact Nat.not_lt.mpr inside
  have read := @Gap.read?_spaces margin _ count rest mark [] solid enough
  rw [List.nil_append] at read
  rw [readBehind, Cursor.peek?, if_pos gap, read]
  simp only [bind, Option.bind, if_neg stays]

theorem readBehind_colon : readBehind margin fuel text ⟨':' :: rest, mark⟩ = some ⟨text, false, ⟨':' :: rest, mark⟩⟩ :=
  rfl

theorem readBehind_line {count : Nat} (outside : count < margin) (solid : isSolid rest = true) :
    ∃ reached : Mark, reached.column = count ∧ mark.line < reached.line ∧
      readBehind margin fuel text ⟨'\n' :: (List.replicate count ' ' ++ rest), mark⟩ =
        some ⟨text, true, ⟨rest, reached⟩⟩ := by
  have enough : count < ('\n' :: (List.replicate count ' ' ++ rest)).length + 1 := by
    rw [List.length_cons, List.length_append, List.length_replicate]
    omega
  obtain ⟨reached, column, later, read⟩ := @Gap.read?_line margin _ count rest mark solid enough
  refine ⟨reached, column, later, ?_⟩
  rw [readBehind, Cursor.peek?, if_pos (by rfl), read]
  simp only [bind, Option.bind, column, if_pos outside]

end Plain

namespace Name

theorem inner_colon {text rest : List Char} {afterGap : Bool}
    (clean : hasInnerIndicator afterGap (text ++ ':' :: rest) = false) : endsWord rest = false := by
  induction text generalizing afterGap with
  | nil =>
    rw [List.nil_append, hasInnerIndicator, Bool.or_eq_false_iff, Bool.or_eq_false_iff] at clean
    simpa using clean.1.1
  | cons c text ih =>
    rw [List.cons_append, hasInnerIndicator, Bool.or_eq_false_iff] at clean
    exact ih clean.2

/-- What is behind a character of such a text has no indicators in it
either. -/
theorem inner_behind {text rest : List Char} {afterGap : Bool} {c : Char}
    (clean : hasInnerIndicator afterGap (text ++ c :: rest) = false) :
    hasInnerIndicator (isGap c || c == '\x00') rest = false := by
  induction text generalizing afterGap with
  | nil =>
    rw [List.nil_append, hasInnerIndicator, Bool.or_eq_false_iff] at clean
    exact clean.2
  | cons d text ih =>
    rw [List.cons_append, hasInnerIndicator, Bool.or_eq_false_iff] at clean
    exact ih clean.2

/-- A word that stands plain starts no comment and ends no key. The gaps
around it are what the two indicators would need. -/
theorem inner_word {word rest : List Char} (clean : hasInnerIndicator true (word ++ rest) = false)
    (ends : endsWord rest = true) : word.head? ≠ some '#' ∧ word.getLast? ≠ some ':' := by
  constructor
  · intro head
    obtain ⟨others, rfl⟩ := List.head?_eq_some_iff.mp head
    simp [hasInnerIndicator] at clean
  · intro final
    obtain ⟨before, rfl⟩ := List.getLast?_eq_some_iff.mp final
    rw [List.append_assoc, List.singleton_append] at clean
    rw [inner_colon clean] at ends
    cases ends

end Name

theorem spaces_of_gap {gap : List Char} (wide : gap ≠ []) (separates : ∀ c ∈ gap, (c == ' ') = true) :
    ∃ count, gap = List.replicate (count + 1) ' ' := by
  obtain ⟨count, length⟩ := Nat.exists_eq_succ_of_ne_zero (mt List.length_eq_zero_iff.mp wide)
  exact ⟨count, List.eq_replicate_iff.mpr ⟨length, fun c member => eq_of_beq (separates c member)⟩⟩

theorem not_gap (isSeparator : Char → Bool) {c : Char} (gaps : isGap c = true → isSeparator c = true)
    (solid : isSeparator c = false) : isGap c = false := by
  by_contra gap
  rw [gaps (Bool.not_eq_false _ ▸ gap)] at solid
  cases solid

theorem no_gap {word : List Char} {p : Char → Prop} (solid : ∀ c ∈ word, isGap c = false) :
    ∀ c ∈ word, isGap c = true → p c := by
  intro c member gap
  rw [solid c member] at gap
  cases gap

theorem Worded.isSolid {isSeparator : Char → Bool} {text : List Char} (worded : Worded isSeparator text)
    (gaps : ∀ c ∈ text, isGap c = true → isSeparator c = true) (rest : List Char) : isSolid (text ++ rest) = true := by
  obtain ⟨c, others, rfl, solid⟩ := worded.head
  simp [Yaml.isSolid, not_gap isSeparator (gaps c List.mem_cons_self) solid]

/-- A text that can stand plain is read word for word. By induction on the
words, with the gaps between them read as blanks. -/
theorem Plain.read?_worded {text tail before : List Char} {gap : Gap} {mark : Mark} {margin fuel : Nat}
    (worded : Worded (· == ' ') text) (gaps : ∀ c ∈ text, isGap c = true → (c == ' ') = true)
    (clean : Name.hasInnerIndicator true text = false) (stops : Stops tail)
    (inside : margin ≤ mark.column + 1) (bound : (⟨text ++ tail, mark⟩ : Cursor).atDocumentBound = false)
    (enough : text.length ≤ fuel) :
    ∃ left, read? false margin fuel before gap ⟨text ++ tail, mark⟩ =
      readBehind margin left (before ++ gap.folded ++ text) ⟨tail, mark.after text⟩ := by
  induction worded generalizing fuel before gap mark with
  | @word word wordy solid =>
    obtain ⟨fuel, rfl⟩ := Nat.exists_eq_succ_of_ne_zero (by have := List.length_pos_iff.mpr wordy; omega : fuel ≠ 0)
    rw [← List.append_nil word] at clean
    obtain ⟨hash, colon⟩ := Name.inner_word clean rfl
    have notGap : ∀ c ∈ word, isGap c = false := fun c member => not_gap (· == ' ') (gaps c member) (solid c member)
    exact ⟨fuel, read?_word wordy notGap hash colon stops bound⟩
  | @more word space rest wordy solid wide separates later ih =>
    obtain ⟨count, rfl⟩ := spaces_of_gap wide separates
    have some := List.length_pos_iff.mpr wordy
    simp only [List.length_append, List.length_replicate] at enough
    obtain ⟨fuel, rfl⟩ := Nat.exists_eq_succ_of_ne_zero (by omega : fuel ≠ 0)
    have notGap : ∀ c ∈ word, isGap c = false := fun c member =>
      not_gap (· == ' ') (gaps c (List.mem_append_left _ member)) (solid c member)
    have gapsLater : ∀ c ∈ rest, isGap c = true → (c == ' ') = true := fun c member =>
      gaps c (List.mem_append_right _ (List.mem_append_right _ member))
    obtain ⟨hash, colon⟩ := Name.inner_word clean rfl
    have cleanLater : Name.hasInnerIndicator true rest = false := by
      rw [List.replicate_succ', List.append_assoc, ← List.append_assoc] at clean
      exact Name.inner_behind clean
    rw [List.append_assoc, List.append_assoc] at bound ⊢
    rw [read?_word wordy notGap hash colon (Or.inl rfl) bound,
      readBehind_spaces (Nat.succ_ne_zero count) (later.isSolid gapsLater tail) (by simp only [Mark.after]; omega)]
    obtain ⟨left, read⟩ := @ih (before ++ gap.folded ++ word) { blanks := List.replicate (count + 1) ' ' }
      ((mark.after word).after (List.replicate (count + 1) ' ')) fuel gapsLater cleanLater
      (by simp only [Mark.after, List.length_replicate]; omega)
      (Cursor.atDocumentBound_of_column (by simp only [Mark.after, List.length_replicate]; omega)) (by omega)
    refine ⟨left, ?_⟩
    rw [read, ← Mark.after_append, ← Mark.after_append]
    simp only [Gap.folded, Bool.not_false, if_true, List.append_assoc]

end CallCapture.Yaml
