import CallCapture.Proofs.TokenStream

namespace CallCapture.Yaml

/-- A token may start here: neither a gap nor a comment, nor a byte order
mark. At the end of the document a token starts as well, which ends it. -/
def startsToken (rest : List Char) : Bool :=
  rest.head?.all fun c => !(isGap c || c == '#' || c == byteOrderMark)

/-- What stands between two tokens. Nothing else stands between the tokens of
a document of preferences, as none of them has comments or blank lines. -/
inductive Spacing where
  | nothing
  | space
  | line (indent : Nat)

namespace Spacing

/-- How it is written. Preferences are written with no other gaps
between their tokens. -/
def text : Spacing → List Char
  | nothing => []
  | space => [' ']
  | line indent => '\n' :: List.replicate indent ' '

/-- The place of the next token. It is counted on from the end of
the token in front. -/
def mark (start : Mark) : Spacing → Mark
  | nothing => start
  | space => start.after [' ']
  | line indent => (start.below '\n').after (List.replicate indent ' ')

/-- Whether a key may stand next; a line break allows one. Within a line it
stays as the token in front left it. -/
def allows (before : Bool) : Spacing → Bool
  | line _ => true
  | _ => before

/-- The column of the next token. Behind a line break it is the
indentation. -/
def column (start : Nat) : Spacing → Nat
  | nothing => start
  | space => start + 1
  | line indent => indent

theorem column_mark (start : Mark) (spacing : Spacing) : (spacing.mark start).column = spacing.column start.column := by
  cases spacing <;> simp [mark, column, Mark.after, Mark.below]

end Spacing

namespace Scanner

variable {fuel : Nat}

theorem skipWhile_spaces {p : Char → Bool} {count : Nat} {rest : List Char} {mark : Mark} (space : p ' ' = true)
    (none : rest.head?.any p = false) :
    (⟨List.replicate count ' ' ++ rest, mark⟩ : Cursor).skipWhile p =
      ⟨rest, mark.after (List.replicate count ' ')⟩ := by
  have found : (List.replicate count ' ' ++ rest).takeWhile p = List.replicate count ' ' := by
    rw [List.takeWhile_append_of_pos fun c member => by rw [(List.mem_replicate.mp member).2, space]]
    cases rest with
    | nil => rw [List.takeWhile_nil, List.append_nil]
    | cons c rest => simp [show p c = false by simpa using none]
  rw [Cursor.skipWhile, Cursor.takeWhile, found, Cursor.advance_append]

theorem any_of_starts {p : Char → Bool} {rest : List Char} (starts : startsToken rest = true)
    (other : ∀ c, p c = true → (isGap c || c == '#' || c == byteOrderMark) = true) : rest.head?.any p = false := by
  cases rest with
  | nil => rfl
  | cons c rest =>
    by_contra found
    rw [Bool.not_eq_false] at found
    have no : (!(isGap c || c == '#' || c == byteOrderMark)) = true := starts
    rw [other c found] at no
    cases no

theorem isAt_of_starts {rest : List Char} {mark : Mark} {c : Char} (starts : startsToken rest = true)
    (other : (isGap c || c == '#' || c == byteOrderMark) = true) : (⟨rest, mark⟩ : Cursor).isAt c = false := by
  have none := @any_of_starts (· == c) rest starts fun d same => eq_of_beq same ▸ other
  cases rest with
  | nil => rfl
  | cons d rest => simpa [Cursor.isAt] using none

/-- Blanks in front of a token are skipped at once, and nothing but the place
changes. No break is among them, so no key is allowed by it. -/
theorem skipToToken_spaces {count : Nat} {rest : List Char} {mark : Mark} {s : Scanner} (starts : startsToken rest = true)
    (here : s.cursor = ⟨List.replicate count ' ' ++ rest, mark⟩) :
    s.skipToToken (fuel + 1) = { s with cursor := ⟨rest, mark.after (List.replicate count ' ')⟩ } := by
  have noMark : s.cursor.isAt byteOrderMark = false := by
    rw [here]
    cases count with
    | zero => exact isAt_of_starts starts (by decide)
    | succ count => rfl
  have blanks (p : Char → Bool) (space : p ' ' = true) (other : ∀ c, p c = true → isSpaceOrTab c = true) :
      s.cursor.skipWhile p = ⟨rest, mark.after (List.replicate count ' ')⟩ := by
    rw [here]
    refine skipWhile_spaces space (any_of_starts starts fun c found => ?_)
    rw [isGap, other c found, Bool.true_or, Bool.true_or, Bool.true_or]
  have noComment : (⟨rest, mark.after (List.replicate count ' ')⟩ : Cursor).isAt '#' = false :=
    isAt_of_starts starts (by decide)
  have noBreak : (⟨rest, mark.after (List.replicate count ' ')⟩ : Cursor).atBreak = false :=
    any_of_starts starts fun c found => by rw [isGap, found, Bool.or_true, Bool.true_or, Bool.true_or]
  rw [skipToToken]
  simp only [noMark, Bool.false_eq_true, and_false, if_false]
  rw [blanks _ rfl fun c found => ?_]
  · simp only [noComment, noBreak, Bool.false_eq_true, if_false]
  · simp only [Bool.or_eq_true, Bool.and_eq_true, beq_iff_eq] at found
    rcases found with rfl | ⟨_, rfl⟩ <;> rfl

/-- What stands between two tokens is skipped. The place behind it is told by
the spacing alone. -/
theorem skipToToken_spacing {spacing : Spacing} {rest : List Char} {mark : Mark} {s : Scanner}
    (starts : startsToken rest = true) (here : s.cursor = ⟨spacing.text ++ rest, mark⟩) (outside : s.inFlow = false) :
    s.skipToToken (s.cursor.rest.length + 1) =
      { s with cursor := ⟨rest, spacing.mark mark⟩, keyAllowed := spacing.allows s.keyAllowed } := by
  cases spacing with
  | nothing => exact @skipToToken_spaces _ 0 rest mark s starts here
  | space => exact @skipToToken_spaces _ 1 rest mark s starts here
  | line indent =>
    let below : Scanner := { s with
      cursor := ⟨List.replicate indent ' ' ++ rest, mark.below '\n'⟩
      keyAllowed := s.keyAllowed || !s.inFlow }
    have step (fuel : Nat) : s.skipToToken (fuel + 1) = below.skipToToken fuel := by
      have noMark : s.cursor.isAt byteOrderMark = false := by rw [here]; rfl
      have stays (p : Char → Bool) (space : p ' ' = true) (other : p '\n' = false) :
          s.cursor.skipWhile p = s.cursor := by
        rw [here]
        exact @skipWhile_spaces p 0 _ mark space (by simp [other])
      have noComment : s.cursor.isAt '#' = false := by rw [here]; rfl
      have atBreak : s.cursor.atBreak = true := by rw [here]; rfl
      have breakLine : s.cursor.breakLine = below.cursor := by rw [here]; rfl
      rw [skipToToken]
      simp only [noMark, Bool.false_eq_true, and_false, if_false]
      rw [stays _ rfl (by simp)]
      simp only [noComment, Bool.false_eq_true, if_false, atBreak, if_true, breakLine]
      rfl
    have length : s.cursor.rest.length = (List.replicate indent ' ' ++ rest).length + 1 := by
      rw [here]
      rfl
    rw [step, length, @skipToToken_spaces _ indent rest _ below starts rfl]
    simp only [below, outside, Bool.not_false, Bool.or_true]
    rfl

/-- How the column of the next token stands to the blocks around it: it closes
some of them. Those that are left reach to it or are further out. -/
structure Nested (column : Nat) (indents closed left : List Nat) : Prop where
  parts : indents = closed ++ left
  inner : ∀ indent ∈ closed, column < indent
  outer : ∀ indent, left.head? = some indent → indent ≤ column

theorem nested_inner {column : Nat} {indents : List Nat} (outer : ∀ indent, indents.head? = some indent → indent ≤ column) :
    Nested column indents [] indents := ⟨rfl, List.forall_mem_nil _, outer⟩

theorem nested_cons {column indent : Nat} {indents : List Nat} (outer : indent ≤ column) :
    Nested column (indent :: indents) [] (indent :: indents) :=
  nested_inner fun _ head => Option.some.inj head ▸ outer

/-- The ends of blocks. None of them has a text of its own, so all are at the
place where the next token is. -/
def closers (closed : List Nat) (mark : Mark) : List Token := closed.map fun _ => ⟨.blockEnd, mark, mark⟩

/-- The blocks that are further in than the column are closed, each with a
token of its own. The innermost block comes first. -/
theorem closeBlocks_nested {s : Scanner} {column : Nat} {closed left : List Nat}
    (nested : Nested column s.indents closed left) (outside : s.inFlow = false) :
    s.closeBlocks (some column) = { s with indents := left, tokens := closers closed s.mark ++ s.tokens } := by
  have found : (s.indents.takeWhile fun indent => decide (column < indent)) = closed := by
    rw [nested.parts, List.takeWhile_append_of_pos fun indent member => decide_eq_true (nested.inner indent member)]
    cases outer : left with
    | nil => rw [List.takeWhile_nil, List.append_nil]
    | cons indent others =>
      have notInner : ¬ column < indent := Nat.not_lt.mpr (nested.outer indent (by rw [outer]; rfl))
      simp [notInner]
  rw [closeBlocks, outside, if_neg Bool.false_ne_true]
  simp only [Option.all_some, found]
  rw [nested.parts, List.drop_left]
  rfl

theorem closeBlocks_all {s : Scanner} (outside : s.inFlow = false) :
    s.closeBlocks none = { s with indents := [], tokens := closers s.indents s.mark ++ s.tokens } := by
  have found : (s.indents.takeWhile fun indent => (none : Option Nat).all (· < indent)) = s.indents :=
    List.takeWhile_eq_self_iff.mpr fun _ _ => rfl
  rw [closeBlocks, outside, if_neg Bool.false_ne_true]
  simp only [found, List.drop_length]
  rfl

theorem fetch?_spacing {spacing : Spacing} {rest : List Char} {mark : Mark} {s dropped next : Scanner}
    (starts : startsToken rest = true) (here : s.cursor = ⟨spacing.text ++ rest, mark⟩) (outside : s.inFlow = false)
    (drops : dropStaleKeys? { s with cursor := ⟨rest, spacing.mark mark⟩, keyAllowed := spacing.allows s.keyAllowed } =
      some dropped) (whole : dropped.cut = false ∧ next.cut = false)
    (fetched : (dropped.closeBlocks (some dropped.mark.column)).fetchFrom? = some next) : s.fetch? = some next := by
  rw [fetch?, skipToToken_spacing starts here outside, drops]
  simp only [bind, Option.bind, has, whole, Bool.not_false, Bool.true_or, if_true, fetched]
  rfl

end Scanner

end CallCapture.Yaml
