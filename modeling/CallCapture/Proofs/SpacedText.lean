import CallCapture.Text.Blank
import CallCapture.Yaml.Render
import Mathlib.Data.List.DropRight
import Mathlib.Data.List.TakeWhile

namespace CallCapture.Yaml

/-- Words with gaps of separators between them. Which characters are
separators depends on the reader: all gaps, breaks, or spaces only. -/
inductive Worded (isSeparator : Char → Bool) : List Char → Prop
  | word {word : List Char} (wordy : word ≠ []) (solid : ∀ c ∈ word, isSeparator c = false) :
      Worded isSeparator word
  | more {word gap rest : List Char} (wordy : word ≠ []) (solid : ∀ c ∈ word, isSeparator c = false)
      (wide : gap ≠ []) (separates : ∀ c ∈ gap, isSeparator c = true) (later : Worded isSeparator rest) :
      Worded isSeparator (word ++ (gap ++ rest))

theorem Worded.ne_nil {isSeparator : Char → Bool} {text : List Char} (worded : Worded isSeparator text) :
    text ≠ [] := by
  cases worded with
  | word wordy _ => exact wordy
  | more wordy _ _ _ _ => exact List.append_ne_nil_of_left_ne_nil wordy _

theorem Worded.head {isSeparator : Char → Bool} {text : List Char} (worded : Worded isSeparator text) :
    ∃ c rest, text = c :: rest ∧ isSeparator c = false := by
  cases worded with
  | @word word wordy solid =>
    obtain ⟨c, rest, rfl⟩ := List.exists_cons_of_ne_nil wordy
    exact ⟨c, rest, rfl, solid c List.mem_cons_self⟩
  | @more word gap rest wordy solid _ _ _ =>
    obtain ⟨c, first, rfl⟩ := List.exists_cons_of_ne_nil wordy
    exact ⟨c, first ++ (gap ++ rest), rfl, solid c List.mem_cons_self⟩

theorem dropWhile_head {p : Char → Bool} {text : List Char} {c : Char} (head : (text.dropWhile p).head? = some c) :
    p c = false := by
  have found := List.head?_dropWhile_not p text
  rw [head] at found
  simpa using found

/-- A text that neither starts nor ends with a separator is words with
gaps between them. By induction on its length, since a word and a gap are
taken off at a time. -/
theorem worded_of_ends {isSeparator : Char → Bool} {text : List Char} (wordy : text ≠ [])
    (first : ∀ c, text.head? = some c → isSeparator c = false)
    (last : ∀ c, text.getLast? = some c → isSeparator c = false) : Worded isSeparator text := by
  induction length : text.length using Nat.strong_induction_on generalizing text with
  | _ n ih =>
    let word := text.takeWhile (!isSeparator ·)
    let others := text.dropWhile (!isSeparator ·)
    have parts : word ++ others = text := List.takeWhile_append_dropWhile
    have solid : ∀ c ∈ word, isSeparator c = false := fun c member => by simpa using List.mem_takeWhile_imp member
    have some : word ≠ [] := by
      obtain ⟨c, rest, rfl⟩ := List.exists_cons_of_ne_nil wordy
      simp [word, first c rfl]
    by_cases whole : others = []
    · rw [← parts, whole, List.append_nil]
      exact .word some solid
    · let gap := others.takeWhile isSeparator
      let rest := others.dropWhile isSeparator
      have split : gap ++ rest = others := List.takeWhile_append_dropWhile
      have lastOthers : others.getLast? = text.getLast? := by
        rw [← parts, List.getLast?_append_of_ne_nil _ whole]
      have left : rest ≠ [] := by
        intro nothing
        rw [nothing, List.append_nil] at split
        obtain ⟨c, final⟩ := List.getLast?_isSome.mpr whole |> Option.isSome_iff_exists.mp
        have separator := List.mem_takeWhile_imp (split ▸ List.mem_of_getLast? final)
        rw [last c (lastOthers ▸ final)] at separator
        cases separator
      have wide : gap ≠ [] := by
        obtain ⟨c, behind, same⟩ := List.exists_cons_of_ne_nil whole
        have separator : isSeparator c = true := by
          simpa using dropWhile_head (show others.head? = Option.some c by rw [same]; rfl)
        simp [gap, same, separator]
      have shorter : rest.length < n := by
        have sum := congrArg List.length parts
        rw [← split, List.length_append, List.length_append] at sum
        have := List.length_pos_iff.mpr some
        omega
      rw [← parts, ← split]
      refine .more some solid wide (fun c member => List.mem_takeWhile_imp member)
        (ih rest.length shorter left (fun c head => dropWhile_head head) (fun c final => last c ?_) rfl)
      rw [← lastOthers, ← split, List.getLast?_append_of_ne_nil _ left, final]

/-- A text that trimming leaves as it is neither begins nor ends with a blank.
The empty text has no ends. -/
theorem ends_of_trimmed {text : List Char} (trimmed : IsTrimmed text) :
    (∀ c, text.head? = some c → isBlank c = false) ∧ ∀ c, text.getLast? = some c → isBlank c = false := by
  have whole : (text.dropWhile isBlank).rdropWhile isBlank = text := trimmed
  have front : text.dropWhile isBlank = text := by
    have suffix := List.dropWhile_suffix isBlank (l := text)
    refine suffix.eq_of_length_le ?_
    have shorter := (List.rdropWhile_prefix isBlank (text.dropWhile isBlank)).length_le
    rw [whole] at shorter
    exact shorter
  rw [front] at whole
  refine ⟨fun c head => ?_, fun c final => ?_⟩
  · rw [← front] at head
    exact dropWhile_head head
  · have wordy : text ≠ [] := fun nothing => by simp [nothing] at final
    have same : text.getLast wordy = c := Option.some.inj ((List.getLast?_eq_getLast_of_ne_nil wordy).symm.trans final)
    simpa [same] using List.rdropWhile_eq_self_iff.mp whole wordy

theorem isBlank_of_isGap {c : Char} (gap : isGap c = true) : isBlank c = true := by
  simp only [isGap, isSpaceOrTab, isBreak, Bool.or_eq_true, beq_iff_eq] at gap
  rcases gap with (rfl | rfl) | ((((rfl | rfl) | rfl) | rfl) | rfl) <;> decide

/-- A name that is not empty and has no blanks at its ends is words, whatever
gaps are separators. This is why names are asked to be trimmed. -/
theorem worded_of_trimmed {isSeparator : Char → Bool} {text : List Char} (wordy : text ≠ []) (trimmed : IsTrimmed text)
    (blank : ∀ c, isSeparator c = true → isGap c = true) : Worded isSeparator text := by
  obtain ⟨first, last⟩ := ends_of_trimmed trimmed
  have solid (c : Char) (notBlank : isBlank c = false) : isSeparator c = false := by
    by_contra separator
    have found := isBlank_of_isGap (blank c (Bool.not_eq_false _ ▸ separator))
    rw [notBlank] at found
    cases found
  exact worded_of_ends wordy (fun c head => solid c (first c head)) fun c final => solid c (last c final)

/-- The place behind a text that stands on one line. Bytes and characters are
counted apart, since a possible key is limited in bytes. -/
def Mark.after (mark : Mark) (text : List Char) : Mark where
  index := mark.index + byteLength text
  line := mark.line
  column := mark.column + text.length

/-- The start of the line behind a break. It is counted by bytes, by lines and
from the first column again. -/
def Mark.below (mark : Mark) (c : Char) : Mark := ⟨mark.index + c.utf8Size, mark.line + 1, 0⟩

theorem Mark.after_append (mark : Mark) (text other : List Char) :
    mark.after (text ++ other) = (mark.after text).after other := by
  simp only [Mark.after, byteLength_append, List.length_append, Nat.add_assoc]

namespace Cursor

theorem advance_append (text rest : List Char) (mark : Mark) :
    (⟨text ++ rest, mark⟩ : Cursor).advance text.length = ⟨rest, mark.after text⟩ := by
  simp only [advance, List.drop_left, List.take_left, Mark.after]

theorem advance_one (c : Char) (rest : List Char) (mark : Mark) :
    (⟨c :: rest, mark⟩ : Cursor).advance 1 = ⟨rest, mark.after [c]⟩ := advance_append [c] rest mark

end Cursor

end CallCapture.Yaml
