import CallCapture.Proofs.BlockReading
import CallCapture.Proofs.QuotedReading
import CallCapture.Proofs.TokenSteps

namespace CallCapture.Yaml

namespace Scanner

/-- What stands at the cursor may be a key from now on, if a key is
allowed here. It has to be one if it stands at the very column of
the innermost block. -/
def saved (s : Scanner) : Scanner :=
  if s.keyAllowed then { s with keys := [some ⟨s.count, s.indents.head? == some s.mark.column, s.mark⟩] } else s

theorem saveKey?_eq {s : Scanner} (none : s.keys = [none]) : s.saveKey? = some s.saved := by
  obtain ⟨cursor, cut, indents, keys, keyAllowed, released, tokens⟩ := s
  obtain rfl : keys = [Option.none] := none
  cases keyAllowed <;> rfl

theorem saved_cursor (s : Scanner) : s.saved.cursor = s.cursor := by
  unfold saved
  split <;> rfl

theorem saved_margin (s : Scanner) : s.saved.margin = s.margin := by
  unfold saved
  split <;> rfl

theorem saved_inFlow {s : Scanner} (none : s.keys = [none]) : s.saved.inFlow = false := by
  unfold saved inFlow
  split
  · rfl
  · rw [none]
    rfl

/-- A scalar is read at the cursor, and `cursor` is behind it. The token is
the newest one, and a possible key is remembered in front of it. -/
def Scans (s : Scanner) (content : String) (style : Style) (cursor : Cursor) (endsLine : Bool) : Prop :=
  s.fetchFrom? = some ({ s.saved with cursor := cursor, keyAllowed := endsLine }.push (.scalar content style) s.mark
    cursor.mark)

theorem atDocumentMarker_of_head {c d : Char} (other : d ≠ c) (rest : List Char) (mark : Mark) :
    (⟨d :: rest, mark⟩ : Cursor).atDocumentMarker c = false := by
  simp [Cursor.atDocumentMarker, List.isPrefixOf, other.symm]

/-- What is no indicator of something else starts a plain scalar. Three of the
indicators start one if no gap is behind them. -/
theorem startsPlain_of_lone {s : Scanner} {c : Char} {rest : List Char} (outside : s.inFlow = false)
    (solid : isGap c = false) (leading : Name.isLeadingIndicator c = false)
    (lone : c = '?' ∨ c = ':' ∨ c = '-' → gapFollows rest = false) : s.startsPlain c rest = true := by
  unfold startsPlain
  by_cases usual : c = '?' ∨ c = ':' ∨ c = '-'
  · have next := lone usual
    have noBlank : rest.head?.any isSpaceOrTab = false := by
      cases rest with
      | nil => rfl
      | cons d rest => exact (Bool.or_eq_false_iff.mp next).1
    rcases usual with rfl | rfl | rfl <;> simp [next, noBlank, outside]
  · have notIndicator : isIndicator c = false := by
      simp only [isIndicator, Name.isLeadingIndicator, List.contains_eq_mem, List.mem_cons, List.not_mem_nil, or_false,
        decide_eq_false_iff_not, not_or] at leading usual ⊢
      tauto
    rw [solid, notIndicator]
    rfl

/-- Outside of brackets a character that is no gap and no indicator starts a
plain scalar. All the indicators are gone through once, here. -/
theorem fetchFrom?_plain {s : Scanner} {c : Char} {rest : List Char} {mark : Mark} (here : s.cursor = ⟨c :: rest, mark⟩)
    (outside : s.inFlow = false) (bound : s.cursor.atDocumentBound = false) (solid : isGap c = false)
    (leading : Name.isLeadingIndicator c = false) (lone : c = '?' ∨ c = ':' ∨ c = '-' → gapFollows rest = false) :
    s.fetchFrom? = s.fetchPlainScalar? := by
  obtain ⟨noStart, noEnd⟩ := Bool.or_eq_false_iff.mp bound
  have plain : s.startsPlain c rest = true := startsPlain_of_lone outside solid leading lone
  simp only [Name.isLeadingIndicator, List.contains_eq_mem, List.mem_cons, List.not_mem_nil, or_false,
    decide_eq_false_iff_not, not_or] at leading
  obtain ⟨_, comma, list, list', map, map', anchor, repeats, tag, literal, folded, single, double, percent, _⟩ := leading
  have noGap (d : Char) (same : d = '?' ∨ d = ':' ∨ d = '-') : ¬ (c = d ∧ gapFollows rest = true) := by
    rintro ⟨rfl, gap⟩
    rw [lone same] at gap
    cases gap
  have noSign (d : Char) (same : d = '?' ∨ d = ':' ∨ d = '-') :
      ¬ (c = d ∧ (s.inFlow = true ∨ gapFollows rest = true)) := by
    rintro ⟨sign, flow | gap⟩
    · rw [outside] at flow
      cases flow
    · exact noGap d same ⟨sign, gap⟩
  rw [here] at noStart noEnd
  rw [fetchFrom?, here]
  dsimp only
  rw [if_neg fun both => percent both.2, noStart, if_neg Bool.false_ne_true, noEnd, if_neg Bool.false_ne_true,
    if_neg list, if_neg map, if_neg list', if_neg map', if_neg comma, if_neg (noGap '-' (by simp)),
    if_neg (noSign '?' (by simp)), if_neg (noSign ':' (by simp)), if_neg repeats, if_neg anchor, if_neg tag,
    if_neg fun both => literal both.1, if_neg fun both => folded both.1, if_neg single, if_neg double, if_pos plain]

end Scanner

namespace Name

/-- A name without indicators neither begins with one nor has one behind
its first character. -/
theorem indicators {c : Char} {rest : List Char} (clean : hasIndicator (c :: rest) = false) :
    isLeadingIndicator c = false ∧ (c = '?' ∨ c = ':' ∨ c = '-' → endsWord rest = false) ∧
      hasInnerIndicator (isGap c || c == '\x00') rest = false := by
  rw [hasIndicator, Bool.or_eq_false_iff, Bool.or_eq_false_iff, Bool.or_eq_false_iff] at clean
  obtain ⟨⟨⟨_, leading⟩, lone⟩, later⟩ := clean
  refine ⟨leading, fun same => ?_, later⟩
  rcases same with rfl | rfl | rfl <;> simpa using lone

/-- A text that can stand plain: words with spaces between them,
and no indicator. This is shown once for a name and used wherever
the name may stand. -/
structure StandsPlain (text : List Char) : Prop where
  worded : Worded (· == ' ') text
  gaps : ∀ c ∈ text, isGap c = true → (c == ' ') = true
  clean : hasIndicator text = false

namespace StandsPlain

variable {text : List Char}

theorem inner (plain : StandsPlain text) : hasInnerIndicator true text = false := by
  obtain ⟨c, rest, rfl, _⟩ := plain.worded.head
  obtain ⟨leading, lone, later⟩ := indicators plain.clean
  have hash : (c == '#') = false := by
    by_contra same
    obtain rfl : c = '#' := by simpa using same
    cases leading
  have colon : (c == ':' && endsWord rest) = false := by
    rw [Bool.and_eq_false_iff, or_iff_not_imp_left, Bool.not_eq_false]
    exact fun same => lone (Or.inr (Or.inl (eq_of_beq same)))
  rw [hasInnerIndicator, colon, hash, later]
  rfl

end StandsPlain

end Name

namespace Scanner

/-- A plain scalar is read word for word, and what stands behind it
decides how it ends. Up to there, the two ways in which a plain scalar
can end are the same. -/
theorem fetchFrom?_worded {s : Scanner} {text tail : List Char} {mark : Mark} (plain : Name.StandsPlain text)
    (here : s.cursor = ⟨text ++ tail, mark⟩) (none : s.keys = [none]) (stops : Plain.Stops tail)
    (inside : s.margin ≤ mark.column + 1) (bound : s.cursor.atDocumentBound = false) :
    ∃ left, s.fetchFrom? = (Plain.readBehind s.margin left text ⟨tail, mark.after text⟩).map fun found =>
      { s.saved with cursor := found.cursor, keyAllowed := found.endsLine }.push
        (.scalar (String.ofList found.text) .plain) s.mark found.cursor.mark := by
  have outside : s.inFlow = false := by rw [inFlow, none]; rfl
  obtain ⟨c, rest, rfl, space⟩ := plain.worded.head
  obtain ⟨leading, lone, _⟩ := Name.indicators plain.clean
  have solid : isGap c = false := not_gap (· == ' ') (plain.gaps c List.mem_cons_self) space
  have loneHere : c = '?' ∨ c = ':' ∨ c = '-' → gapFollows (rest ++ tail) = false := by
    intro same
    have ends := lone same
    cases rest with
    | nil => cases ends
    | cons d rest => exact (Bool.or_eq_false_iff.mp ends).1
  have enough : (c :: rest).length ≤ s.cursor.rest.length + 1 := by
    rw [here, List.length_append]
    omega
  rw [here] at bound enough
  obtain ⟨left, read⟩ := @Plain.read?_worded _ _ [] {} _ _ _ plain.worded plain.gaps plain.inner stops inside bound enough
  refine ⟨left, ?_⟩
  rw [fetchFrom?_plain here outside (here ▸ bound) solid leading loneHere, fetchPlainScalar?, saveKey?_eq none]
  simp only [bind, Option.bind, saved_inFlow none, saved_margin, saved_cursor]
  rw [here]
  dsimp only at read ⊢
  rw [read, show s.saved.mark = s.mark from congrArg Cursor.mark (saved_cursor s)]
  rw [show [] ++ ({} : Gap).folded ++ c :: rest = c :: rest from rfl]
  cases Plain.readBehind s.margin left (c :: rest) ⟨tail, mark.after (c :: rest)⟩ <;> rfl

theorem scans_plain_colon {s : Scanner} {text tail : List Char} {mark : Mark} (plain : Name.StandsPlain text)
    (here : s.cursor = ⟨text ++ ':' :: tail, mark⟩) (none : s.keys = [none]) (gap : gapFollows tail = true)
    (inside : s.margin ≤ mark.column + 1) (bound : s.cursor.atDocumentBound = false) :
    s.Scans (String.ofList text) .plain ⟨':' :: tail, mark.after text⟩ false := by
  obtain ⟨left, fetched⟩ := fetchFrom?_worded plain here none (Or.inr ⟨tail, rfl, gap⟩) inside bound
  rw [Scans, fetched, Plain.readBehind_colon]
  rfl

theorem scans_plain_line {s : Scanner} {text rest : List Char} {mark : Mark} {count : Nat} (plain : Name.StandsPlain text)
    (here : s.cursor = ⟨text ++ '\n' :: (List.replicate count ' ' ++ rest), mark⟩) (none : s.keys = [none])
    (outside : count < s.margin) (solid : isSolid rest = true) (inside : s.margin ≤ mark.column + 1)
    (bound : s.cursor.atDocumentBound = false) :
    ∃ reached : Mark, reached.column = count ∧ mark.line < reached.line ∧
      s.Scans (String.ofList text) .plain ⟨rest, reached⟩ true := by
  obtain ⟨left, fetched⟩ := fetchFrom?_worded plain here none (Or.inl rfl) inside bound
  obtain ⟨reached, column, below, ends⟩ :=
    @Plain.readBehind_line s.margin left text rest (mark.after text) count outside solid
  refine ⟨reached, column, below, ?_⟩
  rw [Scans, fetched, ends]
  rfl

theorem fetchFrom?_indicator {s : Scanner} {c : Char} {rest : List Char} {mark : Mark}
    (here : s.cursor = ⟨c :: rest, mark⟩) (percent : c ≠ '%') (hyphen : c ≠ '-') (dot : c ≠ '.') :
    s.fetchFrom? =
      if c = '[' then s.fetchFlowStart? .flowSequenceStart
      else if c = '\x7b' then s.fetchFlowStart? .flowMappingStart
      else if c = ']' then s.fetchFlowEnd? .flowSequenceEnd
      else if c = '\x7d' then s.fetchFlowEnd? .flowMappingEnd
      else if c = ',' then s.fetchFlowEntry?
      else if c = '?' ∧ (s.inFlow ∨ gapFollows rest) then s.fetchKey?
      else if c = ':' ∧ (s.inFlow ∨ gapFollows rest) then s.fetchValue?
      else if c = '*' then s.fetchName? .alias
      else if c = '&' then s.fetchName? .anchor
      else if c = '!' then s.fetchTag?
      else if c = '|' ∧ !s.inFlow then s.fetchBlockScalar? true
      else if c = '>' ∧ !s.inFlow then s.fetchBlockScalar? false
      else if c = '\'' then s.fetchQuotedScalar? true
      else if c = '"' then s.fetchQuotedScalar? false
      else if s.startsPlain c rest then s.fetchPlainScalar?
      else none := by
  rw [fetchFrom?, here]
  dsimp only
  rw [if_neg fun both => percent both.2, atDocumentMarker_of_head hyphen, if_neg Bool.false_ne_true,
    atDocumentMarker_of_head dot, if_neg Bool.false_ne_true, if_neg fun both : c = '-' ∧ _ => hyphen both.1]

theorem fetchFrom?_quote {s : Scanner} {single : Bool} {body : List Char} {mark : Mark}
    (here : s.cursor = ⟨Quoted.quote single :: body, mark⟩) : s.fetchFrom? = s.fetchQuotedScalar? single := by
  cases single <;> exact fetchFrom?_indicator here (by decide) (by decide) (by decide)

theorem scans_quoted {s : Scanner} {single : Bool} {text body tail : List Char} {mark reached : Mark}
    (here : s.cursor = ⟨Quoted.quote single :: body, mark⟩) (none : s.keys = [none])
    (read : Quoted.read? single ((Quoted.quote single :: body).length + 1) [] ⟨body, mark.after [Quoted.quote single]⟩ =
      some (text, ⟨tail, reached⟩)) :
    s.Scans (String.ofList text) (if single then .single else .double) ⟨tail, reached⟩ false := by
  rw [Scans, fetchFrom?_quote here, fetchQuotedScalar?, saveKey?_eq none]
  simp only [bind, Option.bind, saved_cursor]
  rw [here, Cursor.advance_one, read, show s.saved.mark = s.mark from congrArg Cursor.mark (saved_cursor s)]
  rfl

theorem fetchFrom?_literal {s : Scanner} {text tail : List Char} {mark reached : Mark} {body : List Char}
    (here : s.cursor = ⟨'|' :: body, mark⟩) (none : s.keys = [none])
    (read : Block.read? true s.indents.head? ⟨body, mark.after ['|']⟩ = some ⟨text, true, ⟨tail, reached⟩⟩) :
    s.fetchFrom? = some ({ s with cursor := ⟨tail, reached⟩, keyAllowed := true }.push
      (.scalar (String.ofList text) .literal) s.mark reached) := by
  have outside : s.inFlow = false := by rw [inFlow, none]; rfl
  have kept : s.dropKey? = some s := by rw [dropKey?, none]
  have indicator := fetchFrom?_indicator here (by decide) (by decide) (by decide)
  change _ = if '|' = '|' ∧ (!s.inFlow) = true then s.fetchBlockScalar? true else _ at indicator
  rw [indicator, if_pos ⟨rfl, by rw [outside]; rfl⟩, fetchBlockScalar?, kept]
  simp only [bind, Option.bind]
  rw [here, Cursor.advance_one, read]
  rfl

end Scanner

end CallCapture.Yaml
