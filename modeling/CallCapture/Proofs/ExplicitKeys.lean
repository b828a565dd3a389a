import CallCapture.Proofs.BlockTokens

namespace CallCapture.Yaml

open Token (Kind)
open Scanner (Nested closers)

/-- A question mark announces a key. It opens the mapping if it is the first
one at its column. -/
theorem leads_question {spacing : Spacing} {tail : List Char} {column : Nat} {indents closed left : List Nat}
    {allowed : Bool} (gap : gapFollows tail = true) (nested : Nested (spacing.column column) indents closed left)
    (allows : spacing.allows allowed = true) :
    Leads ⟨spacing.text ++ '?' :: tail, column, indents, allowed⟩
      (closed.map (fun _ => .blockEnd) ++ (opening (spacing.column column) left ++ [.key]))
      ⟨tail, spacing.column column + 1, opened (spacing.column column) left, true⟩ := by
  refine leads_of_fetch (by rfl) nested (fun mark released here => ?_) ?_ (by simp)
  · rw [allows, ← here]
    let start : Scanner := ⟨⟨'?' :: tail, mark⟩, false, left, [none], true, released, closers closed mark⟩
    have indicator := @Scanner.fetchFrom?_indicator start '?' tail mark rfl (by decide) (by decide) (by decide)
    change _ = if '?' = '?' ∧ (start.inFlow = true ∨ gapFollows tail = true) then start.fetchKey? else _ at indicator
    have opens := @openBlock_mapping start mark.column start.count mark rfl fun indent head =>
      (nested.outer indent head).trans_eq here.symm
    rw [Nat.sub_self, List.take_zero, List.drop_zero, List.nil_append] at opens
    refine ⟨mark.after ['?'], ⟨.key, mark, mark.after ['?']⟩ :: (opening mark.column left).map (⟨·, mark, mark⟩), ?_, rfl, ?_⟩
    · change start.fetchFrom? = _
      rw [indicator, if_pos ⟨rfl, Or.inr gap⟩, Scanner.fetchKey?]
      change (some (start.openBlock mark.column start.count .blockMappingStart mark) >>= _) >>= _ = _
      rw [opens]
      simp [start, Scanner.dropKey?, Scanner.take, Scanner.push, Scanner.mark, Scanner.inFlow, Cursor.advance_one]
    · rw [List.reverse_cons, List.map_append, List.map_reverse, List.map_map]
      rw [show (Token.kind ∘ fun kind => (⟨kind, mark, mark⟩ : Token)) = id from rfl, List.map_id, opening_reverse]
      rfl
  · intro member
    rcases List.mem_append.mp member with member | member
    · cases opening_inner member
    · cases List.mem_singleton.mp member

theorem fetchFrom?_alone {tail : List Char} {mark : Mark} {indents : List Nat} {released : Nat} {tokens : List Token}
    (gap : gapFollows tail = true) (aligned : indents.head? = some mark.column) :
    Scanner.fetchFrom? ⟨⟨':' :: tail, mark⟩, false, indents, [none], true, released, tokens⟩ =
      some ⟨⟨tail, mark.after [':']⟩, false, indents, [none], true, released,
        ⟨.value, mark, mark.after [':']⟩ :: tokens⟩ := by
  let start : Scanner := ⟨⟨':' :: tail, mark⟩, false, indents, [none], true, released, tokens⟩
  have stays : start.openBlock mark.column start.count .blockMappingStart mark = start := by
    have opens := @openBlock_mapping start mark.column start.count mark rfl fun indent head =>
      (Option.some.inj (aligned.symm.trans head)).ge
    rw [opens, Nat.sub_self, opening, opened, if_pos aligned, if_pos aligned]
    rfl
  rw [fetchFrom?_colon rfl gap]
  change (some (start.openBlock mark.column start.count .blockMappingStart mark) >>= _) = _
  rw [stays]
  simp only [bind, Option.bind, Scanner.take, start, Cursor.advance_one]
  rfl

/-- Such a colon is in front of a value whose key was announced on an earlier
line. Nothing has to be announced in front of it, as the key was announced by
its question mark. -/
theorem leads_colon {spacing : Spacing} {tail : List Char} {column : Nat} {indents : List Nat} {allowed : Bool}
    (gap : gapFollows tail = true) (aligned : indents.head? = some (spacing.column column))
    (allows : spacing.allows allowed = true) :
    Leads ⟨spacing.text ++ ':' :: tail, column, indents, allowed⟩ [.value]
      ⟨tail, spacing.column column + 1, indents, true⟩ := by
  have nested : Nested (spacing.column column) indents [] indents :=
    Scanner.nested_inner fun indent head => (Option.some.inj (aligned.symm.trans head)).ge
  refine leads_of_fetch (by rfl) nested (fun mark released here => ?_) (by simp) (by simp)
  rw [allows, ← here]
  refine ⟨mark.after [':'], [⟨.value, mark, mark.after [':']⟩], ?_, rfl, rfl⟩
  exact fetchFrom?_alone gap (here ▸ aligned)

section Scalars

variable {text tail : List Char} {indents : List Nat}

/-- A plain key on a line of its own, behind its question mark. It is a
possible key first, and the line break behind it shows that it is none. -/
theorem leads_plainAlone (plain : Name.StandsPlain text) (starts : ∀ rest, startsToken (text ++ rest) = true) :
    Leads ⟨' ' :: (text ++ Block.behind tail), 3, 2 :: indents, true⟩ [.scalar (String.ofList text) .plain]
      ⟨':' :: tail, 2, 2 :: indents, true⟩ := by
  intro index line released
  let mark : Mark := Spacing.space.mark ⟨index, line, 3⟩
  let key : PossibleKey := ⟨released, false, mark⟩
  obtain ⟨reached, column, below, scans⟩ := @Scanner.scans_plain_line
    ⟨⟨text ++ Block.behind tail, mark⟩, false, 2 :: indents, [none], true, released, []⟩ text (':' :: tail) mark 2 plain rfl
    rfl (Nat.lt_succ_self 2) rfl (by decide : 3 ≤ 5) (Cursor.atDocumentBound_of_column (by decide : 4 ≠ 0))
  let scalar : Token := ⟨.scalar (String.ofList text) .plain, mark, reached⟩
  let next : Scanner := ⟨⟨':' :: tail, reached⟩, false, 2 :: indents, [some key], true, released, [scalar]⟩
  have fetched := @fetch?_resting .space _ ⟨index, line, 3⟩ (2 :: indents) [] (2 :: indents) true released next (starts _)
    (Scanner.nested_cons (by decide : 2 ≤ 4)) scans rfl
  have late : Scanner.isStale key next.mark = true := Scanner.isStale_below below
  have rest := @Scanner.yields_all (':' :: tail) reached (2 :: indents) true released [scalar] (by simp [scalar])
  have yields : next.Yields [scalar] _ := Scanner.Yields.of_late rfl late rfl (by simp [next]) rest (by simp)
  rw [column] at yields
  refine ⟨[scalar], _, _, _, rfl, Scanner.Yields.fetch (Scanner.waits_of_empty rfl) fetched ?_ yields (by simp)⟩
  change tail.length + 1 < (' ' :: (text ++ Block.behind tail)).length
  simp only [Block.behind, List.length_append, List.length_cons, List.length_replicate]
  omega

theorem leads_literalAlone (worded : Worded isBreak text)
    (kept : ∀ c ∈ text, isBreak c = true → c = '\n' ∨ c = lineSeparator ∨ c = paragraphSeparator)
    (tabless : '\t' ∉ text) (solid : text.head? ≠ some ' ') :
    Leads ⟨' ' :: '|' :: '-' :: '\n' :: (Name.block 4 true text ++ Block.behind tail), 3, 2 :: indents, true⟩
      [.scalar (String.ofList text) .literal] ⟨':' :: tail, 2, 2 :: indents, true⟩ := by
  have nested : Nested (Spacing.space.column 3) (2 :: indents) [] (2 :: indents) :=
    Scanner.nested_cons (by decide : 2 ≤ 4)
  refine @leads_of_fetch .space _ 3 _ [] _ true _ _ (by rfl) nested (fun mark released here => ?_) (by simp) (by simp)
  obtain ⟨reached, column, read⟩ := @Block.read?_worded (mark.after ['|']) text tail worded kept tabless solid
  let start : Scanner := ⟨⟨'|' :: '-' :: '\n' :: (Name.block 4 true text ++ Block.behind tail), mark⟩, false, 2 :: indents,
    [none], true, released, []⟩
  exact ⟨reached, [⟨.scalar (String.ofList text) .literal, mark, reached⟩],
    @Scanner.fetchFrom?_literal start text (':' :: tail) mark reached _ rfl rfl read, column, rfl⟩

/-- A scalar that might have been a key, with a colon at the start of a later
line: it is none. It is given up when the line has ended, and the colon then
belongs to the question mark. -/
theorem yields_colonBelow {key : PossibleKey} {scalar : Token} {reached : Mark} {released : Nat}
    (gap : gapFollows tail = true) (number : key.number = released) (optional : key.required = false)
    (below : key.mark.line ≤ reached.line) (inner : scalar.kind ≠ .streamEnd) :
    ∃ (colon : Token) (index line released' : Nat), colon.kind = .value ∧
      Scanner.Yields ⟨⟨Block.behind tail, reached⟩, false, 2 :: indents, [some key], false, released, [scalar]⟩
        [scalar, colon] ((⟨tail, 3, 2 :: indents, true⟩ : Port).resting index line released') := by
  let next : Scanner := ⟨⟨Block.behind tail, reached⟩, false, 2 :: indents, [some key], false, released, [scalar]⟩
  by_cases late : Scanner.isStale key reached = true
  · -- The key has been given up before its colon is met.
    have first : next.Yields [scalar] _ := Scanner.Yields.of_late rfl late optional (List.cons_ne_nil _ _)
      (Scanner.yields_all (by simpa [next] using inner)) (List.cons_ne_nil _ _)
    obtain ⟨others, index, line, released', same, second⟩ :=
      @leads_colon (.line 2) tail reached.column (2 :: indents) false gap rfl rfl reached.index reached.line (released + 1)
    obtain ⟨colon, rfl⟩ : ∃ colon, others = [colon] := List.length_eq_one_iff.mp <| by
      simpa using congrArg List.length same
    exact ⟨colon, index, line, released', List.singleton_inj.mp same, first.trans second⟩
  · -- The key is given up on the line of the colon.
    let start : Mark := (Spacing.line 2).mark reached
    let colon : Token := ⟨.value, start, start.after [':']⟩
    let waiting : Scanner := ⟨⟨':' :: tail, start⟩, false, 2 :: indents, [some key], true, released, [scalar]⟩
    let freed : Scanner := { waiting with keys := [none] }
    let last : Scanner := ⟨⟨tail, start.after [':']⟩, false, 2 :: indents, [none], true, released, [colon, scalar]⟩
    have drops : waiting.dropStaleKeys? = some freed :=
      Scanner.dropStaleKeys?_late rfl (Scanner.isStale_below (Nat.lt_succ_of_le below)) optional
    have closes : freed.closeBlocks (some freed.mark.column) = freed :=
      @Scanner.closeBlocks_nested freed 2 [] (2 :: indents) (Scanner.nested_cons (Nat.le_refl 2)) rfl
    have fetched : next.fetch? = some last := by
      refine @Scanner.fetch?_spacing (.line 2) _ reached next freed last rfl rfl rfl drops ⟨rfl, rfl⟩ ?_
      rw [closes]
      exact fetchFrom?_alone gap rfl
    have fresh : next.Fresh := Scanner.fresh_key rfl (eq_false_of_ne_true late)
    have waits : next.Waits := @Scanner.waits_of_key next scalar key rfl fresh (List.mem_singleton.mpr rfl) number
    have rest := @Scanner.yields_all tail (start.after [':']) (2 :: indents) true released [colon, scalar]
      (by simpa [colon] using inner)
    refine ⟨colon, _, _, _, rfl, Scanner.Yields.fetch waits fetched ?_ rest (by simp)⟩
    simp [last, Block.behind]
    omega

/-- A key in quotes; its colon is on a later line. In quotes a key may be on
several lines, of which only the end matters here. -/
theorem leads_quotedAlone {single : Bool} {body : List Char} (gap : gapFollows tail = true)
    (read : ∀ mark : Mark, mark.column ≠ 0 → ∃ reached : Mark, mark.line ≤ reached.line ∧
      Quoted.read? single ((Quoted.quote single :: body).length + 1) [] ⟨body, mark⟩ =
        some (text, ⟨Block.behind tail, reached⟩)) (shorter : (Block.behind tail).length ≤ body.length) :
    Leads ⟨' ' :: Quoted.quote single :: body, 3, 2 :: indents, true⟩
      [.scalar (String.ofList text) (if single then .single else .double), .value] ⟨tail, 3, 2 :: indents, true⟩ := by
  intro index line released
  let mark : Mark := Spacing.space.mark ⟨index, line, 3⟩
  let key : PossibleKey := ⟨released, false, mark⟩
  obtain ⟨reached, below, read⟩ := read (mark.after [Quoted.quote single]) (by decide : 5 ≠ 0)
  let scalar : Token := ⟨.scalar (String.ofList text) (if single then .single else .double), mark, reached⟩
  let next : Scanner := ⟨⟨Block.behind tail, reached⟩, false, 2 :: indents, [some key], false, released, [scalar]⟩
  have scans := @Scanner.scans_quoted
    ⟨⟨Quoted.quote single :: body, mark⟩, false, 2 :: indents, [none], true, released, []⟩ single text body
    (Block.behind tail) mark reached rfl rfl read
  have fetched := @fetch?_resting .space _ ⟨index, line, 3⟩ (2 :: indents) [] (2 :: indents) true released next
    (by cases single <;> rfl) (Scanner.nested_cons (by decide : 2 ≤ 4)) scans rfl
  obtain ⟨colon, index', line', released', value, yields⟩ :=
    @yields_colonBelow tail indents key scalar reached released gap rfl rfl below Kind.noConfusion
  refine ⟨[scalar, colon], index', line', released', by rw [← value]; rfl, ?_⟩
  refine Scanner.Yields.fetch (Scanner.waits_of_empty rfl) fetched ?_ yields (List.cons_ne_nil _ _)
  change (Block.behind tail).length < body.length + 2
  omega

theorem leads_doubleAlone (gap : gapFollows tail = true) (worded : Worded (· == ' ') text)
    (gaps : ∀ c ∈ text, isGap c = true → (c == ' ') = true ∨ Quoted.isEscaped c = true ∧ false = false) :
    Leads ⟨' ' :: '"' :: (text.flatMap (Quoted.unit false) ++ '"' :: Block.behind tail), 3, 2 :: indents, true⟩
      [.scalar (String.ofList text) .double, .value] ⟨tail, 3, 2 :: indents, true⟩ := by
  have least := Quoted.length_le_flatMap (Quoted.unit_ne_nil false) text
  refine @leads_quotedAlone text tail indents false _ gap (fun mark inside => ?_) ?_
  · refine ⟨mark.after (text.flatMap (Quoted.unit false) ++ ['"']), Nat.le_refl _, ?_⟩
    refine Quoted.read?_worded worded gaps (by simp [Block.behind]) inside ?_
    simp only [List.length_cons, List.length_append]
    omega
  · simp only [List.length_cons, List.length_append]
    omega

theorem leads_singleAlone (gap : gapFollows tail = true) (worded : Worded isGap text)
    (kinds : ∀ c ∈ text, isGap c = true → c = ' ' ∨ c = lineSeparator ∨ c = paragraphSeparator)
    (spaceBreak : Name.hasSpaceBreak text = false) (breakSpace : Name.hasBreakSpace text = false) :
    Leads ⟨' ' :: '\'' :: (Name.single 4 false text ++ '\'' :: Block.behind tail), 3, 2 :: indents, true⟩
      [.scalar (String.ofList text) .single, .value] ⟨tail, 3, 2 :: indents, true⟩ := by
  have least := Name.length_le_single 4 false text
  refine @leads_quotedAlone text tail indents true _ gap (fun mark inside => ?_) ?_
  · refine Quoted.read?_lines worded kinds spaceBreak breakSpace (by simp [Block.behind]) inside ?_
    simp only [List.length_cons, List.length_append]
    omega
  · simp only [List.length_cons, List.length_append]
    omega

end Scalars

end CallCapture.Yaml
