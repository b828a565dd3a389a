import CallCapture.Proofs.ScalarTokens

namespace CallCapture.Yaml

open Token (Kind)
open Scanner (Nested closers)

/-- Where a scanner stands between two tokens: what is left of the document,
the column, the blocks around it, and whether a key may stand there. The
places in the document, and how many tokens were handed on, are no part of it:
what is read does not depend on them. -/
structure Port where
  rest : List Char
  column : Nat
  indents : List Nat
  keyAllowed : Bool

/-- A scanner with nothing in hand. All tokens that it found have been handed
on, and no key is open. -/
def Port.resting (port : Port) (index line released : Nat) : Scanner :=
  ⟨⟨port.rest, ⟨index, line, port.column⟩⟩, false, port.indents, [none], port.keyAllowed, released, []⟩

/-- Tokens of the given kinds lead from one place to another. Their own places
are left open, as the preferences do not depend on them. Documents are read by
putting such steps together, from the first token to the last. -/
def Leads (port : Port) (kinds : List Kind) (next : Port) : Prop :=
  ∀ index line released, ∃ (tokens : List Token) (index' line' released' : Nat), tokens.map Token.kind = kinds ∧
    (port.resting index line released).Yields tokens (next.resting index' line' released')

/-- Tokens from one place to a second and from there to a third lead from the
first to the third. The places that the first stretch leaves are those at
which the second one begins, whatever they are. -/
theorem Leads.trans {port middle next : Port} {kinds others : List Kind} (first : Leads port kinds middle)
    (second : Leads middle others next) : Leads port (kinds ++ others) next := by
  intro index line released
  obtain ⟨tokens, index', line', released', same, yields⟩ := first index line released
  obtain ⟨later, index'', line'', released'', same', yields'⟩ := second index' line' released'
  exact ⟨tokens ++ later, index'', line'', released'', by rw [List.map_append, same, same'], yields.trans yields'⟩

namespace Scanner

/-- While no key is possible, whatever is asked of possible keys holds.
Between a value and the next key no key is possible, so this is the state in
which most stretches begin. -/
theorem no_key {s : Scanner} {p : PossibleKey → Prop} (none : s.keys = [none]) : ∀ key, some key ∈ s.keys → p key := by
  intro key member
  rw [none] at member
  cases List.mem_singleton.mp member

theorem fresh_none {s : Scanner} (none : s.keys = [none]) : s.Fresh := no_key none

theorem fresh_key {s : Scanner} {key : PossibleKey} (held : s.keys = [some key]) (fresh : isStale key s.mark = false) :
    s.Fresh := by
  intro other member
  rw [held] at member
  exact Option.some.inj (List.mem_singleton.mp member) ▸ fresh

theorem yields_all {rest : List Char} {mark : Mark} {indents : List Nat} {allowed : Bool} {released : Nat}
    {queue : List Token} (inner : ∀ token ∈ queue, token.kind ≠ .streamEnd) :
    Yields ⟨⟨rest, mark⟩, false, indents, [none], allowed, released, queue⟩ queue.reverse
      ((⟨rest, mark.column, indents, allowed⟩ : Port).resting mark.index mark.line (released + queue.length)) :=
  @yields_queue ⟨⟨rest, mark⟩, false, indents, [none], allowed, released, queue⟩ [] queue rfl (fresh_none rfl)
    (no_key rfl) inner

end Scanner

/-- A scalar as it can stand in front of a colon: it starts a token,
is short enough, stays on its line, and is scanned as its content
wherever a key may stand. The limit is that of the scanner, which
gives up a key that is longer. -/
structure IsKey (text : List Char) (content : String) (style : Style) (column : Nat) : Prop where
  starts : ∀ rest, startsToken (text ++ rest) = true
  wordy : text ≠ []
  short : byteLength text ≤ 1024
  scans : ∀ (s : Scanner) (mark : Mark) (tail : List Char), s.cursor = ⟨text ++ ':' :: tail, mark⟩ →
    mark.column = column → gapFollows tail = true → s.keys = [none] →
    (∀ indent, s.indents.head? = some indent → indent ≤ column) →
    s.Scans content style ⟨':' :: tail, mark.after text⟩ false

/-- A block mapping is opened by its first key. A further key of the same
mapping opens none. -/
def opening (column : Nat) (left : List Nat) : List Kind :=
  if left.head? = some column then [] else [.blockMappingStart]

/-- The blocks around a key, its own mapping among them. A further key of a
mapping that is open opens no block of its own. -/
def opened (column : Nat) (left : List Nat) : List Nat :=
  if left.head? = some column then left else column :: left

theorem opened_cons (column : Nat) (left : List Nat) : ∃ others, opened column left = column :: others := by
  unfold opened
  split
  · rename_i same
    obtain ⟨others, rfl⟩ := List.head?_eq_some_iff.mp same
    exact ⟨others, rfl⟩
  · exact ⟨left, rfl⟩

theorem fetchFrom?_colon {s : Scanner} {tail : List Char} {mark : Mark} (here : s.cursor = ⟨':' :: tail, mark⟩)
    (gap : gapFollows tail = true) : s.fetchFrom? = s.fetchValue? := by
  have indicator := Scanner.fetchFrom?_indicator here (by decide) (by decide) (by decide)
  change _ = if ':' = ':' ∧ (s.inFlow = true ∨ gapFollows tail = true) then s.fetchValue? else _ at indicator
  rw [indicator, if_pos ⟨rfl, Or.inr gap⟩]

/-- A key at or behind the column of the block around it opens a block unless
it stands at this very column. This is how the scanner decides it, by the
column behind which content may stand. -/
theorem margin_le_iff {s : Scanner} {column : Nat} (outer : ∀ indent, s.indents.head? = some indent → indent ≤ column) :
    s.margin ≤ column ↔ s.indents.head? ≠ some column := by
  unfold Scanner.margin
  cases indents : s.indents with
  | nil => simp
  | cons indent others =>
    have le : indent ≤ column := outer indent (by rw [indents]; rfl)
    simp only [List.head?_cons, ne_eq, Option.some.injEq]
    omega

theorem openBlock_mapping {s : Scanner} {column number : Nat} {mark : Mark} (outside : s.inFlow = false)
    (outer : ∀ indent, s.indents.head? = some indent → indent ≤ column) :
    s.openBlock column number .blockMappingStart mark = { s with
      indents := opened column s.indents
      tokens := s.tokens.take (s.count - number) ++ ((opening column s.indents).map (⟨·, mark, mark⟩) ++
        s.tokens.drop (s.count - number)) } := by
  rw [Scanner.openBlock, outside]
  by_cases same : s.indents.head? = some column
  · have inner : ¬ s.margin ≤ column := fun le => (margin_le_iff outer).mp le same
    simp [inner, opened, opening, same]
  · have inner : s.margin ≤ column := (margin_le_iff outer).mpr same
    simp [inner, opened, opening, same, Scanner.insert, Scanner.count]

theorem opening_reverse (column : Nat) (left : List Nat) : (opening column left).reverse = opening column left := by
  unfold opening
  split <;> rfl

theorem opening_inner {column : Nat} {left : List Nat} {kind : Kind} (member : kind ∈ opening column left) :
    kind = .blockMappingStart := by
  unfold opening at member
  split at member
  · cases member
  · exact List.mem_singleton.mp member

theorem closers_kinds (closed : List Nat) (mark : Mark) :
    (closers closed mark).reverse.map Token.kind = closed.map fun _ => .blockEnd := by
  have kinds : (closers closed mark).map Token.kind = List.replicate closed.length .blockEnd := by
    rw [closers, List.map_map]
    exact List.map_const'
  rw [List.map_reverse, kinds, List.reverse_replicate, List.map_const']

theorem closers_inner {closed : List Nat} {mark : Mark} {token : Token} (member : token ∈ closers closed mark) :
    token.kind ≠ .streamEnd := by
  obtain ⟨_, _, rfl⟩ := List.mem_map.mp member
  exact Kind.noConfusion

/-- The tokens of a key and of the colon behind it, the newest first. The key
is announced in front of its scalar, though its colon comes behind. The scalar
had been read before anybody could know that it was a key. -/
def announced (key : PossibleKey) (indents : List Nat) (scalar : Token) (mark : Mark) : List Token :=
  ⟨.value, mark, mark.after [':']⟩ :: scalar :: ⟨.key, key.mark, key.mark⟩ ::
    (opening key.mark.column indents).map (⟨·, key.mark, key.mark⟩)

/-- In the order of the document these tokens are the start of the mapping if
the key is its first, then the key and the value. -/
theorem announced_kinds (key : PossibleKey) (indents : List Nat) (scalar : Token) (mark : Mark) :
    (announced key indents scalar mark).reverse.map Token.kind =
      opening key.mark.column indents ++ [.key, scalar.kind, .value] := by
  rw [List.map_reverse]
  simp only [announced, List.map_cons, List.map_map, List.reverse_cons, List.append_assoc]
  rw [show (Token.kind ∘ fun kind => (⟨kind, key.mark, key.mark⟩ : Token)) = id from rfl, List.map_id, opening_reverse]
  rfl

theorem announced_inner {key : PossibleKey} {indents : List Nat} {scalar token : Token} {mark : Mark}
    (inner : scalar.kind ≠ .streamEnd) (member : token ∈ announced key indents scalar mark) :
    token.kind ≠ .streamEnd := by
  simp only [announced, List.mem_cons, List.mem_map] at member
  rcases member with rfl | rfl | rfl | ⟨kind, opens, rfl⟩
  · exact Kind.noConfusion
  · exact inner
  · exact Kind.noConfusion
  · rw [opening_inner opens]
    exact Kind.noConfusion

/-- The colon behind a scalar puts the announcement in front of it, and opens
the mapping there if none stands at the column. Whether a mapping stands there
is settled by the columns alone. -/
theorem fetchValue?_key {tail : List Char} {mark : Mark} {indents : List Nat} {key : PossibleKey} {allowed : Bool}
    {released : Nat} {scalar : Token} (number : key.number = released)
    (outer : ∀ indent, indents.head? = some indent → indent ≤ key.mark.column) :
    Scanner.fetchValue? ⟨⟨':' :: tail, mark⟩, false, indents, [some key], allowed, released, [scalar]⟩ =
      some ⟨⟨tail, mark.after [':']⟩, false, opened key.mark.column indents, [none], false, released,
        announced key indents scalar mark⟩ := by
  let held : Scanner :=
    ⟨⟨':' :: tail, mark⟩, false, indents, [none], false, released, [scalar, ⟨.key, key.mark, key.mark⟩]⟩
  have announce : Scanner.insert ⟨⟨':' :: tail, mark⟩, false, indents, [none], false, released, [scalar]⟩ key.number .key
      key.mark = held := by
    simp [Scanner.insert, Scanner.count, number, held]
  have all : held.count - key.number = 2 := by simp [held, Scanner.count, number]
  have opens := @openBlock_mapping held _ key.number key.mark rfl outer
  rw [all] at opens
  change some ((Scanner.openBlock (Scanner.insert _ key.number .key key.mark) key.mark.column key.number
    .blockMappingStart key.mark).take .value 1) = _
  rw [announce, opens]
  simp [held, announced, Scanner.take, Scanner.push, Scanner.mark, Cursor.advance_one]

/-- The next token of a scanner with nothing in hand, behind the ends of the
blocks that it closes. What stands in front of the token is passed over, and
its column tells which blocks end. -/
theorem fetch?_resting {spacing : Spacing} {rest : List Char} {mark : Mark} {indents closed left : List Nat}
    {allowed : Bool} {released : Nat} {next : Scanner} (starts : startsToken rest = true)
    (nested : Nested (spacing.column mark.column) indents closed left)
    (fetched : Scanner.fetchFrom? ⟨⟨rest, spacing.mark mark⟩, false, left, [none], spacing.allows allowed, released,
      closers closed (spacing.mark mark)⟩ = some next) (whole : next.cut = false) :
    Scanner.fetch? ⟨⟨spacing.text ++ rest, mark⟩, false, indents, [none], allowed, released, []⟩ = some next := by
  let found : Scanner := ⟨⟨rest, spacing.mark mark⟩, false, indents, [none], spacing.allows allowed, released, []⟩
  have drops : found.dropStaleKeys? = some found := (Scanner.fresh_none rfl).drop
  have closes : found.closeBlocks (some found.mark.column) = ⟨⟨rest, spacing.mark mark⟩, false, left, [none],
      spacing.allows allowed, released, closers closed (spacing.mark mark)⟩ := by
    have shape := @Scanner.closeBlocks_nested found _ closed left nested rfl
    rw [List.append_nil] at shape
    exact (congrArg (fun column => found.closeBlocks (some column)) (Spacing.column_mark mark spacing)).trans shape
  refine @Scanner.fetch?_spacing spacing rest mark _ found next starts rfl rfl drops ⟨rfl, whole⟩ ?_
  rw [closes, fetched]

/-- A token that is fetched behind a gap leads from one resting place to
the next. What the gap closes comes first, and then what the fetch has
put into the queue. -/
theorem leads_of_fetch {spacing : Spacing} {rest : List Char} {column : Nat} {indents closed left : List Nat}
    {allowed : Bool} {kinds : List Kind} {next : Port} (starts : startsToken rest = true)
    (nested : Nested (spacing.column column) indents closed left)
    (fetches : ∀ (mark : Mark) (released : Nat), mark.column = spacing.column column →
      ∃ (reached : Mark) (queue : List Token), Scanner.fetchFrom? ⟨⟨rest, mark⟩, false, left, [none],
          spacing.allows allowed, released, closers closed mark⟩ =
        some ⟨⟨next.rest, reached⟩, false, next.indents, [none], next.keyAllowed, released,
          queue ++ closers closed mark⟩ ∧ reached.column = next.column ∧ queue.reverse.map Token.kind = kinds)
    (inner : .streamEnd ∉ kinds) (wordy : kinds ≠ []) :
    Leads ⟨spacing.text ++ rest, column, indents, allowed⟩ (closed.map (fun _ => .blockEnd) ++ kinds) next := by
  intro index line released
  let mark : Mark := spacing.mark ⟨index, line, column⟩
  obtain ⟨reached, queue, fetched, columnReached, same⟩ :=
    fetches mark released (Spacing.column_mark ⟨index, line, column⟩ spacing)
  have whole := fetch?_resting starts nested fetched rfl
  have innerQueue : ∀ token ∈ queue ++ closers closed mark, token.kind ≠ .streamEnd := by
    intro token member
    rcases List.mem_append.mp member with member | member
    · intro ends
      refine inner (same ▸ ?_)
      exact ends ▸ List.mem_map_of_mem (List.mem_reverse.mpr member)
    · exact closers_inner member
  have some : queue ++ closers closed mark ≠ [] := by
    intro empty
    obtain ⟨rfl, _⟩ := List.append_eq_nil_iff.mp empty
    exact wordy same.symm
  obtain ⟨before, oldest, held⟩ := (List.eq_nil_or_concat' _).resolve_left some
  have later := @Scanner.yields_all next.rest reached next.indents next.keyAllowed released _ innerQueue
  have read := Scanner.tokensFrom_fetch (Scanner.waits_of_empty rfl) whole held (Scanner.fresh_none rfl)
    (Scanner.no_key rfl)
  rw [columnReached] at later
  refine ⟨_, reached.index, reached.line, _, ?_, fun fuel => (read _).trans (later fuel)⟩
  rw [List.reverse_append, List.map_append, closers_kinds, same]

theorem fetch?_key {text tail : List Char} {content : String} {style : Style} {spacing : Spacing} {mark : Mark}
    {indents closed left : List Nat} {allowed : Bool} {released : Nat}
    (isKey : IsKey text content style (spacing.column mark.column)) (gap : gapFollows tail = true)
    (nested : Nested (spacing.column mark.column) indents closed left) (allows : spacing.allows allowed = true) :
    let start := spacing.mark mark
    Scanner.fetch? ⟨⟨spacing.text ++ (text ++ ':' :: tail), mark⟩, false, indents, [none], allowed, released, []⟩ =
      some ⟨⟨':' :: tail, start.after text⟩, false, left,
        [some ⟨released + (closers closed start).length, left.head? == some start.column, start⟩], false, released,
        ⟨.scalar content style, start, start.after text⟩ :: closers closed start⟩ := by
  intro start
  refine fetch?_resting (isKey.starts _) nested ?_ rfl
  rw [allows, isKey.scans _ start tail rfl (Spacing.column_mark mark spacing) gap rfl nested.outer]
  rfl

/-- The colon behind a scalar makes it a key: it is announced in front of the
scalar, with the opening of its mapping if it is the first key there. -/
theorem fetch?_colon {tail : List Char} {mark : Mark} {indents : List Nat} {key : PossibleKey} {released : Nat}
    {scalar : Token} (gap : gapFollows tail = true) (fresh : Scanner.isStale key mark = false)
    (number : key.number = released) (outer : ∀ indent, indents.head? = some indent → indent ≤ key.mark.column)
    (behind : key.mark.column ≤ mark.column) :
    Scanner.fetch? ⟨⟨':' :: tail, mark⟩, false, indents, [some key], false, released, [scalar]⟩ =
      some ⟨⟨tail, mark.after [':']⟩, false, opened key.mark.column indents, [none], false, released,
        announced key indents scalar mark⟩ := by
  let waiting : Scanner := ⟨⟨':' :: tail, mark⟩, false, indents, [some key], false, released, [scalar]⟩
  have drops : waiting.dropStaleKeys? = some waiting := (Scanner.fresh_key rfl fresh).drop
  have closes : waiting.closeBlocks (some waiting.mark.column) = waiting :=
    @Scanner.closeBlocks_nested waiting _ [] indents
      (Scanner.nested_inner fun indent head => (outer indent head).trans behind) rfl
  refine @Scanner.fetch?_spacing .nothing _ mark waiting waiting _ rfl rfl rfl drops ⟨rfl, rfl⟩ ?_
  rw [closes, fetchFrom?_colon rfl gap]
  exact fetchValue?_key number outer

/-- A key in front of its colon: it closes the blocks that are further in,
and opens one of its own if it is further in itself. All keys of a
document of preferences are read by this step, at the root, among the
units and within a unit. -/
theorem leads_key {text tail : List Char} {content : String} {style : Style} {spacing : Spacing} {column : Nat}
    {indents closed left : List Nat} {allowed : Bool} (isKey : IsKey text content style (spacing.column column))
    (gap : gapFollows tail = true) (nested : Nested (spacing.column column) indents closed left)
    (allows : spacing.allows allowed = true) :
    Leads ⟨spacing.text ++ (text ++ ':' :: tail), column, indents, allowed⟩
      (closed.map (fun _ => .blockEnd) ++ (opening (spacing.column column) left ++ [.key, .scalar content style, .value]))
      ⟨tail, spacing.column column + text.length + 1, opened (spacing.column column) left, false⟩ := by
  intro index line released
  have fetched := @fetch?_key text tail content style spacing ⟨index, line, column⟩ indents closed left allowed released
    isKey gap nested allows
  let start : Mark := spacing.mark ⟨index, line, column⟩
  let behind : Mark := start.after text
  let count : Nat := (closers closed start).length
  let key : PossibleKey := ⟨released + count, left.head? == some start.column, start⟩
  let scalar : Token := ⟨.scalar content style, start, behind⟩
  have startColumn : start.column = spacing.column column := Spacing.column_mark _ spacing
  have fresh : Scanner.isStale key behind = false := by
    have short := isKey.short
    simp [Scanner.isStale, key, behind, Mark.after]
    omega
  let read : Scanner :=
    ⟨⟨':' :: tail, behind⟩, false, left, [some key], false, released, scalar :: closers closed start⟩
  let waiting : Scanner := { read with released := released + count, tokens := [scalar] }
  have ends : read.Yields (closers closed start).reverse waiting := by
    refine @Scanner.yields_queue read [scalar] (closers closed start) rfl (Scanner.fresh_key rfl fresh)
      (fun other member => ?_) fun token member => closers_inner member
    obtain rfl : other = key := Option.some.inj (List.mem_singleton.mp member)
    exact Nat.le_refl _
  have completed := @fetch?_colon tail behind left key (released + count) scalar gap fresh rfl
    (fun indent head => (nested.outer indent head).trans_eq startColumn.symm) (Nat.le_add_right _ _)
  have waits : waiting.Waits :=
    @Scanner.waits_of_key waiting scalar key rfl (Scanner.fresh_key rfl fresh) (List.mem_singleton.mpr rfl) rfl
  have later := Scanner.Yields.fetch waits completed (Nat.lt_succ_self _)
    (Scanner.yields_all fun token member => announced_inner Kind.noConfusion member) (by simp [announced])
  have whole := Scanner.Yields.fetch (Scanner.waits_of_empty rfl) fetched ?_ (ends.trans later) (by simp [announced])
  · rw [← startColumn]
    exact ⟨_, _, _, _, by rw [List.map_append, closers_kinds, announced_kinds], whole⟩
  · have wordy := List.length_pos_iff.mpr isKey.wordy
    simp only [List.length_append, List.length_cons]
    omega

/-- A plain scalar as the value of a key, with a line behind it that is
indented less. The line behind it ends the scalar; it may belong to any of
the blocks around. -/
theorem leads_value {text rest : List Char} {column count indent : Nat} {indents : List Nat}
    (plain : Name.StandsPlain text) (starts : ∀ tail, startsToken (text ++ tail) = true) (outside : count ≤ indent)
    (inside : indent ≤ column + 1) (solid : isSolid rest = true) :
    Leads ⟨' ' :: (text ++ '\n' :: (List.replicate count ' ' ++ rest)), column, indent :: indents, false⟩
      [.scalar (String.ofList text) .plain] ⟨rest, count, indent :: indents, true⟩ := by
  have nested : Nested (Spacing.space.column column) (indent :: indents) [] (indent :: indents) :=
    Scanner.nested_cons inside
  refine @leads_of_fetch .space _ column _ [] _ false _ _ (starts _) nested (fun mark released here => ?_) (by simp)
    (List.cons_ne_nil _ _)
  have column : mark.column = column + 1 := here
  obtain ⟨reached, line, _, scans⟩ := @Scanner.scans_plain_line
    ⟨⟨text ++ '\n' :: (List.replicate count ' ' ++ rest), mark⟩, false, indent :: indents, [none], false, released, []⟩
    text rest mark count plain rfl rfl (Nat.lt_succ_of_le outside) solid (by change indent + 1 ≤ _; omega)
    (Cursor.atDocumentBound_of_column (by omega))
  exact ⟨reached, [⟨.scalar (String.ofList text) .plain, mark, reached⟩], scans, line, rfl⟩

/-- An empty pair of braces behind a blank is two tokens. The blocks around it
are kept, as nothing stands in the braces. -/
theorem leads_braces {tail : List Char} {column : Nat} {indents : List Nat}
    (inside : ∀ indent, indents.head? = some indent → indent ≤ column + 1) :
    Leads ⟨' ' :: '\x7b' :: '\x7d' :: tail, column, indents, false⟩ [.flowMappingStart, .flowMappingEnd]
      ⟨tail, column + 3, indents, false⟩ := by
  intro index line released
  let mark : Mark := Spacing.space.mark ⟨index, line, column⟩
  let inner : Mark := mark.after ['\x7b']
  let start : Token := ⟨.flowMappingStart, mark, inner⟩
  let stop : Token := ⟨.flowMappingEnd, inner, inner.after ['\x7d']⟩
  let inFlow (tokens : List Token) (released : Nat) : Scanner :=
    ⟨⟨'\x7d' :: tail, inner⟩, false, indents, [none, none], true, released, tokens⟩
  have free (tokens : List Token) (released : Nat) (key : PossibleKey) : some key ∉ (inFlow tokens released).keys := by
    simp [inFlow]
  have fresh (tokens : List Token) (released : Nat) : (inFlow tokens released).Fresh := fun key member =>
    absurd member (free tokens released key)
  have opens : Scanner.fetch? ⟨⟨' ' :: '\x7b' :: '\x7d' :: tail, ⟨index, line, column⟩⟩, false, indents, [none], false,
      released, []⟩ = some (inFlow [start] released) := by
    refine @fetch?_resting .space _ ⟨index, line, column⟩ indents [] indents false released _ (by rfl)
      (Scanner.nested_inner inside) ?_ rfl
    exact @Scanner.fetchFrom?_indicator ⟨⟨'\x7b' :: '\x7d' :: tail, mark⟩, false, indents, [none], false, released, []⟩
      '\x7b' _ mark rfl (by decide) (by decide) (by decide)
  have closes : (inFlow [] (released + 1)).fetch? =
      some ⟨⟨tail, inner.after ['\x7d']⟩, false, indents, [none], false, released + 1, [stop]⟩ := by
    have skipped := @Scanner.skipToToken_spaces (inFlow [] (released + 1)).cursor.rest.length 0 _ inner
      (inFlow [] (released + 1)) rfl rfl
    rw [Scanner.fetch?, skipped]
    change ((inFlow [] (released + 1)).dropStaleKeys? >>= _) = _
    rw [(fresh [] (released + 1)).drop]
    change Scanner.fetchFrom? (inFlow [] (released + 1)) >>= _ = _
    rw [@Scanner.fetchFrom?_indicator (inFlow [] (released + 1)) '\x7d' tail inner rfl (by decide) (by decide) (by decide)]
    rfl
  have first : (inFlow [start] released).Yields [start] (inFlow [] (released + 1)) :=
    @Scanner.yields_queue (inFlow [start] released) [] [start] rfl (fresh _ _) (fun key member => absurd member (free _ _ key))
      (by simp [start])
  have second := @Scanner.yields_all tail (inner.after ['\x7d']) indents false (released + 1) [stop] (by simp [stop])
  have whole := (Scanner.Yields.fetch (Scanner.waits_of_empty rfl) opens (Nat.lt_succ_of_lt (Nat.lt_succ_self _))
    (first.trans (Scanner.Yields.fetch (Scanner.waits_of_empty rfl) closes (Nat.lt_succ_self _) second (by simp)))
    (by simp))
  exact ⟨[start, stop], _, _, _, rfl, whole⟩

/-- The last tokens of a document. Whatever fuel there is beyond the number of
these tokens is not needed. -/
def Ends (port : Port) (kinds : List Kind) : Prop :=
  ∀ index line released, ∃ tokens : List Token, tokens.map Token.kind = kinds ∧
    ∀ fuel, (port.resting index line released).tokensFrom (fuel + tokens.length) = tokens

theorem Leads.ends {port next : Port} {kinds others : List Kind} (first : Leads port kinds next) (last : Ends next others) :
    Ends port (kinds ++ others) := by
  intro index line released
  obtain ⟨tokens, index', line', released', same, yields⟩ := first index line released
  obtain ⟨later, same', ends⟩ := last index' line' released'
  refine ⟨tokens ++ later, by rw [List.map_append, same, same'], fun fuel => ?_⟩
  rw [List.length_append, Nat.add_comm tokens.length, ← Nat.add_assoc, yields, ends]

/-- At the end of the document all blocks are closed. Each has a token for
its end, in front of that for the end of the stream. -/
theorem ends_document {spacing : Spacing} {column : Nat} {indents closed left : List Nat} {allowed : Bool}
    (start : spacing.column column = 0) (nested : Nested 0 indents closed left) :
    Ends ⟨spacing.text, column, indents, allowed⟩ (indents.map (fun _ => .blockEnd) ++ [.streamEnd]) := by
  intro index line released
  let mark : Mark := spacing.mark ⟨index, line, column⟩
  have first : mark.column = 0 := (Spacing.column_mark _ spacing).trans start
  let queue : List Token := closers left mark ++ closers closed mark
  let last : Token := ⟨.streamEnd, mark, mark⟩
  let next : Scanner := ⟨⟨[], mark⟩, false, [], [none], false, released, last :: queue⟩
  have fetched : Scanner.fetch? ⟨⟨spacing.text ++ [], ⟨index, line, column⟩⟩, false, indents, [none], allowed, released,
      []⟩ = some next := by
    refine fetch?_resting rfl (start.symm ▸ nested) ?_ rfl
    let ending : Scanner := ⟨⟨[], mark⟩, false, left, [none], spacing.allows allowed, released, closers closed mark⟩
    have same : (if ending.mark.column = 0 then ending.mark else ⟨ending.mark.index, ending.mark.line + 1, 0⟩) = mark :=
      if_pos first
    change ending.fetchStreamEnd? = _
    rw [Scanner.fetchStreamEnd?, same, Scanner.closeBlocks_all rfl]
    rfl
  have inner : ∀ token ∈ queue, token.kind ≠ .streamEnd := by
    intro token member
    rcases List.mem_append.mp member with member | member
    · exact closers_inner member
    · exact closers_inner member
  let ended : Scanner := { next with released := released + queue.length, tokens := [last] }
  have stops (fuel : Nat) : ended.tokensFrom (fuel + 1) = [last] := by
    rw [Scanner.tokensFrom, @Scanner.release?_oldest ended [] last rfl (Scanner.fresh_none rfl)
      (Scanner.no_key rfl)]
    rfl
  have blocks : next.Yields queue.reverse ended := @Scanner.yields_queue next [last] queue rfl (Scanner.fresh_none rfl)
    (Scanner.no_key rfl) inner
  rw [List.append_nil] at fetched
  obtain ⟨before, oldest, held⟩ := (List.eq_nil_or_concat' next.tokens).resolve_left (List.cons_ne_nil _ _)
  refine ⟨queue.reverse ++ [last], ?_, fun fuel => ?_⟩
  · rw [List.map_append, List.reverse_append, List.map_append, closers_kinds, closers_kinds, ← List.map_append,
      ← nested.parts]
    rfl
  · have read := Scanner.tokensFrom_fetch (Scanner.waits_of_empty rfl) fetched held (Scanner.fresh_none rfl)
      (Scanner.no_key rfl)
    refine (read _).trans ?_
    rw [List.length_append, List.length_singleton, Nat.add_comm queue.reverse.length, ← Nat.add_assoc, blocks, stops]

/-- A document in which all characters may stand is read in one piece, as far
as its tokens are concerned. -/
theorem ofString_acceptable {text : String} (acceptable : ∀ c ∈ text.toList, isAcceptable c = true) :
    Scanner.ofString text = ⟨⟨text.toList, {}⟩, false, [], [none], true, 0, [⟨.streamStart, {}, {}⟩]⟩ := by
  rw [Scanner.ofString, Scanner.readable_of_acceptable _ acceptable]
  rfl

/-- The tokens of a text that can be read to its end. The bound keeps
the fuel from ending before the document. From here on only the kinds of
the tokens count. -/
theorem kinds_ofString {text : String} {kinds : List Kind} (acceptable : ∀ c ∈ text.toList, isAcceptable c = true)
    (ends : Ends ⟨text.toList, 0, [], true⟩ kinds) (short : kinds.length < 4 * text.length + 8) :
    (Token.ofString text).map Token.kind = .streamStart :: kinds := by
  let start : Token := ⟨.streamStart, {}, {}⟩
  have first := @Scanner.yields_all text.toList {} [] true 0 [start] (by simp [start])
  obtain ⟨tokens, rfl, whole⟩ := ends 0 0 1
  rw [List.length_map] at short
  obtain ⟨fuel, split⟩ : ∃ fuel, 4 * text.length + 8 = fuel + tokens.length + 1 :=
    ⟨4 * text.length + 8 - (tokens.length + 1), by omega⟩
  rw [Token.ofString, ofString_acceptable acceptable, split]
  refine (congrArg (List.map Token.kind) (first (fuel + tokens.length))).trans ?_
  rw [List.map_append]
  exact congrArg (Kind.streamStart :: List.map Token.kind ·) (whole fuel)

end CallCapture.Yaml
