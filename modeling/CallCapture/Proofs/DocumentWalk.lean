import CallCapture.Proofs.DocumentTokens
import CallCapture.Yaml.Decode

namespace CallCapture.Yaml

open Token (Kind)
open Document (Item)

/-- The item of a document that an event without an anchor stands
for. Preferences are saved without anchors and aliases, so all
their events have one. -/
def Event.item? : Event → Option Item
  | .scalar ⟨none, tag⟩ text style => some (.scalar tag text style)
  | .mappingStart ⟨none, _⟩ => some .mappingStart
  | .mappingEnd => some .mappingEnd
  | _ => none

/-- Tokens of the given kinds are walked over as `items`, and change what is
expected. The number of items is bounded by twice that of the tokens, as the
walk has fuel for so many. -/
def Tells (kinds : List Kind) (expected : List Expected) (items : List Item) (expected' : List Expected) : Prop :=
  items.length ≤ 2 * kinds.length ∧
    ∀ (tokens rest : List Token) (handles : List (String × String)), tokens.map Token.kind = kinds →
      ∃ told : List (Event × Mark), (told.map fun event => event.1.item?) = items.map some ∧
        ∀ fuel, Walk.events (fuel + items.length) ⟨tokens ++ rest, expected, handles⟩ =
          told ++ Walk.events fuel ⟨rest, expected', handles⟩

/-- Tokens that are walked over one after the other are walked over together,
as the first ones leave what the second ones need to be expected. -/
theorem Tells.trans {kinds others : List Kind} {expected middle expected' : List Expected} {items later : List Item}
    (first : Tells kinds expected items middle) (second : Tells others middle later expected') :
    Tells (kinds ++ others) expected (items ++ later) expected' := by
  refine ⟨?_, fun tokens rest handles same => ?_⟩
  · have few := first.1
    have few' := second.1
    simp only [List.length_append]
    omega
  · obtain ⟨front, back, rfl, sameFront, sameBack⟩ := List.map_eq_append_iff.mp same
    obtain ⟨told, toldItems, walk⟩ := first.2 front (back ++ rest) handles sameFront
    obtain ⟨told', toldItems', walk'⟩ := second.2 back rest handles sameBack
    refine ⟨told ++ told', by rw [List.map_append, toldItems, toldItems', List.map_append], fun fuel => ?_⟩
    rw [List.append_assoc, List.length_append, Nat.add_comm items.length, ← Nat.add_assoc, walk, walk', List.append_assoc]

theorem kinds_cons {tokens : List Token} {kind : Kind} {kinds : List Kind} (same : tokens.map Token.kind = kind :: kinds) :
    ∃ start stop others, tokens = ⟨kind, start, stop⟩ :: others ∧ others.map Token.kind = kinds := by
  obtain ⟨⟨_, start, stop⟩, others, rfl, rfl, later⟩ := List.map_eq_cons_iff.mp same
  exact ⟨start, stop, others, rfl, later⟩

section Steps

variable {expected : List Expected} {text : String} {style : Style}

theorem tells_root : Tells [.blockMappingStart] (.blockNode :: expected) [.mappingStart] (.blockKey :: expected) := by
  refine ⟨by simp, fun tokens rest handles same => ?_⟩
  obtain ⟨start, _, _, rfl, later⟩ := kinds_cons same
  obtain rfl := List.map_eq_nil_iff.mp later
  exact ⟨[(.mappingStart {}, start)], rfl, fun fuel => rfl⟩

theorem tells_key : Tells [.key, .scalar text style] (.blockKey :: expected) [.scalar none text style]
    (.blockValue :: expected) := by
  refine ⟨by simp, fun tokens rest handles same => ?_⟩
  obtain ⟨start, _, _, rfl, later⟩ := kinds_cons same
  obtain ⟨start', _, _, rfl, last⟩ := kinds_cons later
  obtain rfl := List.map_eq_nil_iff.mp last
  exact ⟨[(.scalar {} text style, start')], rfl, fun fuel => rfl⟩

theorem tells_value : Tells [.value, .scalar text style] (.blockValue :: expected) [.scalar none text style]
    (.blockKey :: expected) := by
  refine ⟨by simp, fun tokens rest handles same => ?_⟩
  obtain ⟨start, _, _, rfl, later⟩ := kinds_cons same
  obtain ⟨start', _, _, rfl, last⟩ := kinds_cons later
  obtain rfl := List.map_eq_nil_iff.mp last
  exact ⟨[(.scalar {} text style, start')], rfl, fun fuel => rfl⟩

theorem tells_block : Tells [.value, .blockMappingStart] (.blockValue :: expected) [.mappingStart]
    (.blockKey :: .blockKey :: expected) := by
  refine ⟨by simp, fun tokens rest handles same => ?_⟩
  obtain ⟨start, _, _, rfl, later⟩ := kinds_cons same
  obtain ⟨start', _, _, rfl, last⟩ := kinds_cons later
  obtain rfl := List.map_eq_nil_iff.mp last
  exact ⟨[(.mappingStart {}, start')], rfl, fun fuel => rfl⟩

theorem tells_end : Tells [.blockEnd] (.blockKey :: expected) [.mappingEnd] expected := by
  refine ⟨by simp, fun tokens rest handles same => ?_⟩
  obtain ⟨start, _, _, rfl, later⟩ := kinds_cons same
  obtain rfl := List.map_eq_nil_iff.mp later
  exact ⟨[(.mappingEnd, start)], rfl, fun fuel => rfl⟩

theorem tells_braces : Tells [.value, .flowMappingStart, .flowMappingEnd] (.blockValue :: expected)
    [.mappingStart, .mappingEnd] (.blockKey :: expected) := by
  refine ⟨by simp, fun tokens rest handles same => ?_⟩
  obtain ⟨start, _, _, rfl, later⟩ := kinds_cons same
  obtain ⟨start', _, _, rfl, last⟩ := kinds_cons later
  obtain ⟨start'', _, _, rfl, none⟩ := kinds_cons last
  obtain rfl := List.map_eq_nil_iff.mp none
  exact ⟨[(.mappingStart {}, start'), (.mappingEnd, start'')], rfl, fun fuel => rfl⟩

end Steps

/-- The items of a switch: its key and its value. -/
def settingItems (key : String) (b : Bool) : List Item :=
  [.scalar none key .plain, .scalar none (boolName b) .plain]

/-- The items of a unit: its name, and a mapping with one switch. The
name keeps the style in which it was written, though no reader of
keys looks at it. -/
def unitItems (name : String) (skip : Bool) : List Item :=
  .scalar none name (Name.style name) :: .mappingStart :: (settingItems "skip_capture" skip ++ [.mappingEnd])

/-- The items of all units, without the mapping that holds them. Each name is
followed by the items of its setting. -/
def entriesItems (settings : List (String × Bool)) : List Item :=
  settings.flatMap fun entry => unitItems entry.1 entry.2

/-- The items of saved preferences. The order is that of the fields: both
switches, and then the units. -/
def documentItems (preferences : Preferences) : List Item :=
  .mappingStart :: (settingItems "force_run" preferences.forceRun ++ (settingItems "verbose" preferences.verbose ++
    (.scalar none "units" .plain :: .mappingStart :: (entriesItems preferences.units ++ [.mappingEnd, .mappingEnd]))))

section Parts

variable {expected : List Expected}

theorem tells_setting (key : String) (b : Bool) :
    Tells (settingKinds key b) (.blockKey :: expected) (settingItems key b) (.blockKey :: expected) :=
  tells_key.trans tells_value

theorem tells_unit (name : String) (skip : Bool) :
    Tells (unitKinds name skip ++ [.blockEnd]) (.blockKey :: expected) (unitItems name skip) (.blockKey :: expected) :=
  (tells_key.trans tells_block).trans (tells_setting "skip_capture" skip) |>.trans tells_end

theorem tells_nothing : Tells [] expected [] expected := by
  refine ⟨Nat.le_refl 0, fun tokens rest handles same => ?_⟩
  obtain rfl := List.map_eq_nil_iff.mp same
  exact ⟨[], rfl, fun fuel => rfl⟩

/-- The units are walked over one after the other, by induction on them. Each
unit begins and ends where a key is expected. -/
theorem tells_entries (settings : List (String × Bool)) :
    Tells (entriesKinds settings) (.blockKey :: expected) (entriesItems settings) (.blockKey :: expected) := by
  induction settings with
  | nil => exact tells_nothing
  | cons entry others ih => exact (tells_unit entry.1 entry.2).trans ih

/-- The mapping of the units is walked over alike, whether it is written in
lines or, without any unit, in brackets. -/
theorem tells_units (settings : List (String × Bool)) :
    Tells (.value :: unitsKinds settings) (.blockValue :: expected)
      (.mappingStart :: (entriesItems settings ++ [.mappingEnd])) (.blockKey :: expected) := by
  unfold unitsKinds
  split
  · rename_i none
    subst none
    exact tells_braces
  · exact tells_block.trans ((tells_entries settings).trans tells_end)

end Parts

/-- The tokens of saved preferences are walked over as their items. With this
the grammar of the walk is left behind as well. -/
theorem tells_body (preferences : Preferences) :
    Tells (bodyKinds preferences) [.blockNode, .documentEnd] (documentItems preferences) [.documentEnd] := by
  have units := (@tells_units [.documentEnd] preferences.units).trans tells_end
  have named := (@tells_key [.documentEnd] "units" .plain).trans units
  have whole := tells_root.trans ((tells_setting "force_run" preferences.forceRun).trans
    ((tells_setting "verbose" preferences.verbose).trans named))
  simpa [bodyKinds, documentItems] using whole

/-- Events without anchors are collected as their items. Each is put in front
of those that were collected before, and the list is turned at the end. -/
theorem collect_items {told rest : List (Event × Mark)} {items : List Item} {document : Document.Partial}
    (same : (told.map fun event => event.1.item?) = items.map some) :
    ∃ added : List (Item × Mark), added.map Prod.fst = items ∧ Document.collect (told ++ rest) document =
      Document.collect rest { document with items := added.reverse ++ document.items } := by
  induction told generalizing items document with
  | nil =>
    obtain rfl := List.map_eq_nil_iff.mp same.symm
    exact ⟨[], rfl, rfl⟩
  | cons event told ih =>
    obtain ⟨item, items, rfl, first, later⟩ := List.map_eq_cons_iff.mp same.symm
    obtain ⟨added, names, collected⟩ := @ih items (document.add item event.2) later.symm
    refine ⟨(item, event.2) :: added, congrArg (item :: ·) names, ?_⟩
    rw [List.reverse_cons, List.append_assoc]
    refine Eq.trans ?_ collected
    obtain ⟨event, mark⟩ := event
    unfold Event.item? at first
    dsimp only at first
    split at first <;> cases first <;> rfl

/-- The document of tokens that are walked over as items. It is whole, and the
walk has fuel enough for it, as no token leads to more than two items. -/
theorem document_ofTokens {tokens : List Token} {kinds : List Kind} {items : List Item}
    (same : tokens.map Token.kind = .streamStart :: (.blockMappingStart :: kinds ++ [.streamEnd]))
    (tells : Tells (.blockMappingStart :: kinds) [.blockNode, .documentEnd] items [.documentEnd]) :
    let document := Document.ofEvents (Event.ofTokens tokens)
    document.items.map Prod.fst = items ∧ document.whole = true := by
  obtain ⟨start, start', tokens, rfl, later⟩ := kinds_cons same
  obtain ⟨inner, ending, rfl, sameInner, last⟩ := List.map_eq_append_iff.mp later
  obtain ⟨stop, stop', nothing, rfl, none⟩ := kinds_cons last
  obtain rfl := List.map_eq_nil_iff.mp none
  obtain ⟨few, walks⟩ := tells
  obtain ⟨told, toldItems, walk⟩ := walks inner [⟨.streamEnd, stop, stop'⟩] Walk.defaultHandles sameInner
  obtain ⟨root, root', others, rfl, _⟩ := kinds_cons sameInner
  rw [← sameInner, List.length_map, List.length_cons] at few
  obtain ⟨fuel, enough⟩ : ∃ fuel, 4 * (others.length + 3) + 8 = fuel + 2 + items.length + 2 :=
    ⟨4 * (others.length + 3) + 8 - (items.length + 4), by omega⟩
  have ends : Walk.events (fuel + 2) ⟨[⟨.streamEnd, stop, stop'⟩], [.documentEnd], Walk.defaultHandles⟩ =
      [(.documentEnd, stop), (.streamEnd, stop)] := by
    cases fuel <;> rfl
  have events : Event.ofTokens (⟨.streamStart, start, start'⟩ :: (⟨.blockMappingStart, root, root'⟩ :: others ++
      [⟨.streamEnd, stop, stop'⟩])) = (.streamStart, start) :: (.documentStart, root) ::
        (told ++ [(.documentEnd, stop), (.streamEnd, stop)]) := by
    rw [Event.ofTokens, List.length_cons, List.length_append, List.length_cons, List.length_singleton, enough, ← ends,
      ← walk]
    rfl
  obtain ⟨added, names, collected⟩ := @collect_items told [(.documentEnd, stop), (.streamEnd, stop)] items {} toldItems
  have closed : Document.ofEvents (Event.ofTokens (⟨.streamStart, start, start'⟩ :: (⟨.blockMappingStart, root, root'⟩ ::
      others ++ [⟨.streamEnd, stop, stop'⟩]))) = Document.Partial.close { items := added.reverse ++ [] } true := by
    rw [events]
    exact collected
  rw [closed]
  simp [Document.Partial.close, names]

/-- The walk over saved preferences. It has the items of the preferences, in
order, and it is whole. -/
theorem document_rendered {preferences : Preferences} (named : ∀ entry ∈ preferences.units, Named entry.1) :
    let document := Document.ofString (render preferences)
    document.items.map Prod.fst = documentItems preferences ∧ document.whole = true :=
  document_ofTokens (tokens_rendered named) (tells_body preferences)

end CallCapture.Yaml
