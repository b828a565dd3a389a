import CallCapture.Proofs.DocumentWalk

namespace CallCapture

namespace Yaml.Decode

open Document (Item)

variable {α β : Type}

/-- A reader finds a value in items, and leaves what stands behind them. Where
the items are does not matter, as places are only for messages. The walk may
go on behind the items in any way. -/
def Takes (reader : Decode α) (items : List Item) (value : α) : Prop :=
  ∀ (document : Document) (found tail : List (Item × Mark)) (jumps : Nat), found.map Prod.fst = items →
    reader document ⟨found ++ tail, jumps⟩ = .ok (value, ⟨tail, jumps⟩)

theorem Takes.bind {reader : Decode α} {next : α → Decode β} {items others : List Item} {value : α} {result : β}
    (first : Takes reader items value) (second : Takes (next value) others result) :
    Takes (reader >>= next) (items ++ others) result := by
  intro document found tail jumps same
  obtain ⟨front, back, rfl, sameFront, sameBack⟩ := List.map_eq_append_iff.mp same
  have read := first document front (back ++ tail) jumps sameFront
  rw [← List.append_assoc] at read
  change (reader document ⟨front ++ back ++ tail, jumps⟩ >>= fun read => next read.1 document read.2) = _
  rw [read]
  exact second document back tail jumps sameBack

theorem takes_pure (value : α) : Takes (pure value) [] value := by
  intro document found tail jumps same
  obtain rfl := List.map_eq_nil_iff.mp same
  rfl

theorem Takes.map {reader : Decode α} {items : List Item} {value : α} (f : α → β) (takes : Takes reader items value) :
    Takes (do return f (← reader)) items (f value) := by
  have whole := @Takes.bind α β reader (fun found => pure (f found)) items [] value (f value) takes (takes_pure _)
  rwa [List.append_nil] at whole

theorem takes_bool (path : List String) (b : Bool) : Takes (bool path) [.scalar none (boolName b) .plain] b := by
  intro document found tail jumps same
  obtain ⟨⟨_, mark⟩, _, rfl, rfl, none⟩ := List.map_eq_cons_iff.mp same
  obtain rfl := List.map_eq_nil_iff.mp none
  cases b <;> rfl

section Mappings

variable {wantedKey : String} {path : List String} {step : α → String → List String → Decode α}

/-- The entries of a mapping, with its end, lead from one value to another.
The fuel is that of the reader of entries, which takes one entry at a time. -/
def Folds (wantedKey : String) (path : List String) (step : α → String → List String → Decode α) (value : α)
    (items : List Item) (result : α) : Prop :=
  ∀ fuel, items.length < fuel + 1 → Takes (entries wantedKey path step fuel value) items result

theorem folds_end (value : α) : Folds wantedKey path step value [.mappingEnd] value := by
  intro fuel enough document found tail jumps same
  obtain ⟨fuel, rfl⟩ := Nat.exists_eq_succ_of_ne_zero (by rw [List.length_singleton] at enough; omega : fuel ≠ 0)
  obtain ⟨⟨_, mark⟩, _, rfl, rfl, none⟩ := List.map_eq_cons_iff.mp same
  obtain rfl := List.map_eq_nil_iff.mp none
  rfl

/-- An entry leads to the next value, and the entries behind it go on from
there. The key is any scalar, and its style makes no difference. -/
theorem folds_entry {key : String} {style : Style} {items others : List Item} {value next result : α}
    (takes : Takes (step value key (path ++ [key])) items next) (folds : Folds wantedKey path step next others result) :
    Folds wantedKey path step value (.scalar none key style :: (items ++ others)) result := by
  intro fuel enough document found tail jumps same
  rw [List.length_cons, List.length_append] at enough
  obtain ⟨fuel, rfl⟩ := Nat.exists_eq_succ_of_ne_zero (by omega : fuel ≠ 0)
  obtain ⟨⟨_, mark⟩, found, rfl, rfl, later⟩ := List.map_eq_cons_iff.mp same
  exact takes.bind (folds fuel (by omega)) document found tail jumps later

/-- A mapping is read through its entries. They are as many as the fuel
lasts for, since each takes an item. What is wanted there is only said
if there is none. -/
theorem takes_mapping {wanted : String} {steps : Mark → α → String → List String → Decode α} {items : List Item}
    {initial result : α} (folds : ∀ mark, Folds wantedKey path (steps mark) initial items result) :
    Takes (mapping wanted wantedKey path initial steps) (.mappingStart :: items) result := by
  intro document found tail jumps same
  obtain ⟨⟨_, mark⟩, found, rfl, rfl, later⟩ := List.map_eq_cons_iff.mp same
  have enough : items.length < (found ++ tail).length + 1 + 1 := by
    rw [← later, List.length_map, List.length_append]
    omega
  exact folds mark ((found ++ tail).length + 1) enough document found tail jumps later

end Mappings

theorem takes_unitSetting (path : List String) (skip : Bool) :
    Takes (unitSetting path) (.mappingStart :: (settingItems "skip_capture" skip ++ [.mappingEnd])) skip := by
  refine @Takes.map (Option Bool) Bool _ _ (some skip) (Option.getD · false) (takes_mapping fun mark => ?_)
  refine @folds_entry _ _ _ _ _ _ [.scalar none (boolName skip) .plain] _ _ _ _ ?_ (folds_end (some skip))
  rw [if_pos rfl]
  exact (takes_bool _ skip).map some

/-- Units that all have different names are found as they are. This
is where the names of units have to differ: of two equal ones the
first would be lost. -/
theorem folds_units {path : List String} {settings found : List (String × Bool)}
    (distinct : ((found ++ settings).map Prod.fst).Nodup) :
    Folds "a string" path (fun found name valuePath => do return putEntry found name (← unitSetting valuePath)) found
      (entriesItems settings ++ [.mappingEnd]) (found ++ settings) := by
  induction settings generalizing found with
  | nil =>
    rw [List.append_nil]
    exact folds_end found
  | cons entry others ih =>
    obtain ⟨name, skip⟩ := entry
    have new : name ∉ found.map Prod.fst := by
      rw [List.map_append, List.nodup_append] at distinct
      exact fun member => distinct.2.2 name member name List.mem_cons_self rfl
    have next : putEntry found name skip = found ++ [(name, skip)] := putEntry_new new skip
    have later := @ih (found ++ [(name, skip)]) (by rwa [List.append_assoc])
    rw [← next, next, List.append_assoc] at later
    have first : Takes (do return putEntry found name (← unitSetting (path ++ [name])))
        (.mappingStart :: (settingItems "skip_capture" skip ++ [.mappingEnd])) (found ++ [(name, skip)]) :=
      next ▸ (takes_unitSetting (path ++ [name]) skip).map (putEntry found name ·)
    have shape : entriesItems ((name, skip) :: others) ++ [.mappingEnd] = .scalar none name (Name.style name) ::
        (.mappingStart :: (settingItems "skip_capture" skip ++ [.mappingEnd]) ++
          (entriesItems others ++ [.mappingEnd])) := by
      simp [entriesItems, unitItems]
    rw [shape]
    exact folds_entry first later

theorem takes_units {path : List String} {settings : List (String × Bool)} (distinct : (settings.map Prod.fst).Nodup) :
    Takes (units path) (.mappingStart :: (entriesItems settings ++ [.mappingEnd])) settings :=
  takes_mapping fun _ => @folds_units path settings [] distinct

/-- Preferences are read back from their items. Each field is found under its
key, and none comes twice. -/
theorem takes_preferences {preferences : Preferences} (distinct : (preferences.units.map Prod.fst).Nodup) :
    Takes Decode.preferences (documentItems preferences) preferences := by
  let forced : Draft := { forceRun := some preferences.forceRun }
  let verbose : Draft := { forced with verbose := some preferences.verbose }
  let complete : Draft := { verbose with units := some preferences.units }
  have shape : documentItems preferences = .mappingStart :: .scalar none "force_run" .plain ::
      ([.scalar none (boolName preferences.forceRun) .plain] ++ .scalar none "verbose" .plain ::
        ([.scalar none (boolName preferences.verbose) .plain] ++ .scalar none "units" .plain ::
          (.mappingStart :: (entriesItems preferences.units ++ [.mappingEnd]) ++ [.mappingEnd]))) := by
    simp [documentItems, settingItems]
  rw [shape]
  refine @Takes.map Draft Preferences _ _ complete Draft.finish (takes_mapping fun mark => ?_)
  refine @folds_entry _ _ _ _ _ _ _ _ _ forced _ ?_ (@folds_entry _ _ _ _ _ _ _ _ _ verbose _ ?_
    (@folds_entry _ _ _ _ _ _ _ _ _ complete _ ?_ (folds_end complete)))
  · rw [if_pos rfl]
    exact (takes_bool _ preferences.forceRun).map fun b => ({ forceRun := some b } : Draft)
  · rw [if_neg (by decide), if_pos rfl]
    exact (takes_bool _ preferences.verbose).map fun b => { forced with verbose := some b }
  · rw [if_neg (by decide), if_neg (by decide), if_pos rfl]
    exact (takes_units distinct).map fun settings => { verbose with units := some settings }

end Yaml.Decode

/-- Saved preferences are read as they were. The scanner, the walk and the
reader are put together here. -/
theorem Yaml.preferences_rendered {preferences : Preferences} (named : ∀ entry ∈ preferences.units, Named entry.1)
    (distinct : (preferences.units.map Prod.fst).Nodup) :
    (Yaml.Document.ofString (Yaml.render preferences)).preferences = .ok preferences := by
  obtain ⟨items, whole⟩ := Yaml.document_rendered named
  have read := Yaml.Decode.takes_preferences distinct (Yaml.Document.ofString (Yaml.render preferences)) _ [] 0 items
  rw [List.append_nil] at read
  rw [Yaml.Document.preferences]
  simp only [ReaderT.run, StateT.run', read, whole]
  rfl

end CallCapture
