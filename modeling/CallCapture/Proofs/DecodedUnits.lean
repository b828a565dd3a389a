import CallCapture.Yaml.Decode
import Mathlib.Data.List.Nodup

namespace CallCapture

/-- An entry that is put in place of one with the same name, or behind all
others, keeps the names apart. -/
theorem nodup_putEntry {α : Type} {entries : List (String × α)} (distinct : (entries.map Prod.fst).Nodup) (name : String)
    (value : α) : ((putEntry entries name value).map Prod.fst).Nodup := by
  rw [map_fst_putEntry]
  split
  · exact distinct
  · rename_i new
    exact List.concat_eq_append ▸ distinct.concat new

namespace Yaml.Decode

variable {α β : Type} {holds : α → Prop}

/-- Whatever the reader finds has the property. Where the reader fails, there
is nothing to show. -/
def Gives (reader : Decode α) (holds : α → Prop) : Prop :=
  ∀ document before value after, reader document before = .ok (value, after) → holds value

theorem gives_any (reader : Decode α) : Gives reader fun _ => True := fun _ _ _ _ _ => trivial

theorem gives_pure {value : α} (here : holds value) : Gives (pure value) holds := by
  intro document before found after read
  cases read
  exact here

theorem gives_misfit (problem : Problem) (path : List String) (mark : Mark) :
    Gives (misfit problem path mark : Decode α) holds := fun _ _ _ _ read => nomatch read

theorem gives_malformed : Gives (malformed : Decode α) holds := fun _ _ _ _ read => nomatch read

/-- A reader that goes on from what another one has found gives what it
gives from there. -/
theorem Gives.bind {middle : β → Prop} {reader : Decode β} {next : β → Decode α} (first : Gives reader middle)
    (second : ∀ value, middle value → Gives (next value) holds) : Gives (reader >>= next) holds := by
  intro document before value after read
  change (reader document before >>= fun read => next read.1 document read.2) = _ at read
  cases done : reader document before with
  | error fault =>
    rw [done] at read
    cases read
  | ok found =>
    rw [done] at read
    exact second found.1 (first document before found.1 found.2 done) document found.2 value after read

theorem gives_wrongType (item : Document.Item) (wanted : String) (path : List String) (mark : Mark) :
    Gives (wrongType item wanted path mark : Decode α) holds := by
  unfold wrongType
  split
  · split
    · exact gives_misfit _ path mark
    · exact gives_malformed
  · exact gives_misfit _ path mark
  · exact gives_misfit _ path mark
  · exact gives_malformed

/-- A node gives what its content gives. One that an alias repeats is read
by the same reader. -/
theorem gives_node {content : Document.Item → Mark → Decode α} (gives : ∀ item mark, Gives (content item mark) holds) :
    Gives (node content) holds := by
  refine (gives_any next).bind fun found _ => ?_
  split
  · refine (gives_any _).bind fun _ _ => (gives_any _).bind fun _ _ => (gives_any _).bind fun _ _ => ?_
    exact (gives _ _).bind fun value here => (gives_any _).bind fun _ _ => gives_pure here
  · exact gives _ _

section Mappings

variable {wantedKey : String} {path : List String}

/-- What every entry of a mapping preserves holds behind the last one. By
induction on the fuel, as the reader of entries calls itself. -/
theorem gives_entries {step : α → String → List String → Decode α}
    (gives : ∀ value key valuePath, holds value → Gives (step value key valuePath) holds) {value : α} (start : holds value)
    (fuel : Nat) : Gives (entries wantedKey path step fuel value) holds := by
  induction fuel generalizing value with
  | zero => exact gives_malformed
  | succ fuel ih =>
    refine (gives_any hasEntry).bind fun more _ => ?_
    split
    · refine (gives_any pathPart).bind fun part _ => (gives_any _).bind fun key _ => ?_
      exact (gives value key (path ++ [part]) start).bind fun _ here => ih here
    · exact gives_pure start

/-- What holds at first and is preserved by every entry holds of the
mapping. -/
theorem gives_mapping {wanted : String} {step : Mark → α → String → List String → Decode α}
    (gives : ∀ mark value key valuePath, holds value → Gives (step mark value key valuePath) holds) {initial : α}
    (start : holds initial) : Gives (mapping wanted wantedKey path initial step) holds := by
  refine gives_node fun item mark => ?_
  split
  · exact (gives_any _).bind fun _ _ => gives_entries (gives mark) start _
  · exact gives_pure start
  · exact gives_pure start
  · exact gives_wrongType item wanted path mark

end Mappings

/-- The units of a document are kept apart by their names, however often
a name comes again. A later setting takes the place of an earlier one
with the same name. -/
theorem gives_units (path : List String) : Gives (units path) fun settings => (settings.map Prod.fst).Nodup :=
  gives_mapping (fun _ _ name _ distinct => (gives_any _).bind fun skip _ => gives_pure (nodup_putEntry distinct name skip))
    List.nodup_nil

/-- Preferences that are read have every unit once. It holds of the draft
behind each entry, as a name that comes again replaces its setting in the
place that it had. -/
theorem gives_preferences : Gives Decode.preferences fun preferences => (preferences.units.map Prod.fst).Nodup := by
  let holds (draft : Draft) : Prop := ∀ settings, draft.units = some settings → (settings.map Prod.fst).Nodup
  refine @Gives.bind _ _ _ holds _ _ (gives_mapping (fun mark draft key path fresh => ?_) fun _ none => nomatch none)
    fun draft fresh => gives_pure ?_
  · split
    · split
      · exact gives_misfit _ _ mark
      · exact (gives_any _).bind fun _ _ => gives_pure fresh
    · split
      · split
        · exact gives_misfit _ _ mark
        · exact (gives_any _).bind fun _ _ => gives_pure fresh
      · split
        · split
          · exact gives_misfit _ _ mark
          · refine (gives_units path).bind fun settings distinct => gives_pure ?_
            intro others same
            exact Option.some.inj same ▸ distinct
        · exact (gives_any ignore).bind fun _ _ => gives_pure fresh
  · cases units : draft.units with
    | none =>
      rw [Draft.finish, units]
      exact List.nodup_nil
    | some settings =>
      rw [Draft.finish, units]
      exact fresh settings units

end Yaml.Decode

/-- No unit stands twice in preferences that a document is read as. This holds
of every document, also of those that no preferences were saved as. -/
theorem Yaml.Document.preferences_distinct {document : Document} {preferences : Preferences}
    (read : document.preferences = .ok preferences) : (preferences.units.map Prod.fst).Nodup := by
  rw [Document.preferences] at read
  change ((Prod.fst <$> Decode.preferences document ⟨document.items, 0⟩) >>= fun found =>
    if document.whole then pure found else throw .malformed) = _ at read
  cases done : Decode.preferences document ⟨document.items, 0⟩ with
  | error fault =>
    rw [done] at read
    cases read
  | ok found =>
    rw [done] at read
    change (if document.whole then .ok found.1 else .error Fault.malformed) = Except.ok preferences at read
    split at read
    · exact Except.ok.inj read ▸ Decode.gives_preferences document _ found.1 found.2 done
    · cases read

end CallCapture
