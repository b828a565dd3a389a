import CallCapture.Proofs.Commands
import CallCapture.Proofs.DecodedUnits
import CallCapture.Proofs.Reach

namespace CallCapture

/-- One switch is set, in preferences or live. The same edit can be made in
both, which is what makes the two comparable. -/
inductive FlagEdit where
  | forceRun (on : Bool)
  | verbose (on : Bool)
  | skip (unit : String) (on : Bool)
  deriving DecidableEq, Inhabited

namespace FlagEdit

/-- Preferences behind an edit. They keep what every unit was set to. A unit
that is opted in again stays in them, with its setting. -/
def revise (preferences : Preferences) : FlagEdit → Preferences
  | forceRun on => { preferences with forceRun := on }
  | verbose on => { preferences with verbose := on }
  | skip unit on => preferences.setSkipCapture unit on

/-- Live switches behind an edit. They keep only the units that opted out. A
unit that is opted in again is no longer among them. -/
def change (flags : Flags) : FlagEdit → Flags
  | forceRun on => { flags with forceRun := on }
  | verbose on => { flags with verbose := on }
  | skip unit on => flags.setSkipCapture unit on

/-- The command for an edit of the live switches called `name`. A command
finds the switches by their name when it is run. -/
def command (name : String) : FlagEdit → Command
  | forceRun on => .setForceRun name on
  | verbose on => .setVerbose name on
  | skip unit on => .setSkip name unit on

theorem run_command (edit : FlagEdit) (name : String) (here : HostId) (thread : ThreadId) :
    (edit.command name).run here thread = Act.changeFlags name edit.change := by
  cases edit <;> rfl

theorem distinct_revise {preferences : Preferences} (edit : FlagEdit)
    (distinct : (preferences.units.map Prod.fst).Nodup) : ((edit.revise preferences).units.map Prod.fst).Nodup := by
  cases edit with
  | forceRun on => exact distinct
  | verbose on => exact distinct
  | skip unit on => exact nodup_putEntry distinct unit on

theorem distinct_revised {preferences : Preferences} (edits : List FlagEdit)
    (distinct : (preferences.units.map Prod.fst).Nodup) :
    ((edits.foldl revise preferences).units.map Prod.fst).Nodup := by
  induction edits generalizing preferences with
  | nil => exact distinct
  | cons edit edits ih => exact ih (edit.distinct_revise distinct)

end FlagEdit

/-- With distinct keys every entry is the one that a lookup finds. By
induction on the entries: a key that is met first cannot be met again. -/
theorem lookup_of_mem {α : Type} {entries : List (String × α)} (distinct : (entries.map Prod.fst).Nodup) {name : String}
    {value : α} (member : (name, value) ∈ entries) : entries.lookup name = some value := by
  induction entries with
  | nil => cases member
  | cons entry rest ih =>
    obtain ⟨key, found⟩ := entry
    obtain ⟨new, distinct⟩ := List.nodup_cons.mp distinct
    rw [lookup_cons_pair]
    rcases List.mem_cons.mp member with same | later
    · cases same
      exact if_pos rfl
    · have apart : name ≠ key := fun same => new (List.mem_map.mpr ⟨(name, value), later, same⟩)
      rw [if_neg apart]
      exact ih distinct later

namespace Flags

/-- The switches say what the preferences say, of every unit. It speaks of
every unit, also of those that neither mentions. -/
structure Mirrors (flags : Flags) (preferences : Preferences) : Prop where
  forceRun : flags.forceRun = preferences.forceRun
  verbose : flags.verbose = preferences.verbose
  skips : ∀ unit, flags.skipCapture unit = preferences.skipCapture unit

/-- Switches that are made from preferences say what these say, if no unit
stands in them twice. -/
theorem mirrors_ofPreferences {preferences : Preferences} (distinct : (preferences.units.map Prod.fst).Nodup) :
    (ofPreferences preferences).Mirrors preferences where
  forceRun := rfl
  verbose := rfl
  skips unit := by
    have listed : unit ∈ (ofPreferences preferences).skipped ↔ (unit, true) ∈ preferences.units := by
      simp [ofPreferences]
    rw [skipCapture, Preferences.skipCapture, Bool.eq_iff_iff, List.contains_iff_mem, listed]
    constructor
    · intro member
      rw [lookup_of_mem distinct member]
      rfl
    · intro skipped
      cases found : preferences.units.lookup unit with
      | none =>
        rw [found] at skipped
        cases skipped
      | some skip =>
        rw [found, Option.getD_some] at skipped
        exact skipped ▸ mem_of_lookup found

/-- An edit comes to the same in both: a unit that is opted in again is taken
off the list of the switches, and has a setting of its own in the preferences.
This is where the two ways of keeping a setting are compared. -/
theorem Mirrors.edit {flags : Flags} {preferences : Preferences} (mirrors : flags.Mirrors preferences)
    (edit : FlagEdit) : (edit.change flags).Mirrors (edit.revise preferences) := by
  cases edit with
  | forceRun on => exact { mirrors with forceRun := rfl }
  | verbose on => exact { mirrors with verbose := rfl }
  | skip unit on =>
    refine { mirrors with skips := fun other => ?_ }
    simp only [FlagEdit.change, FlagEdit.revise, skipCapture_setSkipCapture, Preferences.skipCapture_setSkipCapture,
      mirrors.skips]

theorem Mirrors.edits {flags : Flags} {preferences : Preferences} (mirrors : flags.Mirrors preferences)
    (edits : List FlagEdit) : (edits.foldl FlagEdit.change flags).Mirrors (edits.foldl FlagEdit.revise preferences) := by
  induction edits generalizing flags preferences with
  | nil => exact mirrors
  | cons edit edits ih => exact ih (mirrors.edit edit)

/-- Switches are the same if they agree on both flags and on every unit. The
order in which units have opted out does not count. -/
theorem same_iff {flags other : Flags} :
    flags.same other = true ↔ flags.forceRun = other.forceRun ∧ flags.verbose = other.verbose ∧
      ∀ unit, flags.skipCapture unit = other.skipCapture unit := by
  simp only [same, Bool.and_eq_true, beq_iff_eq, List.all_eq_true, and_assoc]
  refine and_congr_right fun _ => and_congr_right fun _ => ⟨fun ⟨here, there⟩ unit => ?_, fun alike => ⟨?_, ?_⟩⟩
  · rw [Bool.eq_iff_iff]
    exact ⟨fun skipped => here unit (List.contains_iff_mem.mp skipped),
      fun skipped => there unit (List.contains_iff_mem.mp skipped)⟩
  · exact fun unit member => (alike unit).symm.trans (List.contains_iff_mem.mpr member)
  · exact fun unit member => (alike unit).trans (List.contains_iff_mem.mpr member)

theorem Mirrors.same {flags other : Flags} {preferences : Preferences} (mirrors : flags.Mirrors preferences)
    (also : other.Mirrors preferences) : flags.same other = true :=
  same_iff.mpr ⟨mirrors.forceRun.trans also.forceRun.symm, mirrors.verbose.trans also.verbose.symm,
    fun unit => (mirrors.skips unit).trans (also.skips unit).symm⟩

end Flags

/-- What is done to live switches that have a name: one of them is edited,
or all are reloaded. A reload sets them as a whole, in one step that nobody
can come between. -/
inductive FlagUpdate where
  | edited (edit : FlagEdit)
  | reloaded (preferences : Preferences)
  deriving Inhabited

namespace FlagUpdate

/-- Live switches behind an update. A reload leaves nothing of what
they were. The edits before it are lost, and those behind it start
from the preferences. -/
def change (flags : Flags) : FlagUpdate → Flags
  | edited edit => edit.change flags
  | reloaded preferences => .ofPreferences preferences

/-- The action for an update of the live switches called `name`. Either is
done as the session does it, with what it says in the log. -/
def run (here : HostId) (thread : ThreadId) (name : String) : FlagUpdate → Act Value
  | edited edit => (edit.command name).run here thread
  | reloaded preferences => Act.reload name preferences

/-- An update changes the switches that the name stands for, and nothing
else. -/
theorem run_eq (update : FlagUpdate) (here : HostId) (thread : ThreadId) (name : String) :
    update.run here thread name = Act.changeFlags name update.change := by
  cases update with
  | edited edit => exact edit.run_command name here thread
  | reloaded preferences => rfl

end FlagUpdate

/-- The live switches of an identity are set. -/
def World.settingFlags (world : World) (id : FlagsId) (values : Flags) : World :=
  { world with flags := world.flags.put id values }

theorem World.get_settingFlags (world : World) (id : FlagsId) (values : Flags) :
    (world.settingFlags id values).flags.get id = values := by
  rw [settingFlags, Store.get_put, if_pos rfl]

namespace Act

variable {here : HostId} {thread : ThreadId} {world : World} {name : String}

/-- Live switches are updated, one after the other. Updates of several
switches may be mixed, as each is done by name. -/
def updateFlags (here : HostId) (thread : ThreadId) (updates : List (String × FlagUpdate)) : Act Unit :=
  updates.forM fun update => discard (update.2.run here thread update.1)

/-- A change of switches is seen by everything that they belong to, as they
keep their identity. -/
theorem run_changeFlags {id : FlagsId} (known : world.names.flags.lookup name = some id) (change : Flags → Flags) :
    (changeFlags name change).run world =
      (.ok .null, world.settingFlags id (change (world.flags.get id))) := by
  unfold changeFlags flagsNamed
  rw [run_bind, run_named, known]
  rfl

theorem names_changeFlags (name : String) (change : Flags → Flags) (world : World) :
    ((changeFlags name change).after world).names = world.names := by
  unfold after
  cases known : world.names.flags.lookup name with
  | some id =>
    rw [run_changeFlags known]
    rfl
  | none =>
    unfold changeFlags flagsNamed
    rw [run_bind, run_named, known]
    rfl

theorem names_updateFlags (updates : List (String × FlagUpdate)) :
    ((updateFlags here thread updates).after world).names = world.names := by
  induction updates generalizing world with
  | nil => rfl
  | cons update updates ih =>
    have first : ((discard (update.2.run here thread update.1)).after world).names = world.names := by
      rw [after_discard, FlagUpdate.run_eq, names_changeFlags]
    unfold updateFlags
    rw [List.forM_eq_forM, List.forM_cons, after_bind]
    split
    · exact ih.trans first
    · exact first

/-- Updates of the switches of one name succeed, and leave the
switches behind all of them. Nothing that an update does can keep the
next one from being done. -/
theorem updateFlags_known {id : FlagsId} (known : world.names.flags.lookup name = some id) (updates : List FlagUpdate) :
    (updateFlags here thread (updates.map fun update => (name, update))).outcome world = .ok () ∧
      ((updateFlags here thread (updates.map fun update => (name, update))).after world).flags.get id =
        updates.foldl FlagUpdate.change (world.flags.get id) := by
  induction updates generalizing world with
  | nil => exact ⟨rfl, rfl⟩
  | cons update updates ih =>
    have ran := run_changeFlags known update.change
    have ended : (discard (update.run here thread name)).outcome world = .ok () := by
      rw [outcome_discard, FlagUpdate.run_eq, outcome, ran]
      rfl
    have left : (discard (update.run here thread name)).after world =
        world.settingFlags id (update.change (world.flags.get id)) := by
      rw [after_discard, FlagUpdate.run_eq, after, ran]
    have behind := @ih (world.settingFlags id (update.change (world.flags.get id))) known
    rw [World.get_settingFlags] at behind
    unfold updateFlags
    rw [List.map_cons, List.forM_eq_forM, List.forM_cons, outcome_bind_ok ended, after_bind_ok ended, left]
    exact behind

end Act

/-- Behind the action, `shot` stands for the switches that are `taken` from
those called `name`. What is shown is a snapshot, as live switches have to be
looked at through one. -/
def Act.Shows {α : Type} (action : Act α) (here : HostId) (thread : ThreadId) (name shot : String) (world : World)
    (taken : Flags) : Prop :=
  (action >>= fun _ => (Command.snapshot shot name).run here thread).outcome world = .ok .null ∧
    ((action >>= fun _ => (Command.snapshot shot name).run here thread).after world).names.snapshots.lookup shot =
      some taken

namespace Act

variable {α : Type} {here : HostId} {thread : ThreadId} {world : World} {name : String}

/-- A snapshot is a copy of the switches as they are now. It has no
identity. -/
theorem run_snapshot {id : FlagsId} (known : world.names.flags.lookup name = some id) (shot : String) :
    ((Command.snapshot shot name).run here thread).run world =
      (.ok .null, { world with names :=
        { world.names with snapshots := putEntry world.names.snapshots shot (world.flags.get id) } }) := by
  unfold Command.run flagsNamed
  rw [run_bind, run_named, known]
  rfl

theorem Shows.of_ended {action : Act α} {id : FlagsId} {value : α} {taken : Flags} (shot : String)
    (ended : action.outcome world = .ok value) (known : (action.after world).names.flags.lookup name = some id)
    (values : (action.after world).flags.get id = taken) : Shows action here thread name shot world taken := by
  have ran := @run_snapshot here thread _ _ _ known shot
  refine ⟨?_, ?_⟩
  · rw [outcome_bind_ok ended, outcome, ran]
  · rw [after_bind_ok ended, after, ran, ← values]
    exact (lookup_putEntry _ _ _ _).trans (if_pos rfl)

/-- A reload shows what is edited in behind it, and nothing of what was there
before. What the switches were before does not appear in it. -/
theorem reloading_shows {id : FlagsId} (known : world.names.flags.lookup name = some id) (preferences : Preferences)
    (edits : List FlagEdit) (shot : String) :
    Shows (updateFlags here thread ((name, .reloaded preferences) :: edits.map fun edit => (name, .edited edit)))
      here thread name shot world (edits.foldl FlagEdit.change (.ofPreferences preferences)) := by
  let updates : List FlagUpdate := .reloaded preferences :: edits.map .edited
  have listed : ((name, .reloaded preferences) :: edits.map fun edit => (name, .edited edit)) =
      updates.map fun update => (name, update) := by
    simp only [updates, List.map_cons, List.map_map]
    rfl
  obtain ⟨ended, values⟩ := @updateFlags_known here thread _ _ _ known updates
  rw [listed]
  refine .of_ended shot ended (by rw [names_updateFlags, known]) (values.trans ?_)
  rw [List.foldl_cons, List.foldl_map]
  rfl

theorem making_shows (values : Flags) (shot : String) :
    Shows (nameFlags name values) here thread name shot world values := by
  refine @Shows.of_ended _ here thread world name _ ⟨world.fresh⟩ .null values shot rfl ?_ ?_
  · exact (lookup_putEntry _ _ _ _).trans (if_pos rfl)
  · exact (Store.get_put _ _ _ _).trans (if_pos rfl)

end Act

open Act FlagEdit in
/-- Reloading preferences and then editing the live switches shows the same as
reloading the edited preferences, and the same as switches that are made from
these: whatever the switches were before, each unit is skipped if and only if
the edited preferences skip it. A snapshot stays as it was taken, whatever is
updated behind it. -/
theorem edited_flags_mirror_preferences {world : World} {name : String} {id : FlagsId}
    (known : world.names.flags.lookup name = some id) {preferences : Preferences}
    (distinct : (preferences.units.map Prod.fst).Nodup) (edits : List FlagEdit) (here : HostId) (thread : ThreadId)
    (shot : String) :
    let edited := edits.foldl revise preferences
    (∃ live again new : Flags,
      Shows (updateFlags here thread ((name, .reloaded preferences) :: edits.map fun edit => (name, .edited edit)))
        here thread name shot world live ∧
      Shows (updateFlags here thread [(name, .reloaded edited)]) here thread name shot world again ∧
      Shows (nameFlags name (.ofPreferences edited)) here thread name shot world new ∧
      live.same again = true ∧ live.same new = true ∧
      live.forceRun = edited.forceRun ∧ live.verbose = edited.verbose ∧
      ∀ unit, live.skipCapture unit = edited.skipCapture unit) ∧
    ∀ updates : List (String × FlagUpdate),
      let snapped := ((Command.snapshot shot name).run here thread).after world
      snapped.names.snapshots.lookup shot = some (world.flags.get id) ∧
        ((updateFlags here thread updates).after snapped).names.snapshots = snapped.names.snapshots := by
  intro edited
  have live : (edits.foldl FlagEdit.change (.ofPreferences preferences)).Mirrors edited :=
    (Flags.mirrors_ofPreferences distinct).edits edits
  have again : (Flags.ofPreferences edited).Mirrors edited :=
    Flags.mirrors_ofPreferences (distinct_revised edits distinct)
  constructor
  · exact ⟨_, _, _, reloading_shows known preferences edits shot, reloading_shows known edited [] shot,
      making_shows (.ofPreferences edited) shot, live.same again, live.same again, live.forceRun, live.verbose, live.skips⟩
  · intro updates snapped
    refine ⟨?_, by rw [names_updateFlags]⟩
    have ran : snapped = _ := congrArg Prod.snd (run_snapshot known shot)
    rw [ran]
    exact (lookup_putEntry _ _ _ _).trans (if_pos rfl)

namespace Session

/-- The switches of the prepared session have been verbose, with
one unit opted out. -/
def outdated : World := prepared.settingFlags ⟨1⟩ { verbose := true, skipped := ["plots"] }

/-- Two units have settings of their own. One is to be skipped, and
the other is not. -/
def twoUnits : Preferences := { units := [("solver", true), ("mesh", false)] }

/-- Both units are switched over and back, and one switch is set in between.
The last edit of a unit is the one that counts. -/
def toggles : List FlagEdit :=
  [.skip "solver" false, .skip "mesh" true, .forceRun true, .skip "solver" true, .skip "mesh" false]

theorem outdated_flags_reloaded : ∃ live : Flags,
    Act.Shows (Act.updateFlags firstHost mainThread (("flags", .reloaded twoUnits) ::
      toggles.map fun edit => ("flags", .edited edit))) firstHost mainThread "flags" "shot" outdated live ∧
    live.forceRun = true ∧ live.verbose = false ∧
    ["plots", "solver", "mesh"].map live.skipCapture = [false, true, false] := by
  have known : outdated.names.flags.lookup "flags" = some ⟨1⟩ := rfl
  have distinct : (twoUnits.units.map Prod.fst).Nodup := by decide
  have mirrored := edited_flags_mirror_preferences known distinct toggles firstHost mainThread "shot"
  obtain ⟨⟨live, _, _, shows, _, _, _, _, forceRun, verbose, skips⟩, _⟩ := mirrored
  refine ⟨live, shows, forceRun, verbose, ?_⟩
  simp only [List.map_cons, List.map_nil, skips]
  decide

end Session

end CallCapture
