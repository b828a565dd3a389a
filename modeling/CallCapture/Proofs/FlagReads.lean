import CallCapture.Proofs.AloofCommands

namespace CallCapture

/-- A world with other values of all flags, under the same identities. It is
as if all live switches had been edited at once. -/
def World.withFlags (world : World) (flags : Store FlagsId Flags) : World := { world with flags := flags }

namespace Act

variable {α β : Type} {world : World} {flags : Store FlagsId Flags}

/-- With other flags the action comes to the same, and it leaves the same
world but for flags. The flags that are left may differ as they did before, or
otherwise: an action may edit them as well. -/
def Unaffected (action : Act α) (world : World) (flags : Store FlagsId Flags) : Prop :=
  ∃ left, action.run (world.withFlags flags) = (action.outcome world, (action.after world).withFlags left)

theorem Aloof.run_withFlags {action : Act α} (aloof : Aloof action) (world : World) (flags : Store FlagsId Flags) :
    action.run (world.withFlags flags) = (action.outcome world, (action.after world).withFlags flags) := by
  have kept : action.after world = (action.after world).switched world.flags world.asked world.environment :=
    congrArg Prod.snd (aloof world world.flags world.asked world.environment)
  have asked : (action.after world).asked = world.asked := (congrArg World.asked kept).trans rfl
  have environment : (action.after world).environment = world.environment := (congrArg World.environment kept).trans rfl
  refine (aloof world flags world.asked world.environment).trans ?_
  rw [← asked, ← environment]
  rfl

theorem Aloof.unaffected {action : Act α} (aloof : Aloof action) : Unaffected action world flags :=
  ⟨flags, aloof.run_withFlags world flags⟩

/-- The action is unaffected, or the flags have been told apart. What it is to
tell flags apart is left open here, and settled for the gates of scopes and
for some commands. -/
def UnlessApart (apart : Prop) (action : Act α) (world : World) (flags : Store FlagsId Flags) : Prop :=
  action.Unaffected world flags ∨ apart

variable {apart : Prop}

theorem Aloof.unlessApart {action : Act α} (aloof : Aloof action) : UnlessApart apart action world flags :=
  .inl aloof.unaffected

/-- Two actions in a row are unaffected, unless one of them has told the
flags apart. The second one begins with whatever flags the first one
leaves on both sides. -/
theorem UnlessApart.bind {action : Act α} {next : α → Act β} (first : UnlessApart apart action world flags)
    (rest : ∀ value left, action.run world = (.ok value, action.after world) →
      action.run (world.withFlags flags) = (.ok value, (action.after world).withFlags left) →
      UnlessApart apart (next value) (action.after world) left) : UnlessApart apart (action >>= next) world flags := by
  rcases first with ⟨left, ran⟩ | told
  · cases ended : action.outcome world with
    | error halt =>
      refine .inl ⟨left, ?_⟩
      rw [run_bind, ran, ended, outcome_bind_error ended, after_bind_error ended]
    | ok value =>
      rw [ended] at ran
      rcases rest value left (Prod.ext ended rfl) ran with ⟨last, behind⟩ | told
      · refine .inl ⟨last, ?_⟩
        rw [run_bind, ran, outcome_bind_ok ended, after_bind_ok ended]
        exact behind
      · exact .inr told
  · exact .inr told

theorem UnlessApart.attempt {action : Act α} (first : UnlessApart apart action world flags) :
    UnlessApart apart (attempt action) world flags := by
  refine first.imp_left fun ⟨left, ran⟩ => ⟨left, ?_⟩
  have attempted : (Act.attempt action).run (world.withFlags flags) =
    (.ok (action.run (world.withFlags flags)).1, (action.run (world.withFlags flags)).2) := rfl
  rw [attempted, ran]
  rfl

theorem UnlessApart.of_run {first second : Act α} {later : World} (ran : first.run world = second.run later)
    (also : first.run (world.withFlags flags) = second.run (later.withFlags flags))
    (behind : UnlessApart apart second later flags) : UnlessApart apart first world flags := by
  refine behind.imp_left fun ⟨left, ended⟩ => ⟨left, ?_⟩
  unfold outcome after at ended ⊢
  rw [also, ran, ended]

/-- The action is never affected. Most commands are blind, and so is all that
a scope does behind its gate. -/
def Blind (action : Act α) : Prop := ∀ world flags, action.Unaffected world flags

theorem Aloof.blind {action : Act α} (aloof : Aloof action) : Blind action := fun _ _ => aloof.unaffected

theorem Blind.bind {action : Act α} {next : α → Act β} (first : Blind action) (rest : ∀ value, Blind (next value)) :
    Blind (action >>= next) := by
  intro world flags
  have whole : UnlessApart False (action >>= next) world flags :=
    UnlessApart.bind (.inl (first world flags)) fun value left _ _ => .inl (rest value _ left)
  exact whole.resolve_right id

/-- To edit flags is no reading of them: what becomes of them is seen only by
those who read them. -/
theorem blind_changeFlags (name : String) (change : Flags → Flags) : Blind (changeFlags name change) :=
  (aloof_named _ _).blind.bind fun id _ flags => ⟨flags.put id (change (flags.get id)), rfl⟩

theorem blind_nameFlags (name : String) (values : Flags) : Blind (nameFlags name values) :=
  aloof_number.blind.bind fun number => Blind.bind (fun _ flags => ⟨flags.put ⟨number⟩ values, rfl⟩) fun _ =>
    ((aloof_rename _).bind fun _ => aloof_pure _).blind

theorem aloof_preferences (text : String) : Aloof (preferences text) :=
  (aloof_noteAll _).bind fun _ => aloof_orFail _

theorem blind_phase (oracle : Oracle) : Blind (phase oracle) := by
  cases oracle <;> exact fun _ flags => ⟨flags, rfl⟩

end Act

namespace Precompiler

variable {precompiler : Precompiler} {world : World} {flags : Store FlagsId Flags}

/-- A gate that opens or closes alike under both flags has asked alike, so the
worlds behind it differ in flags only. -/
theorem sampled_withFlags (same : precompiler.isOpen (world.withFlags flags) = precompiler.isOpen world) :
    precompiler.sampled (world.withFlags flags) = (precompiler.sampled world).withFlags flags := by
  unfold sampled gateRemarks
  rw [same, @Oracle.answer_of_eq world (world.withFlags flags) rfl rfl,
    @Oracle.counted_of_eq world (world.withFlags flags) rfl]
  rfl

end Precompiler

namespace Command

open Act

/-- Commands that look at flags, but not at the gate of a scope. They answer
with the flags, or take a copy of them. -/
def looksAtFlags : Command → Bool
  | flagState .. | shouldRun .. | snapshot .. | snapshotOf .. => true
  | _ => false

/-- Commands that go through the gate of a scope. They are judged by their
gate, like the forms that enter a scope. -/
def isGated : Command → Bool
  | isEnabled _ | beginCapture .. => true
  | _ => false

/-- A command that neither looks at flags nor passes a gate does the
same under any flags. Those that set flags are the only ones that need a
look of their own. -/
theorem blind {command : Command} (looks : command.looksAtFlags = false) (gated : command.isGated = false)
    (here : HostId) (thread : ThreadId) : Blind (command.run here thread) := by
  cases minds : command.mindsSwitches with
  | false => exact (command.aloof minds here thread).blind
  | true =>
    unfold Command.run
    cases command with
    | newFlags name => exact blind_nameFlags name _
    | flagsOfText name text => exact (aloof_preferences text).blind.bind fun _ => blind_nameFlags name _
    | reloadFlags name text => exact (aloof_preferences text).blind.bind fun _ => blind_changeFlags name _
    | setForceRun name on => exact blind_changeFlags name _
    | setVerbose name on => exact blind_changeFlags name _
    | setSkip name unit on => exact blind_changeFlags name _
    | setVariable name value => exact fun _ flags => ⟨flags, rfl⟩
    | askPhase form =>
      refine (aloof_oracle form).blind.bind fun oracle => (blind_phase oracle).bind fun answer => ?_
      exact ((aloof_orFail answer).bind fun _ => aloof_pure _).blind
    | flagState | shouldRun | snapshot | snapshotOf => cases looks
    | isEnabled | beginCapture => cases gated
    | _ => cases minds

end Command

end CallCapture
