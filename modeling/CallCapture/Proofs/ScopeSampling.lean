import CallCapture.Proofs.Rests
import Mathlib.Logic.Relation

namespace CallCapture

open Act

namespace Act

/-- A guard is held under a name, and what was held under it is dropped. It
is what a capture by name does behind its gate, with the naming of the
guard as a part of it. -/
def holdGuard (name : String) (guard : Guard) : Act Value := do
  note (.held (guard.holding name))
  let replaced ← takeGuard name
  rename fun names => { names with guards := putEntry names.guards name guard }
  match replaced with
  | none => pure ()
  | some old => dropNamed name old
  match guard.nesting with
  | .outermost => return .text "outermost"
  | .nested _ => return .text "nested"

/-- To hold a guard has nothing to do with flags, also where another one
is dropped for it. -/
theorem aloof_holdGuard (name : String) (guard : Guard) : Aloof (holdGuard name guard) := by
  have answers : Aloof (match guard.nesting with
      | .outermost => pure (.text "outermost")
      | .nested _ => pure (.text "nested") : Act Value) := by
    cases guard.nesting <;> exact aloof_pure _
  refine (aloof_note _).bind fun _ => (aloof_takeGuard name).bind fun replaced => (aloof_rename _).bind fun _ => ?_
  cases replaced with
  | none => exact (aloof_pure ()).bind fun _ => answers
  | some old => exact (aloof_dropNamed name old).bind fun _ => answers

theorem run_precompilerNamed_unknown {α : Type} {name : String} {world : World}
    (unknown : world.names.precompilers.lookup name = none) (next : Precompiler → Act α) :
    (precompilerNamed name >>= next).run world = (.error (.unbound name), world) := by
  unfold precompilerNamed
  rw [run_bind, run_named, unknown]
  rfl

end Act

/-- The ways into a scope: a form is evaluated in it, a capture is
begun in it, or it is asked whether it is open. All of them go through
the same gate, once. -/
inductive Entry where
  | compile (body : Form)
  | setup (body : Form)
  | guarded (body : Form)
  | capture (guardName : String)
  | enabled

namespace Entry

/-- The form by which a scope is entered so. The scope is found by the name
of its precompiler. -/
def form (name : String) : Entry → Form
  | compile body => .compile name body
  | setup body => .setup name body
  | guarded body => .guarded name body
  | capture guardName => .command (.beginCapture name guardName)
  | enabled => .command (.isEnabled name)

/-- What comes of a closed gate. Nothing else of a scope is seen from outside
then. Whoever asks whether the scope is open is told that it is not. -/
def refusal : Entry → Value
  | enabled => .bool false
  | _ => .text "gated"

/-- A capture takes its verbosity along from the gate; a setup and
a question do not. -/
def isCapture : Entry → Bool
  | setup _ | enabled => false
  | _ => true

variable {limit fuel : Nat} (below : fuel < limit) (context : Context) (precompiler : Precompiler) (verbose : Bool)

/-- What a capture does behind its gate before its body, as a step of
its own. It has nothing to do with flags and oracles, which the gate
has read by then. -/
def claiming : Rest limit Guard :=
  .step (precompiler.claim verbose context.thread) (precompiler.aloof_claim verbose context.thread)

/-- What is done behind an open gate. The scope itself has nothing to do with
flags and oracles any more; of the flags at its gate a capture takes along
whether it is verbose. It is made of parts that know no flags and of the body,
which may do anything. -/
def rest : Entry → Rest limit Value
  | compile body => (claiming context precompiler verbose).bind fun guard =>
      (Rest.part below context body).attempt.bind fun outcome =>
        .step (Context.finishWorkload guard outcome) (Context.aloof_finishWorkload guard outcome)
  | setup body => Rest.single below context body fun value => .array [.text "ran", value]
  | guarded body => (claiming context precompiler verbose).bind fun guard =>
      (Rest.part below context body).attempt.bind fun
        | .ok value => (Rest.step _ guard.aloof_disarm).bind fun report =>
            .pass (.array [value, Report.toValue? report])
        | .error halt => (Rest.step _ guard.aloof_drop).bind fun _ => .step (throw halt) (aloof_throw halt)
  | capture guardName => (claiming context precompiler verbose).bind fun guard =>
      .step (holdGuard guardName guard) (aloof_holdGuard guardName guard)
  | enabled => .pass (.bool true)

variable {verbose} in
theorem rest_congr {other : Bool} {entry : Entry} (same : entry.isCapture = true → other = verbose) :
    entry.rest below context precompiler other = entry.rest below context precompiler verbose := by
  cases entry with
  | setup body => rfl
  | enabled => rfl
  | compile | guarded | capture => rw [same rfl]

variable {precompiler} {name : String} {world : World}

theorem run_unknown (unknown : world.names.precompilers.lookup name = none) (fuel : Nat) (entry : Entry) :
    (eval (fuel + 1) context (entry.form name)).run world = (.error (.unbound name), world) := by
  cases entry <;> exact run_precompilerNamed_unknown unknown _

/-- At a closed gate every way ends with its refusal, and the gate
has been asked once. -/
theorem run_closed (known : world.names.precompilers.lookup name = some precompiler)
    (closed : precompiler.isOpen world = false) (fuel : Nat) (entry : Entry) :
    (eval (fuel + 1) context (entry.form name)).run world = (.ok entry.refusal, precompiler.sampled world) := by
  cases entry with
  | compile body => exact (run_precompilerNamed_bind known _).trans (Context.compile_run_closed closed _ body)
  | setup body => exact (run_precompilerNamed_bind known _).trans (Context.setup_run_closed closed _ body)
  | guarded body => exact (run_precompilerNamed_bind known _).trans (Context.guarded_run_closed closed _ body)
  | capture guardName =>
    refine (run_precompilerNamed_bind known _).trans ?_
    rw [run_bind, Precompiler.beginCapture_run_closed closed]
    rfl
  | enabled =>
    refine (run_precompilerNamed_bind known _).trans ?_
    rw [run_bind, Precompiler.gate_run, closed]
    rfl

/-- Behind an open gate every way goes on with its rest, and the gate
has been asked once. -/
theorem run_open (known : world.names.precompilers.lookup name = some precompiler)
    (opened : precompiler.isOpen world = true) (entry : Entry) :
    (eval (fuel + 1) context (entry.form name)).run world =
      (entry.rest below context precompiler (world.flags.get precompiler.flags).verbose).act.run
        (precompiler.sampled world) := by
  cases entry with
  | compile body =>
    exact (run_precompilerNamed_bind known _).trans (Precompiler.beginCapture_bind_open opened context.thread _)
  | setup body =>
    refine ((run_precompilerNamed_bind known _).trans (Context.setup_run_open opened (eval fuel) body)).trans ?_
    rw [map_eq_pure_bind]
    rfl
  | guarded body =>
    refine ((run_precompilerNamed_bind known _).trans
      (Precompiler.beginCapture_bind_open opened context.thread _)).trans ?_
    refine congrArg (fun action : Act Value => action.run _) (bind_congr fun guard => bind_congr fun outcome => ?_)
    cases outcome <;> rfl
  | capture guardName =>
    exact (run_precompilerNamed_bind known _).trans (Precompiler.beginCapture_bind_open opened context.thread _)
  | enabled =>
    refine (run_precompilerNamed_bind known _).trans ?_
    rw [run_bind, Precompiler.gate_run, if_pos opened]
    rfl

end Entry

namespace Evaluation

variable {evaluation : Evaluation} {flags left : Store FlagsId Flags}

/-- The evaluations that an evaluation comes to next: those of what a form is
made of, and those behind the gate of a scope. They are the only places from
which flags could be looked at again. -/
inductive Part : Evaluation → Evaluation → Prop
  | within {fuel context form rest world part} : Rest.ofForm? (Nat.lt_succ_self fuel) context form = some rest →
      rest.ComesTo world part → Part ⟨fuel + 1, context, form, world⟩ part
  | behind {fuel context name world precompiler part} (entry : Entry) :
      world.names.precompilers.lookup name = some precompiler → precompiler.isOpen world = true →
      (entry.rest (Nat.lt_succ_self fuel) context precompiler (world.flags.get precompiler.flags).verbose).ComesTo
        (precompiler.sampled world) part →
      Part ⟨fuel + 1, context, entry.form name, world⟩ part

/-- Flags make a difference where they are looked at: a gate is open with the
one and closed with the others, or lets a capture pass that is verbose with
the one and quiet with the others; or a command that looks at flags comes to
something else. Nothing else in a run depends on flags. -/
inductive TellsApart (evaluation : Evaluation) (flags : Store FlagsId Flags) : Prop
  | gate {entry : Entry} {name precompiler} : evaluation.form = entry.form name →
      evaluation.world.names.precompilers.lookup name = some precompiler →
      precompiler.isOpen (evaluation.world.withFlags flags) ≠ precompiler.isOpen evaluation.world →
      TellsApart evaluation flags
  | verbosity {entry : Entry} {name precompiler} : evaluation.form = entry.form name → entry.isCapture = true →
      evaluation.world.names.precompilers.lookup name = some precompiler →
      precompiler.isOpen evaluation.world = true → precompiler.isOpen (evaluation.world.withFlags flags) = true →
      (flags.get precompiler.flags).verbose ≠ (evaluation.world.flags.get precompiler.flags).verbose →
      TellsApart evaluation flags
  | read {command} : evaluation.form = .command command → command.looksAtFlags = true →
      ¬ (command.run evaluation.context.host evaluation.context.thread).Unaffected evaluation.world flags →
      TellsApart evaluation flags

/-- With either flags the evaluation comes to one that tells them apart, in
the same world but for flags. Up to that evaluation, everything has been
the same with both. -/
def ToldApart (evaluation : Evaluation) (flags : Store FlagsId Flags) : Prop :=
  ∃ point left, Relation.ReflTransGen Part evaluation point ∧
    Relation.ReflTransGen Part (evaluation.withFlags flags) (point.withFlags left) ∧ point.TellsApart left

theorem TellsApart.toldApart (tells : evaluation.TellsApart flags) : evaluation.ToldApart flags :=
  ⟨evaluation, flags, .refl, .refl, tells⟩

theorem ToldApart.of_part {part : Evaluation} (first : evaluation.Part part)
    (also : (evaluation.withFlags flags).Part (part.withFlags left)) (told : part.ToldApart left) :
    evaluation.ToldApart flags := by
  obtain ⟨point, last, comes, comesAlso, tells⟩ := told
  exact ⟨point, last, comes.head first, comesAlso.head also, tells⟩

variable {fuel : Nat} {context : Context} {world : World}

variable (inside : ∀ (part : Evaluation) left, part.fuel < fuel + 1 →
  UnlessApart (part.ToldApart left) (eval part.fuel part.context part.form) part.world left)

include inside in
/-- The flags open the gate of a scope, and so do the others. If the verbosity
at the gate is the same as well, what is behind it is the same rest. -/
theorem open_unlessApart {precompiler : Precompiler} {name : String}
    (known : world.names.precompilers.lookup name = some precompiler)
    (same : precompiler.isOpen (world.withFlags flags) = precompiler.isOpen world)
    (opened : precompiler.isOpen world = true) (entry : Entry) :
    UnlessApart (ToldApart ⟨fuel + 1, context, entry.form name, world⟩ flags)
      (eval (fuel + 1) context (entry.form name)) world flags := by
  by_cases differs : entry.isCapture = true ∧
      (flags.get precompiler.flags).verbose ≠ (world.flags.get precompiler.flags).verbose
  · exact .inr (TellsApart.verbosity rfl differs.1 known opened (same.trans opened) differs.2).toldApart
  · have alike := Entry.rest_congr (Nat.lt_succ_self fuel) context precompiler fun captures =>
      not_not.mp fun other => differs ⟨captures, other⟩
    have entered := entry.run_open (Nat.lt_succ_self fuel) context known opened
    have entersAlso := @Entry.run_open _ _ (Nat.lt_succ_self fuel) context precompiler name (world.withFlags flags)
      known (same.trans opened) entry
    change (eval (fuel + 1) context (entry.form name)).run _ =
      (entry.rest _ context precompiler (flags.get precompiler.flags).verbose).act.run _ at entersAlso
    rw [alike, Precompiler.sampled_withFlags same] at entersAlso
    refine .of_run entered entersAlso (Rest.unlessApart _ _ flags fun part left below comes also => ?_)
    have partAlso : (entry.rest (Nat.lt_succ_self fuel) context precompiler
        (flags.get precompiler.flags).verbose).ComesTo (precompiler.sampled (world.withFlags flags))
          (part.withFlags left) := by
      rw [alike, Precompiler.sampled_withFlags same]
      exact also
    exact (inside part left below).imp_right
      (ToldApart.of_part (.behind entry known opened comes) (.behind entry known (same.trans opened) partAlso))

include inside in
/-- A way into a scope is unaffected by flags, unless its own gate tells them
apart or its rest comes to an evaluation that does. This is where it is used
that the gate is sampled once. -/
theorem entry_unlessApart (entry : Entry) (name : String) :
    UnlessApart (ToldApart ⟨fuel + 1, context, entry.form name, world⟩ flags)
      (eval (fuel + 1) context (entry.form name)) world flags := by
  cases known : world.names.precompilers.lookup name with
  | none =>
    have halts (flags) := @Entry.run_unknown context name (world.withFlags flags) known fuel entry
    exact .of_run (halts world.flags) (halts flags) (aloof_throw (.unbound name)).unlessApart
  | some precompiler =>
    by_cases same : precompiler.isOpen (world.withFlags flags) = precompiler.isOpen world
    · cases opened : precompiler.isOpen world with
      | false =>
        have refused := @Entry.run_closed context precompiler name (world.withFlags flags) known
          (same.trans opened) fuel entry
        rw [Precompiler.sampled_withFlags same] at refused
        exact .of_run (entry.run_closed context known opened fuel) refused (aloof_pure entry.refusal).unlessApart
      | true => exact open_unlessApart inside known same opened entry
    · exact .inr (TellsApart.gate rfl known same).toldApart

theorem command_unlessApart {command : Command} (gated : command.isGated = false) :
    UnlessApart (ToldApart ⟨fuel + 1, context, .command command, world⟩ flags)
      (eval (fuel + 1) context (.command command)) world flags := by
  cases looks : command.looksAtFlags with
  | false => exact .inl (command.blind looks gated context.host context.thread world flags)
  | true =>
    by_cases same : (command.run context.host context.thread).Unaffected world flags
    · exact .inl same
    · have tells : TellsApart ⟨fuel + 1, context, .command command, world⟩ flags := .read rfl looks same
      exact .inr tells.toldApart

/-- What flags do to an evaluation, they do because it comes to a gate, or to
a command, that tells them apart. By induction on the fuel, with the ways into
a scope apart from the other forms. -/
theorem eval_unlessApart (fuel : Nat) (context : Context) (form : Form) (world : World)
    (flags : Store FlagsId Flags) :
    UnlessApart (ToldApart ⟨fuel, context, form, world⟩ flags) (eval fuel context form) world flags := by
  induction fuel using Nat.strongRecOn generalizing context form world flags with
  | ind fuel ih =>
    cases fuel with
    | zero => exact (aloof_throw .exhausted).unlessApart
    | succ fuel =>
      have inside (part : Evaluation) left (below : part.fuel < fuel + 1) :
          UnlessApart (part.ToldApart left) (eval part.fuel part.context part.form) part.world left :=
        ih part.fuel below part.context part.form part.world left
      cases made : Rest.ofForm? (Nat.lt_succ_self fuel) context form with
      | some rest =>
        rw [Rest.eval_eq_act _ _ made]
        refine rest.unlessApart world flags fun part left below comes also => ?_
        exact (inside part left below).imp_right (ToldApart.of_part (.within made comes) (.within made also))
      | none =>
        cases form with
        | compile name body => exact entry_unlessApart inside (.compile body) name
        | setup name body => exact entry_unlessApart inside (.setup body) name
        | guarded name body => exact entry_unlessApart inside (.guarded body) name
        | command command =>
          cases gated : command.isGated with
          | false => exact command_unlessApart gated
          | true =>
            cases command with
            | isEnabled name => exact entry_unlessApart inside .enabled name
            | beginCapture name guardName => exact entry_unlessApart inside (.capture guardName) name
            | _ => cases gated
        | _ => cases made

end Evaluation

/-- The rest of a run comes to an evaluation that comes to one that
tells the flags apart. -/
def Rest.ToldApart {limit : Nat} {α : Type} (rest : Rest limit α) (world : World) (flags : Store FlagsId Flags) : Prop :=
  ∃ evaluation left, rest.ComesTo world evaluation ∧
    rest.ComesTo (world.withFlags flags) (evaluation.withFlags left) ∧ evaluation.ToldApart left

/-- What flags do to any rest of a run, they do because it comes to a gate, or
to a command, that tells them apart. -/
theorem Rest.act_unlessApart {limit : Nat} {α : Type} (rest : Rest limit α) (world : World)
    (flags : Store FlagsId Flags) : UnlessApart (rest.ToldApart world flags) rest.act world flags := by
  refine rest.unlessApart world flags fun evaluation left _ comes also => ?_
  refine (Evaluation.eval_unlessApart _ _ _ _ left).imp_right fun told => ?_
  exact ⟨evaluation, left, comes, also, told⟩

/-- Whoever enters a scope asks the oracle once, and looks at the flags
as they are then. A closed gate changes nothing but what has been asked
and said. Behind an open gate the scope does what it does without flags
and oracles, and if the flags are replaced, then or later, the rest of
the run is the same, unless it comes to another gate, or to a command,
that tells the flags apart. -/
theorem scopes_sample_once {name : String} {precompiler : Precompiler} {world : World}
    (known : world.names.precompilers.lookup name = some precompiler) (entry : Entry) (fuel : Nat)
    (context : Context) :
    let flags := world.flags.get precompiler.flags
    let sampled := precompiler.sampled world
    (∀ id, sampled.asked.get id = world.asked.get id + if precompiler.oracle.counts id then 1 else 0) ∧
      sampled = { world with asked := sampled.asked, trace := sampled.trace } ∧
      (precompiler.isOpen world = true ↔ ∃ phase, precompiler.oracle.answer world = .ok phase ∧
        flags.skipCapture precompiler.unit = false ∧
        (phase = .building ∨ flags.forceRun = true ∨ flags.verbose = true)) ∧
      (precompiler.isOpen world = false →
        (eval (fuel + 1) context (entry.form name)).run world = (.ok entry.refusal, sampled)) ∧
      (precompiler.isOpen world = true →
        (eval (fuel + 1) context (entry.form name)).run world =
          (entry.rest (Nat.lt_succ_self fuel) context precompiler flags.verbose).act.run sampled) ∧
      (∀ guard : Guard, guard.disarm.Aloof ∧ guard.drop.Aloof) ∧
      ∀ limit α (rest : Rest limit α) later others, rest.act.UnlessApart (rest.ToldApart later others) later others := by
  refine ⟨precompiler.oracle.get_counted world, rfl, Precompiler.isOpen_iff, ?_, ?_, ?_, ?_⟩
  · exact fun closed => entry.run_closed context known closed fuel
  · exact fun opened => entry.run_open _ context known opened
  · exact fun guard => ⟨guard.aloof_disarm, guard.aloof_drop⟩
  · exact fun _ _ rest later others => rest.act_unlessApart later others

namespace Session

/-- The oracle says once that it is time to build, and then nothing
that makes sense. -/
def briefUnit : Precompiler := { preparedUnit with oracle := .sequence ⟨7⟩ ["build", "later"] }

/-- The prepared world with this precompiler under the name of the first one.
The oracle's count is used by no other precompiler there. -/
def briefly : World := { prepared with names := { prepared.names with precompilers := [("unit", briefUnit)] } }

/-- Opts the unit out and forces it, and asks whether another scope
would be open. The answer is what the flags and the oracle would say
to another entry. -/
def switching : Form :=
  .sequence [.command (.setSkip "flags" "unit" true), .command (.setForceRun "flags" true),
    .command (.isEnabled "unit")]

end Session

open Session in
theorem scopes_sample_once_switching :
    briefUnit.isOpen briefly = true ∧ (briefUnit.sampled briefly).asked.get ⟨7⟩ = 1 ∧
      ((Entry.compile switching).rest (Nat.lt_succ_self 2) context briefUnit
        (briefly.flags.get briefUnit.flags).verbose).act.outcome (briefUnit.sampled briefly) =
          .ok (.array [.text "ran", .bool false]) := by
  obtain ⟨asked, _, opens, _, enters, _⟩ :=
    @scopes_sample_once "unit" briefUnit briefly rfl (.compile switching) 2 context
  have opened : briefUnit.isOpen briefly = true := opens.mpr ⟨.building, rfl, rfl, .inl rfl⟩
  have ran : (eval 3 context (.compile "unit" switching)).outcome briefly = .ok (.array [.text "ran", .bool false]) := by
    rfl
  exact ⟨opened, (asked ⟨7⟩).trans rfl, (congrArg Prod.fst (enters opened)).symm.trans ran⟩

end CallCapture
