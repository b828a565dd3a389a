import CallCapture.Proofs.Follow

namespace CallCapture

namespace Oracle

/-- What an oracle answers when it is asked next. The last answer of a
sequence is given again and again; a variable is read anew every time. -/
def answer (world : World) : Oracle → Except Error Phase
  | fixed phase => .ok phase
  | environment name => world.environment.phase name
  | sequence id answers => Phase.parse ((answers[world.asked.get id]?.or answers.getLast?).getD "")

/-- The oracle takes its answers from this count. Two oracles may share a
count, and then each uses up answers of the other. -/
def counts (id : OracleId) : Oracle → Bool
  | sequence counted _ => counted = id
  | _ => false

/-- The counts of answers behind the next answer of an oracle. Only a
sequence keeps a count. -/
def counted (world : World) : Oracle → Store OracleId Nat
  | sequence id _ => world.asked.put id (world.asked.get id + 1)
  | _ => world.asked

/-- To ask an oracle uses up one answer of its own count, if it has one, and
none of any other. -/
theorem get_counted (oracle : Oracle) (world : World) (id : OracleId) :
    (oracle.counted world).get id = world.asked.get id + if oracle.counts id then 1 else 0 := by
  cases oracle with
  | fixed phase => rfl
  | environment name => rfl
  | sequence other answers =>
    unfold counted counts
    rw [Store.get_put]
    by_cases same : id = other
    · rw [if_pos same, if_pos (decide_eq_true same.symm), same]
    · rw [if_neg same, if_neg (by simpa using Ne.symm same), Nat.add_zero]

variable {world later : World}

theorem answer_of_eq (asked : later.asked = world.asked) (environment : later.environment = world.environment)
    (oracle : Oracle) : oracle.answer later = oracle.answer world := by
  cases oracle with
  | fixed phase => rfl
  | environment name => exact congrArg (Environment.phase · name) environment
  | sequence id answers =>
    unfold answer
    rw [asked]

theorem counted_of_eq (asked : later.asked = world.asked) (oracle : Oracle) :
    oracle.counted later = oracle.counted world := by
  unfold counted
  rw [asked]

end Oracle

theorem Act.phase_answer (oracle : Oracle) (world : World) :
    (phase oracle).run world = (.ok (oracle.answer world), { world with asked := oracle.counted world }) := by
  cases oracle <;> rfl

namespace Precompiler

open Act

variable {precompiler : Precompiler} {world : World}

/-- The gate is open for the answer that comes next and for the flags
as they are. It is a statement about a world, not an action: to ask it
uses up no answer. -/
def isOpen (precompiler : Precompiler) (world : World) : Bool :=
  match precompiler.oracle.answer world with
  | .ok phase => (world.flags.get precompiler.flags).shouldRun precompiler.unit phase
  | .error _ => false

/-- What a gate says of itself. The phase has always been asked for; a closed
gate and a failing oracle are told of besides. -/
def gateRemarks (precompiler : Precompiler) (world : World) : List Occurrence :=
  .phaseAsked precompiler.unit :: match precompiler.oracle.answer world with
    | .error error => [.gateFailed precompiler.unit error]
    | .ok phase => if precompiler.isOpen world then [] else [.gateClosed precompiler.unit phase]

/-- The phase has been asked for, and it has been said what came of it. This
is all that the gate of a scope does to a world. -/
def sampled (precompiler : Precompiler) (world : World) : World :=
  { world with
    asked := precompiler.oracle.counted world
    trace := (precompiler.gateRemarks world).reverse ++ world.trace }

/-- A gate is open just if the oracle answers, the unit has not opted out, and
the phase is that of building or a run is forced. An opt-out wins over
everything, and an oracle that fails closes the gate. -/
theorem isOpen_iff : precompiler.isOpen world = true ↔
    ∃ phase, precompiler.oracle.answer world = .ok phase ∧
      (world.flags.get precompiler.flags).skipCapture precompiler.unit = false ∧
      (phase = .building ∨ (world.flags.get precompiler.flags).forceRun = true ∨
        (world.flags.get precompiler.flags).verbose = true) := by
  unfold isOpen
  cases precompiler.oracle.answer world with
  | error error => simp
  | ok phase => simp [Flags.shouldRun, Flags.forced]

/-- The gate of a scope asks its oracle once and looks at the flags once. If
it is open, the flags as they were are taken along. The gate itself never
fails: an oracle without an answer closes it, and this is only said. -/
theorem gate_run (precompiler : Precompiler) (world : World) : precompiler.gate.run world =
    (.ok (if precompiler.isOpen world then some (world.flags.get precompiler.flags) else none),
      precompiler.sampled world) := by
  unfold gate sampled gateRemarks isOpen
  rw [run_note_bind, run_bind, phase_answer,
    @Oracle.answer_of_eq world (world.noting _) rfl rfl, @Oracle.counted_of_eq world (world.noting _) rfl]
  cases precompiler.oracle.answer world with
  | error error => rfl
  | ok phase =>
    dsimp only
    rw [run_flags_bind]
    split
    · rename_i runs
      have opened : (world.flags.get precompiler.flags).shouldRun precompiler.unit phase = true := runs
      rw [if_pos opened, if_pos opened]
      rfl
    · rename_i stays
      have closed : ¬ (world.flags.get precompiler.flags).shouldRun precompiler.unit phase = true := stays
      rw [if_neg closed, if_neg closed]
      rfl

theorem gateRemarks_open (opened : precompiler.isOpen world = true) :
    precompiler.gateRemarks world = [.phaseAsked precompiler.unit] := by
  obtain ⟨phase, answer, _⟩ := isOpen_iff.mp opened
  unfold gateRemarks
  rw [answer, opened]
  rfl

theorem gate_open {flags : Flags} (gate : precompiler.gate.outcome world = .ok (some flags)) : ∃ asked,
    precompiler.gate.after world =
      { world with asked := asked, trace := .phaseAsked precompiler.unit :: world.trace } := by
  have ran := precompiler.gate_run world
  cases opened : precompiler.isOpen world with
  | false =>
    rw [opened] at ran
    cases gate.symm.trans (congrArg Prod.fst ran)
  | true =>
    refine ⟨precompiler.oracle.counted world, (congrArg Prod.snd ran).trans ?_⟩
    unfold sampled
    rw [gateRemarks_open opened]
    rfl

end Precompiler

end CallCapture
