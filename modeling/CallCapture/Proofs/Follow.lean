import CallCapture.Proofs.Action
import CallCapture.Proofs.Course

namespace CallCapture

/-- What is allowed twice in a row is allowed, and so is nothing at all.
Everything that a session may do is put together from actions in a row, so
nothing else has to be asked of a relation. -/
structure Composes (allowed : World → List Occurrence → World → Prop) : Prop where
  nil : ∀ world, allowed world [] world
  append : ∀ {world first middle rest later}, allowed world first middle → allowed middle rest later →
    allowed world (first ++ rest) later

theorem Quiet.composes : Composes Quiet := ⟨Quiet.refl, Quiet.trans⟩

theorem Remarks.composes : Composes Remarks := ⟨Remarks.refl, Remarks.trans⟩

theorem Course.composes : Composes Course := ⟨fun world => .quiet (.refl world), .next⟩

namespace Act

variable {α β : Type} {allowed : World → List Occurrence → World → Prop}

/-- The action does, in every world and however it ends, only what is allowed.
What an action may do is said by a relation between the world before it, what
happens, and the world behind it. An error of the action makes no difference:
what it had done until then has to be allowed. -/
def Follows (allowed : World → List Occurrence → World → Prop) (action : Act α) : Prop :=
  ∀ world, ∃ occurrences, allowed world occurrences (action.after world)

/-- The action only says something. What is said may depend on
anything in the world. -/
abbrev Remarking (action : Act α) : Prop := Follows Remarks action

/-- The action leaves all hosts alone. It may make new hosts, as nobody
has seen these yet. -/
abbrev Still (action : Act α) : Prop := Follows Quiet action

/-- Whatever the action does is the course of a session. The course depends on
the world in which the action starts. -/
abbrev Proceeds (action : Act α) : Prop := Follows Course action

theorem Follows.mono {wider : World → List Occurrence → World → Prop} {action : Act α}
    (follows : Follows allowed action)
    (wide : ∀ {world occurrences later}, allowed world occurrences later → wider world occurrences later) :
    Follows wider action := by
  intro world
  obtain ⟨occurrences, done⟩ := follows world
  exact ⟨occurrences, wide done⟩

theorem Remarking.still {action : Act α} (remarking : Remarking action) : Still action := remarking.mono Remarks.quiet

theorem Still.proceeds {action : Act α} (still : Still action) : Proceeds action := still.mono .quiet

theorem Remarking.proceeds {action : Act α} (remarking : Remarking action) : Proceeds action :=
  remarking.still.proceeds

theorem follows_pure (composes : Composes allowed) (value : α) : Follows allowed (pure value : Act α) :=
  fun world => ⟨[], composes.nil world⟩

theorem follows_throw (composes : Composes allowed) (halt : Halt) : Follows allowed (throw halt : Act α) :=
  fun world => ⟨[], composes.nil world⟩

/-- A relation that composes is carried through two actions in a row. Where
the first one fails, the second one counts for nothing. -/
theorem Follows.bind (composes : Composes allowed) {action : Act α} {next : α → Act β}
    (first : Follows allowed action) (rest : ∀ value, Follows allowed (next value)) :
    Follows allowed (action >>= next) := by
  intro world
  obtain ⟨before, done⟩ := first world
  cases ended : action.outcome world with
  | error halt => exact ⟨before, by rwa [after_bind_error ended]⟩
  | ok value =>
    obtain ⟨behind, more⟩ := rest value (action.after world)
    exact ⟨before ++ behind, by rw [after_bind_ok ended]; exact composes.append done more⟩

theorem Follows.attempt {action : Act α} (first : Follows allowed action) : Follows allowed (attempt action) := first

theorem Follows.mapM (composes : Composes allowed) {action : α → Act β} (items : List α)
    (each : ∀ item, Follows allowed (action item)) : Follows allowed (items.mapM action) := by
  induction items with
  | nil => exact follows_pure composes []
  | cons item items ih =>
    rw [List.mapM_cons]
    exact (each item).bind composes fun _ => ih.bind composes fun _ => follows_pure composes _

/-- A relation that composes is carried through a loop, if every turn of it
follows the relation from every state. -/
theorem Follows.foldlM (composes : Composes allowed) {action : β → α → Act β} (items : List α) (initial : β)
    (each : ∀ state item, Follows allowed (action state item)) :
    Follows allowed (items.foldlM action initial) := by
  induction items generalizing initial with
  | nil => exact follows_pure composes initial
  | cons item items ih =>
    rw [List.foldlM_cons]
    exact (each initial item).bind composes ih

theorem Remarking.bind {action : Act α} {next : α → Act β} (first : Remarking action)
    (rest : ∀ value, Remarking (next value)) : Remarking (action >>= next) :=
  Follows.bind Remarks.composes first rest

theorem remarking_pure (value : α) : Remarking (pure value : Act α) := follows_pure Remarks.composes value

theorem remarking_throw (halt : Halt) : Remarking (throw halt : Act α) := follows_throw Remarks.composes halt

theorem remarking_note {occurrence : Occurrence} (remark : occurrence.isRemark = true) : Remarking (note occurrence) :=
  fun world => ⟨_, .noting world remark⟩

theorem remarking_noteAll {occurrences : List Occurrence}
    (remarks : ∀ occurrence ∈ occurrences, occurrence.isRemark = true) : Remarking (noteAll occurrences) := by
  induction occurrences with
  | nil => exact remarking_pure ()
  | cons occurrence rest ih =>
    simp only [List.mem_cons, forall_eq_or_imp] at remarks
    exact (remarking_note remarks.1).bind fun _ => ih remarks.2

theorem remarking_orFail (result : Except Error α) : Remarking (orFail result) := by
  cases result with
  | ok value => exact remarking_pure value
  | error error => exact remarking_throw (.error error)

theorem remarking_get : Remarking (get : Act World) := fun world => ⟨[], .refl world⟩

theorem remarking_host (id : HostId) : Remarking (host id) := fun world => ⟨[], .refl world⟩

theorem remarking_flags (id : FlagsId) : Remarking (flags id) := fun world => ⟨[], .refl world⟩

theorem remarking_sink (id : SinkId) : Remarking (sink id) := fun world => ⟨[], .refl world⟩

/-- A change of the world that leaves hosts, collectors, names, numbers and
the trace as they are. -/
theorem remarking_modify {change : World → World} (trace : ∀ world, (change world).trace = world.trace)
    (hosts : ∀ world, (change world).hosts = world.hosts)
    (collectors : ∀ world, (change world).collectors = world.collectors)
    (fresh : ∀ world, (change world).fresh = world.fresh) (names : ∀ world, (change world).names = world.names) :
    Remarking (modify change : Act Unit) :=
  fun world => ⟨[], trace world, by simp, hosts world, collectors world, fresh world, names world⟩

theorem remarking_setFlags (id : FlagsId) (flags : Flags) : Remarking (setFlags id flags) :=
  remarking_modify (fun _ => rfl) (fun _ => rfl) (fun _ => rfl) (fun _ => rfl) fun _ => rfl

theorem remarking_setSink (id : SinkId) (sink : Sink) : Remarking (setSink id sink) :=
  remarking_modify (fun _ => rfl) (fun _ => rfl) (fun _ => rfl) (fun _ => rfl) fun _ => rfl

theorem remarking_named (find : Names → List (String × α)) (name : String) : Remarking (named find name) := by
  refine remarking_get.bind fun world => ?_
  split
  · exact remarking_pure _
  · exact remarking_throw _

/-- To ask for the phase says nothing of a host, though the answers of an
oracle are used up. -/
theorem remarking_phase (oracle : Oracle) : Remarking (phase oracle) := by
  cases oracle with
  | fixed phase => exact remarking_pure _
  | environment name => exact remarking_get.bind fun _ => remarking_pure _
  | sequence id answers =>
    refine remarking_get.bind fun _ => Remarking.bind ?_ fun _ => remarking_pure _
    exact remarking_modify (fun _ => rfl) (fun _ => rfl) (fun _ => rfl) (fun _ => rfl) fun _ => rfl

theorem run_note_bind (occurrence : Occurrence) (next : Unit → Act α) (world : World) :
    (note occurrence >>= next).run world = (next ()).run (world.noting occurrence) := rfl

theorem after_note_bind (occurrence : Occurrence) (next : Unit → Act α) (world : World) :
    (note occurrence >>= next).after world = (next ()).after (world.noting occurrence) := rfl

/-- What a sink does with an emission, once it has been called: it changes
itself and its files, and says so. What it says depends on the kind of the
sink: an emitter tells of its growth and of its file. -/
theorem handOver_remarks (source : Option HostId) (id : SinkId) (emission : Emission) (world : World) :
    ∃ remarks, Remarks (world.noting (.handedOver source id emission.artifact emission.signatures)) remarks
      ((handOver source id emission).after world) := by
  unfold handOver
  rw [after_note_bind]
  refine Remarking.bind (remarking_sink id) (fun before => remarking_get.bind fun world => Remarking.bind ?_ fun _ => ?_) _
  · exact remarking_modify (fun _ => rfl) (fun _ => rfl) (fun _ => rfl) (fun _ => rfl) fun _ => rfl
  refine (remarking_orFail _).bind fun grown => (remarking_setSink id _).bind fun _ => ?_
  split
  · exact remarking_pure ()
  · dsimp only
    split
    · exact (remarking_note rfl).bind fun _ => remarking_note rfl
    · exact remarking_note rfl

theorem Still.bind {action : Act α} {next : α → Act β} (first : Still action)
    (rest : ∀ value, Still (next value)) : Still (action >>= next) :=
  Follows.bind Quiet.composes first rest

theorem still_pure (value : α) : Still (pure value : Act α) := follows_pure Quiet.composes value

theorem still_rename {change : Names → Names} (hosts : ∀ names, (change names).hosts = names.hosts)
    (monitors : ∀ names, (change names).monitors = names.monitors)
    (precompilers : ∀ names, (change names).precompilers = names.precompilers) : Still (rename change) :=
  fun _ => ⟨[], .of_eq rfl (by simp) rfl rfl (Nat.le_refl _) ⟨hosts _, monitors _, precompilers _⟩⟩

theorem still_number : Still number :=
  fun _ => ⟨[], .of_eq rfl (by simp) rfl rfl (Nat.le_succ _) ⟨rfl, rfl, rfl⟩⟩

theorem still_handOver (id : SinkId) (emission : Emission) : Still (handOver none id emission) := by
  intro world
  obtain ⟨remarks, said⟩ := handOver_remarks none id emission world
  have called : Quiet world [.handedOver none id emission.artifact emission.signatures] (world.noting _) :=
    .of_eq rfl (by simp [Occurrence.isQuiet]) rfl rfl (Nat.le_refl _) ⟨rfl, rfl, rfl⟩
  exact ⟨_, called.trans said.quiet⟩

theorem Proceeds.bind {action : Act α} {next : α → Act β} (first : Proceeds action)
    (rest : ∀ value, Proceeds (next value)) : Proceeds (action >>= next) :=
  Follows.bind Course.composes first rest

theorem proceeds_pure (value : α) : Proceeds (pure value : Act α) := follows_pure Course.composes value

theorem proceeds_throw (halt : Halt) : Proceeds (throw halt : Act α) := follows_throw Course.composes halt

/-- Names may change, but those of hosts, monitors and precompilers. With
another host under a name it has to be shown that this host is there, which is
done for each command. -/
theorem proceeds_rename_bind {change : Names → Names} {next : Unit → Act β}
    (hosts : ∀ names, (change names).hosts = names.hosts)
    (monitors : ∀ names, (change names).monitors = names.monitors)
    (precompilers : ∀ names, (change names).precompilers = names.precompilers) (rest : Proceeds (next ())) :
    Proceeds (rename change >>= next) :=
  (still_rename hosts monitors precompilers).proceeds.bind fun _ => rest

end Act

theorem Course.onward {world middle later : World} {occurrences : List Occurrence}
    (course : Course world occurrences middle) (rest : ∃ more, Course middle more later) :
    ∃ all, Course world all later := by
  obtain ⟨more, behind⟩ := rest
  exact ⟨occurrences ++ more, course.next behind⟩

open Act in
/-- An action whose course starts further back goes on like any other. A
capture that was opened by hand is ended so, behind actions that happened
while it was open. The two ends of a capture are often two actions apart,
which neither `bind` nor `move` alone can express. -/
theorem Course.bind {α β : Type} {action : Act α} {next : α → Act β} {world middle : World}
    {occurrences : List Occurrence} (first : Course world occurrences (action.after middle))
    (rest : ∀ value, Proceeds (next value)) :
    ∃ all, Course world all ((action >>= next).after middle) := by
  cases ended : action.outcome middle with
  | error halt => exact ⟨occurrences, by rwa [after_bind_error ended]⟩
  | ok value =>
    rw [after_bind_ok ended]
    exact first.onward (rest value _)

namespace Precompiler

open Act

/-- The gate of a precompiler asks for the phase and reads its flags.
It changes no host. -/
theorem remarking_gate (precompiler : Precompiler) : Remarking precompiler.gate := by
  refine (remarking_note rfl).bind fun _ => (remarking_phase _).bind fun answer => ?_
  cases answer with
  | error error => exact (remarking_note rfl).bind fun _ => remarking_pure _
  | ok phase =>
    refine (remarking_flags _).bind fun flags => ?_
    split
    · exact remarking_pure _
    · exact (remarking_note rfl).bind fun _ => remarking_pure _

end Precompiler

end CallCapture
