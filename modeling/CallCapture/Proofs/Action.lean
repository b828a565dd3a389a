import CallCapture.Session.World

namespace CallCapture

namespace Act

variable {α β : Type}

/-- What an action comes to in a world: a value, an error of the program,
or a panic. Together with `after` this is all of a run, so actions are
compared by these two. -/
def outcome (action : Act α) (world : World) : Except Halt α := (action.run world).1

/-- The world that an action leaves, however it ends. An action that fails
keeps what it had changed until then. An invariant of a session speaks of this
world, and has to hold of it in both cases. -/
def after (action : Act α) (world : World) : World := (action.run world).2

/-- Two actions in a row: the second one starts in the world that the first
one leaves, and it does not run at all if the first one fails. -/
theorem run_bind (action : Act α) (next : α → Act β) (world : World) :
    (action >>= next).run world = match action.run world with
      | (.ok value, middle) => (next value).run middle
      | (.error halt, middle) => (.error halt, middle) := by
  change (match action.run world with | (result, middle) => ExceptT.bindCont next result middle) = _
  rcases action.run world with ⟨_ | _, _⟩ <;> rfl

/-- The world behind two actions is the one that the second leaves, or the one
in which the first has failed. -/
theorem after_bind (action : Act α) (next : α → Act β) (world : World) :
    (action >>= next).after world = match action.outcome world with
      | .ok value => (next value).after (action.after world)
      | .error _ => action.after world := by
  simp only [after, outcome, run_bind]
  rcases action.run world with ⟨_ | _, _⟩ <;> rfl

/-- What two actions come to is what the second comes to, unless the first
has failed already. -/
theorem outcome_bind (action : Act α) (next : α → Act β) (world : World) :
    (action >>= next).outcome world = match action.outcome world with
      | .ok value => (next value).outcome (action.after world)
      | .error halt => .error halt := by
  simp only [after, outcome, run_bind]
  rcases action.run world with ⟨_ | _, _⟩ <;> rfl

theorem after_bind_ok {action : Act α} {next : α → Act β} {world : World} {value : α}
    (ended : action.outcome world = .ok value) :
    (action >>= next).after world = (next value).after (action.after world) := by
  rw [after_bind, ended]

theorem after_bind_error {action : Act α} {next : α → Act β} {world : World} {halt : Halt}
    (ended : action.outcome world = .error halt) : (action >>= next).after world = action.after world := by
  rw [after_bind, ended]

theorem outcome_bind_ok {action : Act α} {next : α → Act β} {world : World} {value : α}
    (ended : action.outcome world = .ok value) :
    (action >>= next).outcome world = (next value).outcome (action.after world) := by
  rw [outcome_bind, ended]

theorem outcome_bind_error {action : Act α} {next : α → Act β} {world : World} {halt : Halt}
    (ended : action.outcome world = .error halt) : (action >>= next).outcome world = .error halt := by
  rw [outcome_bind, ended]

theorem run_get_bind (next : World → Act α) (world : World) : (get >>= next).run world = (next world).run world := rfl

theorem run_sink_bind (id : SinkId) (next : Sink → Act α) (world : World) :
    (sink id >>= next).run world = (next (world.sinks.get id)).run world := rfl

theorem run_flags_bind (id : FlagsId) (next : Flags → Act α) (world : World) :
    (flags id >>= next).run world = (next (world.flags.get id)).run world := rfl

theorem run_modify_bind (change : World → World) (next : Unit → Act α) (world : World) :
    (modify change >>= next).run world = (next ()).run (change world) := rfl

theorem run_setSink_bind (id : SinkId) (changed : Sink) (next : Unit → Act α) (world : World) :
    (setSink id changed >>= next).run world =
      (next ()).run { world with sinks := world.sinks.put id changed } := rfl

/-- A result that is an error ends the action where it stands, and
leaves the world as it is. What a name or a document has wrong with it
comes up in this way. -/
theorem run_orFail_bind (result : Except Error β) (next : β → Act α) (world : World) :
    (orFail result >>= next).run world = match result with
      | .ok value => (next value).run world
      | .error error => (.error (.error error), world) := by
  cases result <;> rfl

theorem after_host_bind (id : HostId) (next : Host Form → Act α) (world : World) :
    (host id >>= next).after world = (next (world.hosts.get id)).after world := rfl

theorem after_discard (action : Act α) (world : World) : (discard action).after world = action.after world := by
  unfold after
  rw [Functor.discard, LawfulFunctor.map_const, Function.comp, ExceptT.run_map]
  rfl

theorem outcome_discard (action : Act α) (world : World) :
    (discard action).outcome world = (action.outcome world).map fun _ => () := by
  unfold outcome
  rw [Functor.discard, LawfulFunctor.map_const, Function.comp, ExceptT.run_map]
  rfl

/-- An attempt never fails: the failure of what is attempted is its value. So
whoever ends a capture behind an attempt does so in any case, which is how a
workload is enclosed. -/
theorem outcome_attempt (action : Act α) (world : World) :
    (attempt action).outcome world = .ok (action.outcome world) := rfl

/-- What is attempted leaves its changes behind, also where it fails.
Nothing is undone. -/
theorem after_attempt (action : Act α) (world : World) : (attempt action).after world = action.after world := rfl

end Act

end CallCapture
