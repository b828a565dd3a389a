import CallCapture.Proofs.Registrations

namespace CallCapture

/-- A host of which somebody hears that a call was resolved on it. Only a
recorder is part of its host. A collector is told apart from its host, so the
host stays as it is. -/
def Host.told (host : Host Form) (signature : Signature) : Option Listener → Host Form
  | some .recorder => host.hear signature
  | _ => host

namespace World

/-- A method body is left. The counter is lowered, and the trace shows it. -/
def leaving (world : World) (id : HostId) : World :=
  { world with
    hosts := world.hosts.put id (world.hosts.get id).leave
    trace := .left id :: world.trace }

/-- Whoever listens hears of a resolved call. A collector keeps a list of
calls, and the recorder takes them into the set of the capture. -/
def hearing (world : World) (id : HostId) (signature : Signature) : Option Listener → World
  | none => world
  | some .recorder => { world with hosts := world.hosts.put id ((world.hosts.get id).hear signature) }
  | some (.collector collector) =>
    { world with collectors := world.collectors.put collector (world.collectors.get collector ++ [signature]) }

/-- What shows that a call was resolved, and that it was brought to a listener
if there is one for it. A recorder that is verbose adds a line of its own when
the signature is new to it. -/
def tellings (world : World) (id : HostId) (signature : Signature) (listener : Option Listener) : List Occurrence :=
  .invoked id (world.hosts.get id).mode signature :: match listener with
    | none => []
    | some .recorder =>
      .delivered id signature :: if (world.hosts.get id).reports signature then [.captured id signature] else []
    | some (.collector _) => [.delivered id signature]

/-- A call was resolved, and was brought to a listener if there is one for it.
This is all that a call does before its body is entered. -/
def telling (world : World) (id : HostId) (signature : Signature) (listener : Option Listener) : World :=
  { world.hearing id signature listener with
    trace := (world.tellings id signature listener).reverse ++ world.trace }

/-- A method is registered. Nothing else of the host changes, and
nothing of other hosts. -/
def registering (world : World) (id : HostId) (method : Method Form) : World :=
  { world with
    hosts := world.hosts.put id { world.hosts.get id with table := (world.hosts.get id).table.register method } }

theorem entering_moved (world : World) (id : HostId) :
    Moved world id (world.hosts.get id).enter [.entered id] (world.entering id) :=
  .put world id _ [_]

theorem leaving_moved (world : World) (id : HostId) :
    Moved world id (world.hosts.get id).leave [.left id] (world.leaving id) :=
  .put world id _ [_]

theorem registering_moved (world : World) (id : HostId) (method : Method Form) :
    Moved world id { world.hosts.get id with table := (world.hosts.get id).table.register method } []
      (world.registering id method) :=
  .put world id _ []

theorem telling_moved (world : World) (id : HostId) (signature : Signature) (listener : Option Listener) :
    Moved world id ((world.hosts.get id).told signature listener) (world.tellings id signature listener)
      (world.telling id signature listener) := by
  rcases listener with _ | _ | collector
  · exact .unchanged rfl rfl rfl rfl
  · exact .put world id _ _
  · exact .unchanged rfl rfl rfl rfl

theorem telling_same {Seen : Type} (world : World) (id : HostId) (signature : Signature) (listener : Option Listener)
    (view : Host Form → Seen) (kept : view ((world.hosts.get id).hear signature) = view (world.hosts.get id))
    (other : HostId) : view ((world.telling id signature listener).hosts.get other) = view (world.hosts.get other) := by
  refine (world.telling_moved id signature listener).same view ?_ other
  rcases listener with _ | _ | collector
  · rfl
  · exact kept
  · rfl

end World

namespace Act

/-- Whoever listens hears of a resolved call just if the calling code is
compiled. Compiled code is that of a forced host and that of method bodies;
calls from anywhere else go unheard. -/
theorem publish_run (id : HostId) (signature : Signature) (world : World) :
    (publish id signature).run world = (.ok (), world.telling id signature
      (if (world.hosts.get id).isCompiled then (world.hosts.get id).listener else none)) := by
  change (do
    note (.invoked id (world.hosts.get id).mode signature)
    if (world.hosts.get id).isCompiled then _ else pure () : Act Unit).run world = _
  rw [run_note_bind]
  by_cases compiled : (world.hosts.get id).isCompiled = true
  · rw [if_pos compiled, if_pos compiled]
    rcases (world.hosts.get id).listener with _ | _ | collector
    · rfl
    · by_cases reports : (world.hosts.get id).reports signature = true
      · simp only [World.telling, World.tellings, if_pos reports]
        rfl
      · simp only [World.telling, World.tellings, if_neg reports]
        rfl
    · rfl
  · rw [if_neg compiled, if_neg compiled]
    rfl

/-- A body runs in the world in which it has been entered, and is left in the
world that it leaves, however it ends. So the depth behind a call is the depth
before it, also when the body fails. -/
theorem within_run (id : HostId) (body : Act Value) (world : World) :
    (within id body).run world =
      (body.outcome (world.entering id), (body.after (world.entering id)).leaving id) := by
  rfl

end Act

end CallCapture
