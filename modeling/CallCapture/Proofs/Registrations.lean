import CallCapture.Proofs.Levels
import CallCapture.Proofs.Resolution

namespace CallCapture

open MethodTable

theorem Host.beginCapture?_table {host changed : Host Form} {thread : ThreadId} {verbose : Bool} {nesting : Nesting}
    (begun : host.beginCapture? thread verbose = some (nesting, changed)) : changed.table = host.table := by
  cases claimed : host.armed with
  | none =>
    obtain ⟨_, rfl⟩ := beginCapture?_unarmed claimed begun
    rfl
  | some armed =>
    obtain ⟨_, rfl⟩ := beginCapture?_armed claimed begun
    rfl

theorem Host.endCapture_table (host : Host Form) : host.endCapture.2.table = host.table := by
  unfold endCapture
  split
  · rfl
  · split <;> rfl

theorem Opens.table {guard : Guard} {world opened : World} {opening : List Occurrence}
    (opens : Opens guard world opening opened) (id : HostId) :
    (opened.hosts.get id).table = (world.hosts.get id).table := by
  cases opens with
  | intro begun claim previous lock =>
    exact (lock.same Host.table rfl id).trans (claim.same Host.table (Host.beginCapture?_table begun) id)

theorem Closes.table {guard : Guard} {world later : World} {closing : List Occurrence}
    (closes : Closes guard world closing later) (id : HostId) :
    (later.hosts.get id).table = (world.hosts.get id).table := by
  obtain ⟨ended, released, _, ends, unlock, _, _, hosts, _⟩ := closes.emission
  rw [hosts]
  exact (unlock.same Host.table rfl id).trans (ends.same Host.table (Host.endCapture_table _) id)

theorem HostMove.table {id : HostId} {host changed : Host Form} {occurrences : List Occurrence}
    (move : HostMove id host occurrences changed) :
    ∃ more : List (Method Form), changed.table = more.foldl register host.table := by
  cases move with
  | @registered method => exact ⟨[method], rfl⟩
  | begunByHand begun => exact ⟨[], Host.beginCapture?_table begun⟩
  | endedByHand => exact ⟨[], Host.endCapture_table host⟩
  | _ => exact ⟨[], rfl⟩

/-- Between two worlds there are only further registrations on a host. If it
is made in between, they are all that it has. Nothing is ever taken back: a
replaced method has been replaced by a registration. -/
def World.Registers (world later : World) (id : HostId) : Prop :=
  ∃ more : List (Method Form), (later.hosts.get id).table = more.foldl register (world.hosts.get id).table ∨
    ¬ world.Made id ∧ (later.hosts.get id).table = ofHistory more

namespace World.Registers

variable {world middle later : World} {id : HostId}

theorem of_eq (same : (later.hosts.get id).table = (world.hosts.get id).table) : world.Registers later id :=
  ⟨[], Or.inl same⟩

theorem trans (before : world.Registers middle id) (behind : middle.Registers later id)
    (fresh : world.fresh ≤ middle.fresh) : world.Registers later id := by
  obtain ⟨first, before⟩ := before
  obtain ⟨rest, behind⟩ := behind
  rcases behind with further | ⟨unmade, new⟩
  · refine ⟨first ++ rest, before.imp (fun same => ?_) fun made => ⟨made.1, ?_⟩⟩
    · rw [further, same, List.foldl_append]
    · rw [further, made.2]
      exact List.foldl_append.symm
  · exact ⟨rest, Or.inr ⟨fun made => unmade (Nat.lt_of_lt_of_le made fresh), new⟩⟩

end World.Registers

/-- Whatever happens, a host only gets further registrations. By induction on
the course, with the hosts that are made on the way taken into account. -/
theorem Course.registers {world later : World} {occurrences : List Occurrence}
    (course : Course world occurrences later) (id : HostId) : world.Registers later id := by
  induction course with
  | @quiet world _ later quiet =>
    by_cases made : world.Made id
    · exact .of_eq (by rw [quiet.hosts id made])
    · rcases quiet.added id made with same | new
      · exact .of_eq (by rw [same])
      · exact ⟨[], Or.inr ⟨made, by rw [new]; rfl⟩⟩
  | next before _ first rest => exact first.trans rest before.fresh_le
  | @move world other _ _ later move moved =>
    by_cases same : id = other
    · subst same
      obtain ⟨more, further⟩ := move.table
      exact ⟨more, Or.inl (by rw [moved.get_self, further])⟩
    · exact .of_eq (by rw [moved.get_of_ne same])
  | @method world _ opened _ closed _ enters inside leaves registers =>
    have entered : world.Registers opened id := .of_eq (enters.same Host.table rfl id)
    have left : closed.Registers _ id := .of_eq (leaves.same Host.table rfl id)
    have during := entered.trans registers (Nat.le_of_eq enters.fresh.symm)
    exact during.trans left (Nat.le_trans (Nat.le_of_eq enters.fresh.symm) inside.fresh_le)
  | @captured world _ _ opened _ closed _ _ opens inside closes registers =>
    have begun : world.Registers opened id := .of_eq (opens.table id)
    have ended : closed.Registers _ id := .of_eq (closes.table id)
    have during := begun.trans registers (Nat.le_of_eq opens.fresh.symm)
    exact during.trans ended (Nat.le_trans (Nat.le_of_eq opens.fresh.symm) inside.fresh_le)
  | kept opens => exact .of_eq (opens.table id)
  | @givenUp _ _ _ _ _ closes => exact .of_eq (closes.table id)

/-- The table of a host is what its registrations make of an empty one. The
history is not kept by the host; it is only known to exist. -/
def World.Recorded (world : World) (id : HostId) : Prop :=
  ∃ history : List (Method Form), (world.hosts.get id).table = ofHistory history

theorem World.Registers.recorded {world later : World} {id : HostId} (registers : world.Registers later id)
    (recorded : world.Recorded id) : later.Recorded id := by
  obtain ⟨more, further | ⟨_, new⟩⟩ := registers
  · obtain ⟨history, table⟩ := recorded
    refine ⟨history ++ more, ?_⟩
    rw [further, table]
    exact List.foldl_append.symm
  · exact ⟨more, new⟩

theorem Act.Proceeds.registers {α : Type} {action : Act α} (proceeds : Proceeds action) (world : World)
    (id : HostId) : world.Registers (action.after world) id := by
  obtain ⟨occurrences, course⟩ := proceeds world
  exact course.registers id

theorem Precompiler.Begins.registers {precompiler : Precompiler} {world later : World}
    {outcome : Except Halt (Option Guard)} (begins : precompiler.Begins world outcome later) (id : HostId) :
    world.Registers later id := by
  cases begins with
  | closed said => exact .of_eq (by rw [said.hosts])
  | halted said => exact .of_eq (by rw [said.hosts])
  | opened _ said opens => exact .of_eq (by rw [opens.table, said.hosts])

/-- Every method table that a session can reach comes from the registrations
so far. By induction on how the world was reached. -/
theorem Reached.recorded {context : Context} {world : World} (reached : Reached context world) (id : HostId) :
    world.Recorded id := by
  induction reached with
  | start => exact ⟨[], rfl⟩
  | step _ ih => exact ih
  | behind fuel form _ ih => exact ((eval_proceeds fuel _ form).registers _ id).recorded ih
  | inThread _ ih => exact (Act.still_number.proceeds.registers _ id).recorded ih
  | onHost _ _ ih => exact ih
  | @inMethod context world signature _ _ _ _ ih =>
    have told := ((Act.proceeds_publish context.host signature).registers world id).recorded ih
    have entered := Moved.put ((Act.publish context.host signature).after world) context.host
      (((Act.publish context.host signature).after world).hosts.get context.host).enter [.entered context.host]
    exact (World.Registers.of_eq (entered.same Host.table rfl id)).recorded told
  | @inStaticMethod context world _ _ _ _ _ ih =>
    have entered := Moved.put world context.host (world.hosts.get context.host).enter [.entered context.host]
    exact (World.Registers.of_eq (entered.same Host.table rfl id)).recorded ih
  | @inCapture context world _ precompiler _ _ _ _ ih =>
    exact ((precompiler.beginCapture_begins context.thread world).registers id).recorded ih
  | @inSetup _ world _ precompiler _ _ _ _ ih =>
    exact (precompiler.remarking_gate.proceeds.registers world id).recorded ih

namespace Act

/-- To resolve a call is to look it up. Nothing changes, also where no method
is found. The error has the whole signature, so that the types can be seen. -/
theorem resolve_run (id : HostId) (signature : Signature) (world : World) :
    (resolve id signature).run world = (match (world.hosts.get id).table.resolve? signature with
      | some method => .ok method
      | none => .error (.error (.noMatchingMethod signature)), world) := by
  unfold resolve
  rw [run_bind]
  change (match (world.hosts.get id).table.resolve? signature with
    | some method => pure method
    | none => fail (.noMatchingMethod signature) : Act (Method Form)).run world = _
  cases (world.hosts.get id).table.resolve? signature <;> rfl

end Act

namespace Context

variable (eval : Evaluator) (context : Context) {routine : String} {args : List Value} {world : World}

/-- A call that is resolved is published, and then the body of its method runs
inside of its host. The call is published before its body runs, so it is
recorded also if the body fails. -/
theorem call_resolved {method : Method Form}
    (resolved : (world.hosts.get context.host).table.resolve? (.ofCall routine args) = some method) :
    (context.call eval routine args).run world = (do
      Act.publish context.host (.ofCall routine args)
      Act.within context.host (eval { context with args := args } method.body)).run world := by
  unfold call
  rw [Act.run_bind, Act.resolve_run, resolved]

/-- A call that no method matches fails with its signature, and nothing
else is done for it. -/
theorem call_unresolved
    (unresolved : (world.hosts.get context.host).table.resolve? (.ofCall routine args) = none) :
    (context.call eval routine args).run world =
      (.error (.error (.noMatchingMethod (.ofCall routine args))), world) := by
  unfold call
  rw [Act.run_bind, Act.resolve_run, unresolved]

/-- A call that is bound when it is compiled runs the same method, and
is not published. -/
theorem callStatic_resolved {method : Method Form}
    (resolved : (world.hosts.get context.host).table.resolve? (.ofCall routine args) = some method) :
    (context.callStatic eval routine args).run world =
      (Act.within context.host (eval { context with args := args } method.body)).run world := by
  unfold callStatic
  rw [Act.run_bind, Act.resolve_run, resolved]

theorem callStatic_unresolved
    (unresolved : (world.hosts.get context.host).table.resolve? (.ofCall routine args) = none) :
    (context.callStatic eval routine args).run world =
      (.error (.error (.noMatchingMethod (.ofCall routine args))), world) := by
  unfold callStatic
  rw [Act.run_bind, Act.resolve_run, unresolved]

end Context

/-- What the calls on a host come to whose registrations are known, in
the order in which they were made. It says of every call which method
runs, or that none does. -/
structure FollowsHistory (id : HostId) (world : World) (history : List (Method Form)) : Prop where
  /-- There is a choice just if some registration matches. -/
  decided : ∀ signature, (∃ method, Chosen history signature method) ↔
    ∃ method ∈ history, method.Matches signature
  chosen : ∀ (eval : Evaluator) (context : Context) routine args method, context.host = id →
    Chosen history (.ofCall routine args) method →
      (context.call eval routine args).run world = (do
        Act.publish id (.ofCall routine args)
        Act.within id (eval { context with args := args } method.body)).run world ∧
      (context.callStatic eval routine args).run world =
        (Act.within id (eval { context with args := args } method.body)).run world
  unmatched : ∀ (eval : Evaluator) (context : Context) routine args, context.host = id →
    (∀ method ∈ history, ¬ method.Matches (.ofCall routine args)) →
      (context.call eval routine args).run world =
        (.error (.error (.noMatchingMethod (.ofCall routine args))), world) ∧
      (context.callStatic eval routine args).run world =
        (.error (.error (.noMatchingMethod (.ofCall routine args))), world)
  narrowest : ∀ signature method other, Chosen history signature method → other ∈ history →
    other.Matches signature → ¬ (Fits method.pattern other.pattern ∧ method.pattern ≠ other.pattern)
  distinct : ∀ routine, ((world.hosts.get id).table.patternsOf routine).Nodup
  registered : ∀ fuel (context : Context) routine pattern body, context.host = id →
    (((eval (fuel + 1) context (.register routine pattern body)).after world).hosts.get id).table =
      ofHistory (history ++ [⟨routine, pattern, body⟩])
  evaluated : world.Made id → ∀ fuel context form, ∃ more,
    (((eval fuel context form).after world).hosts.get id).table = ofHistory (history ++ more)

/-- A table that was made of registrations, one after the other, resolves
calls as these tell. -/
theorem followsHistory_of_table {id : HostId} {world : World} {history : List (Method Form)}
    (table : (world.hosts.get id).table = ofHistory history) : FollowsHistory id world history where
  decided signature := by
    refine ⟨fun ⟨method, chosen⟩ => ⟨method, chosen.mem, chosen.matches⟩, fun ⟨method, member, fits⟩ => ?_⟩
    cases resolved : (ofHistory history).resolve? signature with
    | none => exact absurd fits (resolve?_ofHistory_eq_none_iff.mp resolved method member)
    | some found => exact ⟨found, resolve?_ofHistory_eq_some_iff.mp resolved⟩
  chosen eval context routine args method here chosen := by
    subst here
    have resolved : (world.hosts.get context.host).table.resolve? (.ofCall routine args) = some method := by
      rw [table]
      exact resolve?_ofHistory_eq_some_iff.mpr chosen
    exact ⟨context.call_resolved eval resolved, context.callStatic_resolved eval resolved⟩
  unmatched eval context routine args here nobody := by
    subst here
    have unresolved : (world.hosts.get context.host).table.resolve? (.ofCall routine args) = none := by
      rw [table]
      exact resolve?_ofHistory_eq_none_iff.mpr nobody
    exact ⟨context.call_unresolved eval unresolved, context.callStatic_unresolved eval unresolved⟩
  narrowest signature method other chosen member fits := chosen.not_narrower member fits
  distinct routine := by
    rw [table]
    exact nodup_patternsOf_ofHistory history routine
  registered fuel context routine pattern body here := by
    subst here
    have moved := Moved.put world context.host
      { world.hosts.get context.host with
        table := (world.hosts.get context.host).table.register ⟨routine, pattern, body⟩ } []
    rw [ofHistory_append_singleton, ← table]
    exact congrArg Host.table moved.get_self
  evaluated made fuel context form := by
    obtain ⟨more, further | ⟨unmade, _⟩⟩ := (eval_proceeds fuel context form).registers world id
    · refine ⟨more, ?_⟩
      rw [further, table]
      exact List.foldl_append.symm
    · exact absurd made unmade

/-- Every table that a session comes to has a history of registrations; and
whatever the history is, it decides all calls. -/
theorem calls_follow_history :
    (∀ context world, Reached context world → ∀ id, world.Recorded id) ∧
      ∀ id world history, (world.hosts.get id).table = ofHistory history → FollowsHistory id world history :=
  ⟨fun _ _ reached => reached.recorded, fun _ _ _ => followsHistory_of_table⟩

namespace Session

/-- The first pattern is registered twice, and both patterns fit two
integers. -/
def overlapping : List (Method Form) :=
  [⟨"pair", [anyType, "Int64"], .literal (.text "right")⟩, ⟨"pair", ["Int64", anyType], .literal (.text "left")⟩,
    ⟨"pair", [anyType, "Int64"], .literal (.text "right again")⟩]

/-- The world in which these methods have been registered. Its table has two
methods, as the third pattern took the place of the first one. -/
def overlapped : World :=
  (eval 2 context (.sequence (overlapping.map fun method =>
    .register method.routine method.pattern method.body))).after (initial 0)

end Session

open Session in
/-- The third registration takes the place of the first and is the latest of
two that fit, so it is chosen. With other types no method is. -/
theorem calls_follow_history_overlapping :
    (overlapped.hosts.get firstHost).table = ofHistory overlapping ∧
      Chosen overlapping (.ofCall "pair" [.int 1, .int 2])
        ⟨"pair", [anyType, "Int64"], .literal (.text "right again")⟩ ∧
      (context.callStatic (eval 1) "pair" [.int 1, .int 2]).outcome overlapped = .ok (.text "right again") ∧
      (context.call (eval 1) "pair" [.null, .null]).run overlapped =
        (.error (.error (.noMatchingMethod ⟨"pair", ["Nothing", "Nothing"]⟩)), overlapped) := by
  have table : (overlapped.hosts.get firstHost).table = ofHistory overlapping := rfl
  have follows := calls_follow_history.2 firstHost overlapped overlapping table
  have chosen : Chosen overlapping (.ofCall "pair" [.int 1, .int 2])
      ⟨"pair", [anyType, "Int64"], .literal (.text "right again")⟩ := resolve?_ofHistory_eq_some_iff.mp rfl
  have nobody : ∀ method ∈ overlapping, ¬ method.Matches (.ofCall "pair" [.null, .null]) :=
    resolve?_ofHistory_eq_none_iff.mp rfl
  refine ⟨table, chosen, ?_, (follows.unmatched (eval 1) context "pair" [.null, .null] rfl nobody).1⟩
  exact congrArg Prod.fst (follows.chosen (eval 1) context "pair" [.int 1, .int 2] _ rfl chosen).2

end CallCapture
