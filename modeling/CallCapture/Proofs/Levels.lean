import CallCapture.Proofs.Course

namespace CallCapture

namespace Host

variable {host changed : Host Form} {thread : ThreadId} {verbose : Bool} {nesting : Nesting} {armed : Armed}

/-- The first capture of a free host claims it for its thread, with an empty
set, and puts the recorder where the listener is. -/
theorem beginCapture?_unarmed (free : host.armed = none)
    (begun : host.beginCapture? thread verbose = some (nesting, changed)) :
    nesting = .outermost ∧
      changed = { host with listener := some .recorder, armed := some { owner := thread, verbose := verbose } } := by
  unfold beginCapture? at begun
  rw [free] at begun
  cases begun
  exact ⟨rfl, rfl⟩

/-- A capture that may begin on a claimed host only adds a level: the owner,
the set and the listener stay as they are. -/
theorem beginCapture?_armed (claimed : host.armed = some armed)
    (begun : host.beginCapture? thread verbose = some (nesting, changed)) :
    nesting = .nested (armed.depth + 1) ∧
      changed = { host with armed := some { armed with depth := armed.depth + 1 } } := by
  unfold beginCapture? at begun
  rw [claimed] at begun
  dsimp only at begun
  split at begun
  · cases begun
    exact ⟨rfl, rfl⟩
  · cases begun

theorem beginCapture?_mode (begun : host.beginCapture? thread verbose = some (nesting, changed)) :
    changed.mode = host.mode ∧ changed.depth = host.depth := by
  cases claimed : host.armed with
  | none =>
    obtain ⟨_, rfl⟩ := beginCapture?_unarmed claimed begun
    exact ⟨rfl, rfl⟩
  | some armed =>
    obtain ⟨_, rfl⟩ := beginCapture?_armed claimed begun
    exact ⟨rfl, rfl⟩

/-- The end of the last level frees the host, takes the listener away,
whatever it was, and answers with all that was recorded. -/
theorem endCapture_last (claimed : host.armed = some armed) (last : armed.depth = 0) :
    host.endCapture = (.outermost armed.recorded, { host with listener := none, armed := none }) := by
  unfold endCapture
  rw [claimed]
  exact if_pos last

/-- The end of a further level only counts down. The set stays with the host
for the outermost capture. -/
theorem endCapture_nested {level : Nat} (claimed : host.armed = some armed) (deep : armed.depth = level + 1) :
    host.endCapture = (.nested, { host with armed := some { armed with depth := level } }) := by
  unfold endCapture
  rw [claimed]
  dsimp only
  rw [if_neg (by omega), deep, Nat.add_sub_cancel]

theorem endCapture_mode (host : Host Form) :
    host.endCapture.2.mode = host.mode ∧ host.endCapture.2.depth = host.depth := by
  unfold endCapture
  split
  · exact ⟨rfl, rfl⟩
  · split <;> exact ⟨rfl, rfl⟩

end Host

namespace Guard

/-- How many levels a guard holds on a host. It is one or none, so that levels
can be counted host by host. -/
def levelOn (guard : Guard) (id : HostId) : Nat := if guard.precompiler.monitor = id then 1 else 0

end Guard

theorem Opens.previous {guard : Guard} {world opened : World} {opening : List Occurrence}
    (opens : Opens guard world opening opened) :
    guard.previous = (world.hosts.get guard.precompiler.engine).mode := by
  cases opens with
  | intro begun claim previous lock =>
    exact previous.trans (claim.same Host.mode (Host.beginCapture?_mode begun).1 guard.precompiler.engine)

/-- Opening a capture on a claimed host adds a level if it is a capture
of this host, and nothing is lost: the set, the owner and the listener
are kept. The engine of the capture may be this host as well, and then
its mode is forced. -/
theorem Opens.get_armed {guard : Guard} {world opened : World} {opening : List Occurrence} {id : HostId}
    {armed : Armed} (opens : Opens guard world opening opened) (claimed : (world.hosts.get id).armed = some armed) :
    opened.hosts.get id = { world.hosts.get id with
      armed := some { armed with depth := armed.depth + guard.levelOn id }
      mode := if guard.precompiler.engine = id then .forced else (world.hosts.get id).mode } := by
  cases opens with
  | @intro between _ thread verbose changed begun claim previous lock =>
    have level : between.hosts.get id = { world.hosts.get id with
        armed := some { armed with depth := armed.depth + guard.levelOn id } } := by
      unfold Guard.levelOn
      rw [claim.hosts]
      by_cases monitor : guard.precompiler.monitor = id
      · rw [monitor] at begun
        rw [if_pos monitor.symm, if_pos monitor]
        exact (Host.beginCapture?_armed claimed begun).2
      · rw [if_neg (Ne.symm monitor), if_neg monitor, Nat.add_zero, ← claimed]
    rw [lock.hosts]
    by_cases engine : guard.precompiler.engine = id
    · rw [if_pos engine.symm, if_pos engine, engine, level]
      rfl
    · rw [if_neg (Ne.symm engine), if_neg engine, level]

/-- Closing a capture that holds a further level takes this level away, and
nothing is handed over. A capture of another host leaves this one alone but
for its mode. This is how captures within another one end. -/
theorem Closes.get_nested {guard : Guard} {world later : World} {closing : List Occurrence} {id : HostId}
    {armed : Armed} {level : Nat} (closes : Closes guard world closing later)
    (claimed : (world.hosts.get id).armed = some armed) (deep : armed.depth = level + guard.levelOn id) :
    later.hosts.get id = { world.hosts.get id with
      armed := some { armed with depth := level }
      mode := if guard.precompiler.engine = id then guard.previous else (world.hosts.get id).mode } := by
  obtain ⟨ended, released, _, ends, unlock, _, _, hosts, _⟩ := closes.emission
  have below : ended.hosts.get id = { world.hosts.get id with armed := some { armed with depth := level } } := by
    unfold Guard.levelOn at deep
    rw [ends.hosts]
    by_cases monitor : guard.precompiler.monitor = id
    · rw [if_pos monitor] at deep
      rw [if_pos monitor.symm, monitor, Host.endCapture_nested claimed deep]
    · rw [if_neg monitor, Nat.add_zero] at deep
      rw [if_neg (Ne.symm monitor), ← deep, ← claimed]
  rw [hosts, unlock.hosts]
  by_cases engine : guard.precompiler.engine = id
  · rw [if_pos engine.symm, if_pos engine, engine, below]
    rfl
  · rw [if_neg (Ne.symm engine), if_neg engine, below]

theorem Opens.mode {guard : Guard} {world opened : World} {opening : List Occurrence}
    (opens : Opens guard world opening opened) : (opened.hosts.get guard.precompiler.engine).mode = .forced := by
  cases opens with
  | intro _ _ _ lock =>
    rw [lock.get_self]
    rfl

theorem Closes.mode {guard : Guard} {world later : World} {closing : List Occurrence}
    (closes : Closes guard world closing later) :
    (later.hosts.get guard.precompiler.engine).mode = guard.previous := by
  obtain ⟨ended, released, _, _, unlock, _, _, hosts, _⟩ := closes.emission
  rw [hosts, unlock.get_self]
  rfl

theorem Opens.depth {guard : Guard} {world opened : World} {opening : List Occurrence}
    (opens : Opens guard world opening opened) (id : HostId) :
    (opened.hosts.get id).depth = (world.hosts.get id).depth := by
  cases opens with
  | intro begun claim previous lock =>
    have claimed := claim.same Host.depth (Host.beginCapture?_mode begun).2 id
    exact (lock.same Host.depth rfl id).trans claimed

theorem Closes.depth {guard : Guard} {world later : World} {closing : List Occurrence}
    (closes : Closes guard world closing later) (id : HostId) :
    (later.hosts.get id).depth = (world.hosts.get id).depth := by
  obtain ⟨ended, released, _, ends, unlock, _, _, hosts, _⟩ := closes.emission
  have below := ends.same Host.depth (Host.endCapture_mode _).2 id
  rw [hosts]
  exact (unlock.same Host.depth rfl id).trans below

theorem HostMove.depth {id : HostId} {host changed : Host Form} {occurrences : List Occurrence}
    (move : HostMove id host occurrences changed) : changed.depth = host.depth := by
  cases move with
  | begunByHand begun => exact (Host.beginCapture?_mode begun).2
  | endedByHand => exact (Host.endCapture_mode host).2
  | _ => rfl

/-- Method bodies are left as often as they are entered. This needs nothing of
what is held by hand, since the bodies are entered and left by calls alone. It
is one of the things that a captured workload puts back. -/
theorem Course.depth {world later : World} {occurrences : List Occurrence} {id : HostId}
    (course : Course world occurrences later) (made : world.Made id) :
    (later.hosts.get id).depth = (world.hosts.get id).depth := by
  induction course with
  | quiet quiet => rw [quiet.hosts id made]
  | next before _ first rest => rw [rest (before.made made), first made]
  | move move moved => exact moved.same Host.depth move.depth id
  | @method world host opened _ closed _ enters _ leaves inside =>
    have during := inside (Nat.lt_of_lt_of_eq made enters.fresh.symm)
    by_cases same : id = host
    · subst same
      rw [leaves.get_self]
      rw [enters.get_self] at during
      unfold Host.leave
      rw [during]
      exact Nat.add_sub_cancel ..
    · rw [leaves.get_of_ne same, during, enters.get_of_ne same]
  | captured opens _ closes inside =>
    rw [closes.depth, inside (Nat.lt_of_lt_of_eq made opens.fresh.symm), opens.depth]
  | kept opens => exact opens.depth id
  | givenUp closes => exact closes.depth id

theorem Quiet.handles {world later : World} {occurrences : List Occurrence}
    (quiet : Quiet world occurrences later) : ∀ occurrence ∈ occurrences, occurrence.handles = false := by
  intro occurrence member
  have concerned := quiet.quiet occurrence member
  cases occurrence <;> first | rfl | cases concerned

theorem Nesting.handles_occurrence (nesting : Nesting) (id : HostId) (unit : String) :
    (nesting.occurrence id unit).handles = false := by
  cases nesting <;> rfl

theorem Opens.handles {guard : Guard} {world opened : World} {opening : List Occurrence}
    (opens : Opens guard world opening opened) : ∀ occurrence ∈ opening, occurrence.handles = false := by
  cases opens with
  | intro =>
    intro occurrence member
    rcases List.mem_cons.mp member with rfl | member
    · exact guard.nesting.handles_occurrence _ _
    · rw [List.mem_singleton.mp member]
      rfl

/-- What shows the end of a capture. None of it is a call, and nothing of it
is taken into the hand. -/
def Occurrence.isClosing : Occurrence → Bool
  | endedUnarmed _ | levelEnded _ | disarmed .. | released .. | handedOver .. => true
  | occurrence => occurrence.isRemark

theorem Occurrence.isClosing_of_isRemark {occurrence : Occurrence} (remark : occurrence.isRemark = true) :
    occurrence.isClosing = true := by
  cases occurrence <;> first | exact remark | simp [isRemark] at remark

theorem Ending.isClosing_occurrence (ending : Ending) (id : HostId) : (ending.occurrence id).isClosing = true := by
  cases ending <;> rfl

/-- The end of a capture shows nothing but that a level has ended, what has
become of the set, and remarks. -/
theorem Closes.isClosing {guard : Guard} {world later : World} {closing : List Occurrence}
    (closes : Closes guard world closing later) : ∀ occurrence ∈ closing, occurrence.isClosing = true := by
  cases closes with
  | @intro _ _ _ emission level unlock rest =>
    have emitted : ∀ occurrence ∈ emission, occurrence.isClosing = true := by
      split at rest
      · obtain ⟨remarks, rfl, said⟩ := rest
        intro occurrence member
        rcases List.mem_append.mp member with own | other
        · rcases List.mem_cons.mp own with rfl | own
          · rfl
          · rw [List.mem_singleton.mp own]
            rfl
        · exact Occurrence.isClosing_of_isRemark (said.remarks occurrence other)
      · rw [rest.1]
        exact fun _ member => nomatch member
    intro occurrence member
    rcases List.mem_append.mp member with own | other
    · rcases List.mem_cons.mp own with rfl | own
      · exact Ending.isClosing_occurrence _ _
      · rw [List.mem_singleton.mp own]
        rfl
    · exact emitted occurrence other

theorem Closes.handles {guard : Guard} {world later : World} {closing : List Occurrence}
    (closes : Closes guard world closing later) : ∀ occurrence ∈ closing, occurrence.handles = false := by
  intro occurrence member
  have ends := closes.isClosing occurrence member
  cases occurrence <;> first | rfl | cases ends

/-- What can be seen of a move of a host. A lockout that is taken or let go is
among it, as this forces a host or puts its mode back. -/
def Occurrence.isMoveOf (id : HostId) : Occurrence → Bool
  | invoked host .. | delivered host _ | captured host _ | modeSet host _ | hookInstalled host | hookRemoved host
  | armed host _ | nested host .. | refused host _ | levelEnded host | disarmed host _ | endedUnarmed host
  | locked host _ | released host _ | monitorUsed host => host = id
  | held holding | letGo holding => holding.monitor = none
  | _ => false

theorem HostMove.isMoveOf {id : HostId} {host changed : Host Form} {occurrences : List Occurrence}
    (move : HostMove id host occurrences changed) : ∀ occurrence ∈ occurrences, occurrence.isMoveOf id = true := by
  cases move with
  | recorded => split <;> simp [Occurrence.isMoveOf]
  | @begunByHand _ _ _ nesting => cases nesting <;> simp [Nesting.occurrence, Occurrence.isMoveOf]
  | endedByHand =>
    unfold Ending.occurrence
    split <;> simp [Occurrence.isMoveOf]
  | _ => simp [Occurrence.isMoveOf]

theorem capturesHandled_held (id : HostId) (guard : Guard) (name : String) :
    capturesHandled id [.held (guard.holding name)] =
      if guard.precompiler.monitor = id then [.held (guard.holding name)] else [] := by
  unfold capturesHandled Occurrence.handlesCaptureOf Guard.holding
  split <;> simp [*]

theorem capturesHandled_letGo (id : HostId) (guard : Guard) (name : String) :
    capturesHandled id [.letGo (guard.holding name)] =
      if guard.precompiler.monitor = id then [.letGo (guard.holding name)] else [] := by
  unfold capturesHandled Occurrence.handlesCaptureOf Guard.holding
  split <;> simp [*]

/-- Of the guards that are taken into the hand, those are counted that hold a
level of the host. -/
theorem length_of_held {guard : Guard} {id : HostId} {name : String} {held last : List Holding}
    (holds : heldAfter held (capturesHandled id [.held (guard.holding name)]) = some last) :
    last.length = held.length + guard.levelOn id := by
  rw [capturesHandled_held] at holds
  unfold Guard.levelOn
  by_cases own : guard.precompiler.monitor = id
  · rw [if_pos own] at holds ⊢
    cases holds
    rfl
  · rw [if_neg own] at holds ⊢
    cases holds
    rfl

theorem length_of_letGo {guard : Guard} {id : HostId} {name : String} {held last : List Holding}
    (holds : heldAfter held (capturesHandled id [.letGo (guard.holding name)]) = some last) :
    held.length = last.length + guard.levelOn id := by
  rw [capturesHandled_letGo] at holds
  unfold Guard.levelOn
  by_cases own : guard.precompiler.monitor = id
  · rw [if_pos own] at holds ⊢
    obtain ⟨earlier, rfl, same⟩ := heldAfter_letGo_eq_some.mp holds
    cases same
    rfl
  · rw [if_neg own] at holds ⊢
    cases holds
    rfl

/-- Moves take no captures into the hand. A lockout is a move,
and is not counted. -/
theorem HostMove.capturesHandled {other : HostId} {host changed : Host Form} {occurrences : List Occurrence}
    (id : HostId) (move : HostMove other host occurrences changed) : capturesHandled id occurrences = [] := by
  refine List.filter_eq_nil_iff.mpr fun occurrence member => ?_
  have shown := move.isMoveOf occurrence member
  cases occurrence with
  | held holding | letGo holding =>
    have lockout : holding.monitor = none := of_decide_eq_true shown
    simp [Occurrence.handlesCaptureOf, lockout]
  | _ => exact Bool.false_ne_true

/-- The captures that are handled inside a method body are those that
are handled at all. -/
theorem capturesHandled_method (id other : HostId) (inside : List Occurrence) :
    capturesHandled id ([.entered other] ++ inside ++ [.left other]) = capturesHandled id inside := by
  rw [capturesHandled_append, capturesHandled_append]
  exact List.append_nil _

/-- A capture that is opened and closed around a stretch takes nothing into
the hand itself. What is handled is what is handled inside. -/
theorem capturesHandled_around {guard : Guard} {world opened closed later : World}
    {opening inside closing : List Occurrence} {id : HostId} (opens : Opens guard world opening opened)
    (closes : Closes guard closed closing later) :
    capturesHandled id (opening ++ inside ++ closing) = capturesHandled id inside := by
  rw [capturesHandled_append, capturesHandled_append, capturesHandled_of_not_handles opens.handles,
    capturesHandled_of_not_handles closes.handles, List.nil_append, List.append_nil]

/-- A capture that is opened and kept in the hand is one more of those that
are counted if it is a capture of the host. -/
theorem Opens.length_kept {guard : Guard} {world opened : World} {opening : List Occurrence} {id : HostId} {name : String}
    {held last : List Holding} (opens : Opens guard world opening opened)
    (holds : heldAfter held (capturesHandled id (opening ++ [.held (guard.holding name)])) = some last) :
    last.length = held.length + guard.levelOn id := by
  rw [capturesHandled_append, capturesHandled_of_not_handles opens.handles, List.nil_append] at holds
  exact length_of_held holds

/-- A capture that is let go and closed is one less of those that are counted
if it is a capture of the host. -/
theorem Closes.length_givenUp {guard : Guard} {world later : World} {closing : List Occurrence} {id : HostId}
    {name : String} {held last : List Holding} (closes : Closes guard world closing later)
    (holds : heldAfter held (capturesHandled id ([.letGo (guard.holding name)] ++ closing)) = some last) :
    held.length = last.length + guard.levelOn id := by
  rw [capturesHandled_append, capturesHandled_of_not_handles closes.handles, List.append_nil] at holds
  exact length_of_letGo holds

theorem HostMove.armed {id : HostId} {host changed : Host Form} {occurrences : List Occurrence} {armed : Armed}
    (move : HostMove id host occurrences changed) (byHand : .monitorUsed id ∉ occurrences)
    (claimed : host.armed = some armed) : ∃ signatures,
      changed.armed = some { armed with recorded := armed.recorded.recordAll signatures } := by
  cases move with
  | @recorded signature =>
    refine ⟨[signature], ?_⟩
    unfold Host.hear
    rw [claimed]
    rfl
  | begunByHand => exact absurd (List.mem_cons_self ..) byHand
  | endedByHand => exact absurd (List.mem_cons_self ..) byHand
  | _ => exact ⟨[], claimed⟩

/-- A claimed host keeps its owner. Its levels are those around what happens
and those of its captures that are held by hand, and the recorder loses
nothing. Only the captures of this host have to be let go in order; lockouts
and captures of other hosts may be let go as they come. The induction follows
the course: a stretch within a capture has one level more around it. -/
theorem Course.levels {world later : World} {occurrences : List Occurrence} {id : HostId}
    (course : Course world occurrences later) (made : world.Made id) (byHand : .monitorUsed id ∉ occurrences)
    {held last : List Holding} (holds : heldAfter held (capturesHandled id occurrences) = some last) {around : Nat}
    {armed : Armed} (claimed : (world.hosts.get id).armed = some armed) (level : armed.depth = around + held.length) :
    ∃ signatures, (later.hosts.get id).armed = some { armed with
      depth := around + last.length
      recorded := armed.recorded.recordAll signatures } := by
  induction course generalizing held last around armed with
  | quiet quiet =>
    rw [capturesHandled_of_not_handles quiet.handles] at holds
    cases holds
    refine ⟨[], ?_⟩
    rw [quiet.hosts id made, claimed, ← level]
    rfl
  | next before _ first rest =>
    rw [List.mem_append, not_or] at byHand
    rw [capturesHandled_append] at holds
    obtain ⟨between, holdsFirst, holdsRest⟩ := heldAfter_append_eq_some.mp holds
    obtain ⟨heard, middle⟩ := first made byHand.1 holdsFirst claimed level
    obtain ⟨further, ended⟩ := rest (before.made made) byHand.2 holdsRest middle rfl
    refine ⟨heard ++ further, ?_⟩
    rw [ended, CaptureSet.recordAll_append]
  | @move _ other _ _ _ move moved =>
    rw [move.capturesHandled] at holds
    cases holds
    rw [← level]
    by_cases same : id = other
    · subst same
      obtain ⟨signatures, heard⟩ := move.armed byHand claimed
      refine ⟨signatures, ?_⟩
      rw [moved.get_self, heard]
    · refine ⟨[], ?_⟩
      rw [moved.get_of_ne same, claimed]
      rfl
  | method enters _ leaves inside =>
    rw [List.mem_append, List.mem_append, not_or, not_or] at byHand
    rw [capturesHandled_method] at holds
    have entered := (enters.same Host.armed rfl id).trans claimed
    obtain ⟨signatures, ended⟩ := inside (Nat.lt_of_lt_of_eq made enters.fresh.symm) byHand.1.2 holds entered level
    exact ⟨signatures, (leaves.same Host.armed rfl id).trans ended⟩
  | @captured world guard _ _ _ _ _ _ opens _ closes inside =>
    rw [List.mem_append, not_or, List.mem_append, not_or] at byHand
    rw [capturesHandled_around opens closes] at holds
    have raised := congrArg Host.armed (opens.get_armed claimed)
    have deeper : armed.depth + guard.levelOn id = around + guard.levelOn id + held.length := by omega
    obtain ⟨signatures, ended⟩ :=
      inside (Nat.lt_of_lt_of_eq made opens.fresh.symm) byHand.1.2 holds raised deeper
    have deep : around + guard.levelOn id + last.length = around + last.length + guard.levelOn id := by omega
    exact ⟨signatures, congrArg Host.armed (closes.get_nested ended deep)⟩
  | @kept _ guard name _ _ opens =>
    have longer := opens.length_kept holds
    have depth : around + last.length = armed.depth + guard.levelOn id := by omega
    rw [depth]
    exact ⟨[], congrArg Host.armed (opens.get_armed claimed)⟩
  | @givenUp _ guard name _ _ closes =>
    have shorter := closes.length_givenUp holds
    have deep : armed.depth = around + last.length + guard.levelOn id := by omega
    exact ⟨[], congrArg Host.armed (closes.get_nested claimed deep)⟩

namespace Host

/-- How many levels are open; a host that nobody claims has none. Unlike the
depth of a capture, it tells a free host from one with a single level. -/
def level (host : Host Form) : Nat :=
  match host.armed with
  | none => 0
  | some armed => armed.depth + 1

theorem level_unarmed {host : Host Form} (free : host.armed = none) : host.level = 0 := by
  unfold level
  rw [free]

theorem level_armed {host : Host Form} {armed : Armed} (claimed : host.armed = some armed) :
    host.level = armed.depth + 1 := by
  unfold level
  rw [claimed]

theorem level_eq_zero {host : Host Form} : host.level = 0 ↔ host.armed = none := by
  cases claimed : host.armed with
  | none => simp [level_unarmed claimed]
  | some armed => simp [level_armed claimed]

theorem recorded_unarmed {host : Host Form} (free : host.armed = none) : host.recorded = [] := by
  unfold recorded
  rw [free]

theorem recorded_armed {host : Host Form} {armed : Armed} (claimed : host.armed = some armed) :
    host.recorded = armed.recorded.signatures := by
  unfold recorded
  rw [claimed]

theorem armed_of_level {host : Host Form} {depth : Nat} (open_ : host.level = depth + 1) :
    ∃ armed, host.armed = some armed ∧ armed.depth = depth := by
  cases claimed : host.armed with
  | none =>
    rw [level_unarmed claimed] at open_
    cases open_
  | some armed =>
    rw [level_armed claimed] at open_
    exact ⟨armed, rfl, Nat.succ.inj open_⟩

/-- A capture is the outermost one just if there was no level before it, and
it adds one level in either case. What the nesting says can so be read off
the level before it. -/
theorem beginCapture?_level {host changed : Host Form} {thread : ThreadId} {verbose : Bool} {nesting : Nesting}
    (begun : host.beginCapture? thread verbose = some (nesting, changed)) :
    nesting = (if host.level = 0 then .outermost else .nested host.level) ∧ changed.level = host.level + 1 := by
  cases claimed : host.armed with
  | none =>
    obtain ⟨rfl, rfl⟩ := beginCapture?_unarmed claimed begun
    rw [level_unarmed claimed]
    exact ⟨rfl, rfl⟩
  | some armed =>
    obtain ⟨rfl, rfl⟩ := beginCapture?_armed claimed begun
    rw [level_armed claimed]
    exact ⟨rfl, rfl⟩

/-- The end of a capture takes one level away. On a free host it takes
none. -/
theorem endCapture_level (host : Host Form) : host.endCapture.2.level = host.level - 1 := by
  cases claimed : host.armed with
  | none =>
    unfold endCapture
    rw [claimed, level_unarmed claimed]
  | some armed =>
    rw [level_armed claimed, Nat.add_sub_cancel]
    cases depth : armed.depth with
    | zero =>
      rw [endCapture_last claimed depth]
      rfl
    | succ level =>
      rw [endCapture_nested claimed depth]
      rfl

end Host

/-- Opening a capture adds a level to the host of its monitor, and to no
other. -/
theorem Opens.level {guard : Guard} {world opened : World} {opening : List Occurrence}
    (opens : Opens guard world opening opened) (id : HostId) :
    (opened.hosts.get id).level = (world.hosts.get id).level + guard.levelOn id := by
  cases opens with
  | @intro claimed _ thread verbose changed begun claim previous lock =>
    refine (lock.same Host.level rfl id).trans ?_
    unfold Guard.levelOn
    by_cases monitor : guard.precompiler.monitor = id
    · subst monitor
      rw [claim.get_self, if_pos rfl]
      exact (Host.beginCapture?_level begun).2
    · rw [claim.get_of_ne (Ne.symm monitor), if_neg monitor]
      rfl

/-- The nesting of a capture that opens tells how many levels there were
before it. It stays what it was, whatever becomes of the levels while
the capture is open. -/
theorem Opens.nesting_eq {guard : Guard} {world opened : World} {opening : List Occurrence}
    (opens : Opens guard world opening opened) :
    guard.nesting = if (world.hosts.get guard.precompiler.monitor).level = 0 then .outermost
      else .nested (world.hosts.get guard.precompiler.monitor).level := by
  cases opens with
  | intro begun => exact (Host.beginCapture?_level begun).1

/-- Closing a capture takes a level from the host of its monitor,
and from no other. -/
theorem Closes.level {guard : Guard} {world later : World} {closing : List Occurrence}
    (closes : Closes guard world closing later) (id : HostId) :
    (later.hosts.get id).level = (world.hosts.get id).level - guard.levelOn id := by
  obtain ⟨ended, released, _, ends, unlock, _, _, hosts, _⟩ := closes.emission
  rw [hosts]
  refine (unlock.same Host.level rfl id).trans ?_
  unfold Guard.levelOn
  by_cases monitor : guard.precompiler.monitor = id
  · subst monitor
    rw [ends.get_self, if_pos rfl]
    exact Host.endCapture_level _
  · rw [ends.get_of_ne (Ne.symm monitor), if_neg monitor]
    rfl

/-- A move adds no level and takes none away, unless a monitor is used by
hand. -/
theorem HostMove.level {id : HostId} {host changed : Host Form} {occurrences : List Occurrence}
    (move : HostMove id host occurrences changed) (byHand : .monitorUsed id ∉ occurrences) :
    changed.level = host.level := by
  cases move with
  | recorded =>
    unfold Host.level Host.hear
    cases host.armed <;> rfl
  | begunByHand => exact absurd (List.mem_cons_self ..) byHand
  | endedByHand => exact absurd (List.mem_cons_self ..) byHand
  | _ => rfl

/-- What leaves the levels of a host to captures, and lets go of
whatever captures of the host it takes into the hand, leaves as many
levels as it has found. -/
theorem Course.level {world later : World} {occurrences : List Occurrence} {id : HostId}
    (course : Course world occurrences later) (made : world.Made id) (byHand : .monitorUsed id ∉ occurrences)
    {held last : List Holding} (holds : heldAfter held (capturesHandled id occurrences) = some last) {around : Nat}
    (level : (world.hosts.get id).level = around + held.length) :
    (later.hosts.get id).level = around + last.length := by
  induction course generalizing held last around with
  | quiet quiet =>
    rw [capturesHandled_of_not_handles quiet.handles] at holds
    cases holds
    rw [quiet.hosts id made, level]
  | next before _ first rest =>
    rw [List.mem_append, not_or] at byHand
    rw [capturesHandled_append] at holds
    obtain ⟨between, holdsFirst, holdsRest⟩ := heldAfter_append_eq_some.mp holds
    exact rest (before.made made) byHand.2 holdsRest (first made byHand.1 holdsFirst level)
  | @move _ other _ _ _ move moved =>
    rw [move.capturesHandled] at holds
    cases holds
    rw [← level]
    by_cases same : id = other
    · subst same
      rw [moved.get_self]
      exact move.level byHand
    · rw [moved.get_of_ne same]
  | method enters _ leaves inside =>
    rw [List.mem_append, List.mem_append, not_or, not_or] at byHand
    rw [capturesHandled_method] at holds
    refine (leaves.same Host.level rfl id).trans ?_
    exact inside (Nat.lt_of_lt_of_eq made enters.fresh.symm) byHand.1.2 holds
      ((enters.same Host.level rfl id).trans level)
  | @captured _ guard _ opened _ _ _ _ opens _ closes inside =>
    rw [List.mem_append, not_or, List.mem_append, not_or] at byHand
    rw [capturesHandled_around opens closes] at holds
    have raised : (opened.hosts.get id).level = around + guard.levelOn id + held.length := by
      rw [opens.level, level]
      omega
    have during := inside (Nat.lt_of_lt_of_eq made opens.fresh.symm) byHand.1.2 holds raised
    rw [closes.level, during]
    omega
  | @kept _ guard name _ opened opens =>
    have longer := opens.length_kept holds
    have raised : (opened.hosts.get id).level = around + held.length + guard.levelOn id := by
      rw [opens.level, level]
    exact raised.trans (by omega)
  | @givenUp _ guard name _ later closes =>
    have shorter := closes.length_givenUp holds
    have lowered : (later.hosts.get id).level = around + held.length - guard.levelOn id :=
      (closes.level id).trans (congrArg (· - guard.levelOn id) level)
    rw [lowered]
    omega

end CallCapture
