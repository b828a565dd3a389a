import CallCapture.Proofs.Calls
import CallCapture.Proofs.Protocol
import CallCapture.Proofs.Reentrancy

namespace CallCapture

/-- The thread that owns a host, and how many levels it has open. What was
recorded, and whether the capture is verbose, has no part in it. -/
structure Tenure where
  owner : ThreadId
  levels : Nat
  deriving DecidableEq

namespace Tenure

/-- A thread that begins a level becomes the owner, raises the level of its
own, or is refused. A thread that is refused leaves the ownership as it is. -/
def begin (thread : ThreadId) : Option Tenure → Tenure
  | none => ⟨thread, 1⟩
  | some held => if held.owner = thread then ⟨thread, held.levels + 1⟩ else held

/-- Only the owner is to end a level. With the last level of the owner the
ownership ends. This is how it should be, not how it is: the host does not ask
who ends a level. -/
def finish (thread : ThreadId) (held : Tenure) : Option Tenure :=
  if held.owner = thread then if held.levels = 1 then none else some ⟨thread, held.levels - 1⟩ else some held

end Tenure

/-- Who owns a host, if anybody does. A host with one level open is held once,
and every further level is one more. -/
def Host.tenure (host : Host Form) : Option Tenure := host.armed.map fun armed => ⟨armed.owner, armed.depth + 1⟩

/-- The recorder listens to a host just if the host is claimed. It holds as
long as nobody sets the listener by hand. -/
def Host.Hooked (host : Host Form) : Prop := host.listener = host.armed.map fun _ => .recorder

namespace MonitorEvent

/-- What an event makes of the ownership, if only the owner can end a level.
Calls leave it as it is. -/
def tenure (thread : ThreadId) (held : Option Tenure) : MonitorEvent → Option Tenure
  | begin .. => some (Tenure.begin thread held)
  | finish _ => held.bind (Tenure.finish thread)
  | call .. => held

/-- A thread ends a level while another one owns the host. An end on a free
host is nobody's loss, so it is not one. -/
def isForeign (thread : ThreadId) (held : Option Tenure) : MonitorEvent → Bool
  | finish _ => held.any fun held => held.owner ≠ thread
  | _ => false

/-- What an event makes of the host, whoever the thread is. Only the beginning
of a level asks for its owner. -/
def onHost (thread : ThreadId) (host : Host Form) : MonitorEvent → Host Form
  | begin _ _ verbose => ((host.beginCapture? thread verbose).map Prod.snd).getD host
  | finish _ => host.endCapture.2
  | call mode depth signature =>
    let caller := host.calling mode depth
    caller.told signature (if caller.isCompiled then caller.listener else none)

end MonitorEvent

/-- No thread ends a level while another one owns the host. It is told from
the events alone, by what the ownership should be. -/
def endsOwn (held : Option Tenure) : List (ThreadId × MonitorEvent) → Bool
  | [] => true
  | (thread, event) :: rest => !event.isForeign thread held && endsOwn (event.tenure thread held) rest

/-- One event of a thread leaves the host to its owner. -/
structure LeftToOwner (id : HostId) (world : World) (thread : ThreadId) (event : MonitorEvent) : Prop where
  /-- An end by anybody but the owner returns no set, and changes nothing. -/
  strange : ∀ monitor, event = .finish monitor → (∀ armed, (world.hosts.get id).armed = some armed →
      armed.owner ≠ thread) →
    (∃ ending, (Act.through monitor Act.endLevel).outcome world = .ok ending ∧
      ∀ recorded, ending ≠ .outermost recorded) ∧
      (((event.action id thread).after world).hosts.get id).armed = (world.hosts.get id).armed ∧
      (((event.action id thread).after world).hosts.get id).listener = (world.hosts.get id).listener
  /-- The hook is removed only by the owner's end of its last level. -/
  removed : ∀ armed, (world.hosts.get id).armed = some armed →
    (((event.action id thread).after world).hosts.get id).listener = none →
      (∃ monitor, event = .finish monitor) ∧ armed.owner = thread ∧ armed.depth = 0
  follows : (((event.action id thread).after world).hosts.get id).tenure =
    event.tenure thread (world.hosts.get id).tenure

/-- All events leave the host to its owner, one after the other. Each event is
judged in the world that those before it have left. -/
def OwnersOnly (id : HostId) : World → List (ThreadId × MonitorEvent) → Prop
  | _, [] => True
  | world, (thread, event) :: rest =>
    LeftToOwner id world thread event ∧ OwnersOnly id ((event.action id thread).after world) rest

namespace Host

variable {host : Host Form} {armed : Armed}

theorem tenure_unarmed (free : host.armed = none) : host.tenure = none := by
  unfold tenure
  rw [free]
  rfl

theorem tenure_armed (claimed : host.armed = some armed) : host.tenure = some ⟨armed.owner, armed.depth + 1⟩ := by
  unfold tenure
  rw [claimed]
  rfl

theorem Hooked.listening (hooked : host.Hooked) (claimed : host.armed = some armed) :
    host.listener = some .recorder := by
  unfold Hooked at hooked
  rw [hooked, claimed]
  rfl

theorem Hooked.free (hooked : host.Hooked) (silent : host.listener = none) : host.armed = none := by
  cases claimed : host.armed with
  | none => rfl
  | some armed => cases silent.symm.trans (hooked.listening claimed)

end Host

namespace MonitorEvent

variable {host : Host Form} {armed : Armed} {thread : ThreadId}

theorem onHost_begin_unarmed (free : host.armed = none) (monitor unit : String) (verbose : Bool) :
    (begin monitor unit verbose).onHost thread host =
      { host with listener := some .recorder, armed := some { owner := thread, verbose := verbose } } := by
  unfold onHost Host.beginCapture?
  rw [free]
  rfl

theorem onHost_begin_own (claimed : host.armed = some armed) (own : armed.owner = thread) (monitor unit : String)
    (verbose : Bool) : (begin monitor unit verbose).onHost thread host =
      { host with armed := some { armed with depth := armed.depth + 1 } } := by
  unfold onHost Host.beginCapture?
  rw [claimed]
  dsimp only
  rw [if_pos own]
  rfl

theorem onHost_begin_other (claimed : host.armed = some armed) (other : armed.owner ≠ thread) (monitor unit : String)
    (verbose : Bool) : (begin monitor unit verbose).onHost thread host = host := by
  change ((host.beginCapture? thread verbose).map Prod.snd).getD host = host
  rw [Host.beginCapture?_heldAgainst ⟨armed, claimed, other⟩]
  rfl

theorem onHost_call (mode : CompileMode) (depth : Nat) (signature : Signature) (host : Host Form) :
    ((call mode depth signature).onHost thread host).listener = host.listener ∧
      ((call mode depth signature).onHost thread host).tenure = host.tenure ∧
      (((call mode depth signature).onHost thread host).armed.isSome = host.armed.isSome) := by
  unfold onHost
  dsimp only
  rcases (if (host.calling mode depth).isCompiled then (host.calling mode depth).listener else none) with _ | _ | _
  · exact ⟨rfl, rfl, rfl⟩
  · unfold Host.told Host.hear Host.tenure Host.calling
    cases host.armed
    · exact ⟨rfl, rfl, rfl⟩
    · exact ⟨rfl, rfl, rfl⟩
  · exact ⟨rfl, rfl, rfl⟩

theorem onHost_finish_unarmed (free : host.armed = none) (monitor : String) :
    (finish monitor).onHost thread host = host := by
  change host.endCapture.2 = host
  unfold Host.endCapture
  rw [free]

theorem onHost_finish_last (claimed : host.armed = some armed) (last : armed.depth = 0) (monitor : String) :
    (finish monitor).onHost thread host = { host with listener := none, armed := none } :=
  congrArg Prod.snd (Host.endCapture_last claimed last)

theorem onHost_finish_nested {below : Nat} (claimed : host.armed = some armed) (deep : armed.depth = below + 1)
    (monitor : String) :
    (finish monitor).onHost thread host = { host with armed := some { armed with depth := below } } :=
  congrArg Prod.snd (Host.endCapture_nested claimed deep)

/-- No event parts the recorder from the ownership. It is preserved by foreign
ends as well, which end both together. -/
theorem hooked_onHost (hooked : host.Hooked) (event : MonitorEvent) : (event.onHost thread host).Hooked := by
  cases event with
  | begin monitor unit verbose =>
    cases claimed : host.armed with
    | none =>
      rw [onHost_begin_unarmed claimed]
      rfl
    | some armed =>
      have listening := hooked.listening claimed
      by_cases own : armed.owner = thread
      · rw [onHost_begin_own claimed own]
        exact listening
      · rwa [onHost_begin_other claimed own]
  | finish monitor =>
    cases claimed : host.armed with
    | none => rwa [onHost_finish_unarmed claimed]
    | some armed =>
      have listening := hooked.listening claimed
      cases depth : armed.depth with
      | zero =>
        rw [onHost_finish_last claimed depth]
        rfl
      | succ below =>
        rw [onHost_finish_nested claimed depth]
        exact listening
  | call mode depth signature =>
    obtain ⟨listener, _, claimed⟩ := onHost_call mode depth signature host
    unfold Host.Hooked at hooked ⊢
    rw [listener, hooked]
    revert claimed
    cases host.armed with
    | none =>
      cases ((call mode depth signature).onHost thread host).armed with
      | none => exact fun _ => rfl
      | some _ => exact fun other => nomatch other
    | some _ =>
      cases ((call mode depth signature).onHost thread host).armed with
      | none => exact fun other => nomatch other
      | some _ => exact fun _ => rfl

/-- Unless it is a foreign end, an event makes of the ownership what it
should. -/
theorem tenure_onHost {event : MonitorEvent} (own : event.isForeign thread host.tenure = false) :
    (event.onHost thread host).tenure = event.tenure thread host.tenure := by
  cases event with
  | begin monitor unit verbose =>
    cases claimed : host.armed with
    | none =>
      rw [onHost_begin_unarmed claimed, Host.tenure_unarmed claimed]
      rfl
    | some armed =>
      rw [Host.tenure_armed claimed]
      by_cases same : armed.owner = thread
      · rw [onHost_begin_own claimed same, Host.tenure_armed rfl]
        exact congrArg some ((if_pos same).trans (by rw [same])).symm
      · rw [onHost_begin_other claimed same, Host.tenure_armed claimed]
        exact congrArg some (if_neg same).symm
  | finish monitor =>
    cases claimed : host.armed with
    | none =>
      rw [onHost_finish_unarmed claimed, Host.tenure_unarmed claimed]
      rfl
    | some armed =>
      rw [Host.tenure_armed claimed] at own ⊢
      have same : armed.owner = thread := by simpa [isForeign] using own
      have ends : (finish monitor).tenure thread (some ⟨armed.owner, armed.depth + 1⟩) =
          if armed.depth + 1 = 1 then none else some ⟨thread, armed.depth⟩ := if_pos same
      rw [ends]
      cases depth : armed.depth with
      | zero =>
        rw [onHost_finish_last claimed depth, if_pos rfl]
        rfl
      | succ below =>
        rw [onHost_finish_nested claimed depth, Host.tenure_armed rfl, if_neg (by omega), same]
  | call mode depth signature => exact (onHost_call mode depth signature host).2.1

end MonitorEvent

/-- An event does to the host what it is said to do, and leaves all names. One
case for each kind of event, each with its refusals. -/
theorem MonitorEvent.action_after {id : HostId} {world : World} {event : MonitorEvent} (thread : ThreadId)
    (bound : Over world id [event]) :
    ((event.action id thread).after world).names = world.names ∧
      ((event.action id thread).after world).hosts.get id = event.onHost thread (world.hosts.get id) := by
  cases event with
  | begin monitor unit verbose =>
    have known := bound _ (List.mem_singleton_self _) monitor rfl
    unfold action
    rw [Act.after_discard, Act.after, Act.through_run known, ← Act.after]
    change _ ∧ _ = (((world.hosts.get id).beginCapture? thread verbose).map Prod.snd).getD (world.hosts.get id)
    cases begun : (world.hosts.get id).beginCapture? thread verbose with
    | none =>
      obtain ⟨_, left⟩ := Act.beginLevel_refused unit begun
      rw [left]
      exact ⟨rfl, rfl⟩
    | some claimed =>
      obtain ⟨_, moved⟩ := Act.beginLevel_begun unit begun
      exact ⟨moved.names, moved.get_self⟩
  | finish monitor =>
    have known := bound _ (List.mem_singleton_self _) monitor rfl
    obtain ⟨_, moved⟩ := Act.endLevel_ended id world
    unfold action
    rw [Act.after_discard, Act.after, Act.through_run known, ← Act.after]
    exact ⟨moved.names, moved.get_self⟩
  | call mode depth signature =>
    have put := Moved.put world id ((world.hosts.get id).calling mode depth) []
    have performs : ((MonitorEvent.call mode depth signature).action id thread).after world =
        (Act.publish id signature).after
          { world with hosts := world.hosts.put id ((world.hosts.get id).calling mode depth) } := by
      unfold action
      rw [Act.after_host_bind]
      rfl
    rw [performs, Act.after, Act.publish_run]
    have told := World.telling_moved
      { world with hosts := world.hosts.put id ((world.hosts.get id).calling mode depth) } id signature
    have self := put.get_self
    refine ⟨(told _).names, (told _).get_self.trans ?_⟩
    rw [self]
    rfl

/-- The host is left to its owner by an event just if this is not a
foreign end. A foreign end gives the set to the wrong thread, or takes a
level from the right one. -/
theorem leftToOwner_iff {id : HostId} {world : World} {event : MonitorEvent} (thread : ThreadId)
    (bound : Over world id [event]) (hooked : (world.hosts.get id).Hooked) :
    LeftToOwner id world thread event ↔ event.isForeign thread (world.hosts.get id).tenure = false := by
  obtain ⟨_, changed⟩ := event.action_after thread bound
  have still := @MonitorEvent.hooked_onHost _ thread hooked event
  constructor
  · intro left
    by_contra foreign
    cases event with
    | begin monitor unit verbose => exact foreign rfl
    | call mode depth signature => exact foreign rfl
    | finish monitor =>
      cases claimed : (world.hosts.get id).armed with
      | none =>
        rw [Host.tenure_unarmed claimed] at foreign
        exact foreign rfl
      | some armed =>
        rw [Host.tenure_armed claimed] at foreign
        have other : armed.owner ≠ thread := by simpa [MonitorEvent.isForeign] using foreign
        obtain ⟨_, same, _⟩ := left.strange monitor rfl fun found also => by
          rw [claimed] at also
          cases also
          exact other
        -- the foreign end has lowered the level of the owner, or disarmed the host
        rw [changed, claimed] at same
        cases depth : armed.depth with
        | zero =>
          rw [MonitorEvent.onHost_finish_last claimed depth] at same
          cases same
        | succ below =>
          rw [MonitorEvent.onHost_finish_nested claimed depth] at same
          have level : below = armed.depth := congrArg Armed.depth (Option.some.inj same)
          omega
  · intro own
    have follows := MonitorEvent.tenure_onHost own
    refine ⟨?_, ?_, by rw [changed, follows]⟩
    · rintro monitor rfl nobody
      rw [changed]
      cases claimed : (world.hosts.get id).armed with
      | none =>
        have known := bound _ (List.mem_singleton_self _) monitor rfl
        have unarmed : (world.hosts.get id).endCapture.1 = .unarmed := by
          unfold Host.endCapture
          rw [claimed]
        have ended := (Act.endLevel_ended id world).1
        rw [unarmed] at ended
        rw [MonitorEvent.onHost_finish_unarmed claimed, Act.outcome, Act.through_run known]
        have unlike : ∀ recorded, Ending.unarmed ≠ .outermost recorded := by
          intro recorded same
          cases same
        exact ⟨⟨.unarmed, ended, unlike⟩, claimed, rfl⟩
      | some armed =>
        rw [Host.tenure_armed claimed] at own
        have same : armed.owner = thread := by simpa [MonitorEvent.isForeign] using own
        exact absurd same (nobody armed claimed)
    · intro armed claimed silent
      rw [changed] at silent
      rw [Host.tenure_unarmed (still.free silent), Host.tenure_armed claimed] at follows
      cases event with
      | begin monitor unit verbose => cases follows
      | call mode depth signature => cases follows
      | finish monitor =>
        change none = if armed.owner = thread then if armed.depth + 1 = 1 then none else some _ else some _ at follows
        split at follows
        · rename_i same
          split at follows
          · rename_i last
            exact ⟨⟨monitor, rfl⟩, same, Nat.succ.inj last⟩
          · cases follows
        · cases follows

/-- Events of any threads on the monitors of a host leave it to its owner,
each of them, if and only if no thread ends a level while another one owns the
host. By induction on the events: up to the first foreign end, the ownership
is what it should be. -/
theorem ownersOnly_iff {id : HostId} {world : World} {events : List (ThreadId × MonitorEvent)}
    (bound : Over world id (events.map Prod.snd)) (hooked : (world.hosts.get id).Hooked) :
    OwnersOnly id world events ↔ endsOwn (world.hosts.get id).tenure events = true := by
  induction events generalizing world with
  | nil => exact ⟨fun _ => rfl, fun _ => trivial⟩
  | cons first rest ih =>
    obtain ⟨thread, event⟩ := first
    obtain ⟨boundFirst, boundRest⟩ := List.forall_mem_cons.mp bound
    have boundNow : Over world id [event] := List.forall_mem_singleton.mpr boundFirst
    obtain ⟨names, changed⟩ := event.action_after thread boundNow
    have now := leftToOwner_iff thread boundNow hooked
    have behind : event.isForeign thread (world.hosts.get id).tenure = false →
        (OwnersOnly id ((event.action id thread).after world) rest ↔
          endsOwn (event.tenure thread (world.hosts.get id).tenure) rest = true) := by
      intro own
      have boundBehind : Over ((event.action id thread).after world) id (rest.map Prod.snd) := by
        unfold Over
        rwa [names]
      have still : (((event.action id thread).after world).hosts.get id).Hooked := by
        rw [changed]
        exact MonitorEvent.hooked_onHost hooked event
      have further := ih boundBehind still
      rwa [changed, MonitorEvent.tenure_onHost own] at further
    unfold OwnersOnly endsOwn
    rw [Bool.and_eq_true, Bool.not_eq_true', now]
    exact and_congr_right behind

/-- From a host that nobody has claimed, the owners are those that the events
tell. So the host is disarmed by its owner alone just if no thread ends a
level of another one. -/
theorem disarmed_by_owner_iff {id : HostId} {world : World} (free : (world.hosts.get id).armed = none)
    (silent : (world.hosts.get id).listener = none) {events : List (ThreadId × MonitorEvent)}
    (bound : Over world id (events.map Prod.snd)) : OwnersOnly id world events ↔ endsOwn none events = true := by
  have hooked : (world.hosts.get id).Hooked := by
    unfold Host.Hooked
    rw [free, silent]
    rfl
  rw [ownersOnly_iff bound hooked, Host.tenure_unarmed free]

namespace Session

/-- Another thread is refused and comes again when the host is free; each ends
its own levels only. -/
def takingTurns : List (ThreadId × MonitorEvent) :=
  [(mainThread, .begin "one" "unit" false), (System.secondThread, .begin "two" "other" false),
    (mainThread, .call .forced 0 ⟨"first", []⟩), (mainThread, .begin "two" "unit" false), (mainThread, .finish "one"),
    (mainThread, .finish "two"), (System.secondThread, .finish "two"),
    (System.secondThread, .begin "one" "other" true), (mainThread, .begin "two" "unit" false),
    (System.secondThread, .finish "two")]

/-- The main thread has recorded a call, and another thread has been
refused. The refused thread holds no level, and the host still belongs
to the main thread. -/
def refusing : List (ThreadId × MonitorEvent) :=
  [(mainThread, .begin "one" "unit" false), (mainThread, .call .forced 0 ⟨"first", []⟩),
    (System.secondThread, .begin "two" "other" false)]

/-- The world in which the other thread has just been refused. What that
thread does next shows whether it can end levels that it has not begun. -/
def refused : World :=
  refusing.foldl (fun before event => (event.2.action firstHost event.1).after before) watched

end Session

open Session in
theorem disarmed_by_owner_takingTurns : OwnersOnly firstHost watched takingTurns := by
  have bound : Over watched firstHost (takingTurns.map Prod.snd) := by decide +kernel
  exact (disarmed_by_owner_iff rfl rfl bound).mpr rfl

open Session in
/-- The thread that has just been refused gets the set, and the host is
disarmed under its owner. -/
theorem refused_disarms :
    ¬ OwnersOnly firstHost watched (refusing ++ [(System.secondThread, .finish "two")]) ∧
      (refused.hosts.get firstHost).tenure = some ⟨mainThread, 1⟩ ∧
      (∃ set : CaptureSet, set.signatures = [⟨"first", []⟩] ∧
        (Act.through "two" Act.endLevel).outcome refused = .ok (.outermost set)) ∧
      (((Act.through "two" Act.endLevel).after refused).hosts.get firstHost).armed = none := by
  have claimed : (refused.hosts.get firstHost).tenure = some ⟨mainThread, 1⟩ := by decide +kernel
  refine ⟨?_, claimed, ⟨CaptureSet.empty.record ⟨"first", []⟩, by decide +kernel, rfl⟩, by decide +kernel⟩
  rintro ⟨_, _, _, stolen, _⟩
  obtain ⟨_, same, _⟩ := stolen.strange "two" rfl fun armed owned => by
    cases owned
    decide
  revert same
  decide +kernel

end CallCapture
