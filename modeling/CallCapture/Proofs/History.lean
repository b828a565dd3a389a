import CallCapture.Session.World

namespace CallCapture

/-- The occurrences of `later` that `earlier` does not have yet, in order. A
world keeps its trace with the latest occurrence first, and never loses one.
What happens in a stretch of a session is what the trace has gained in it. -/
def World.since (earlier later : World) : List Occurrence :=
  (later.trace.take (later.trace.length - earlier.trace.length)).reverse

/-- What a course adds to the trace is what is seen of it afterwards, whatever
had occurred before. -/
theorem World.since_eq {earlier later : World} {occurrences : List Occurrence}
    (trace : later.trace = occurrences.reverse ++ earlier.trace) : earlier.since later = occurrences := by
  have length : later.trace.length - earlier.trace.length = occurrences.reverse.length := by
    rw [trace, List.length_append]
    omega
  rw [World.since, length, trace, List.take_left, List.reverse_reverse]

/-- Of equal items only the first counts: a further one changes the list only
if it was not in it before. -/
theorem eraseDups_append_singleton {α : Type} [DecidableEq α] (items : List α) (last : α) :
    (items ++ [last]).eraseDups = if last ∈ items then items.eraseDups else items.eraseDups ++ [last] := by
  rw [List.eraseDups_append]
  split
  · rename_i known
    simp [List.removeAll, known]
  · rename_i new
    simp [List.removeAll, new, List.eraseDups_cons]

/-- The signatures of the calls that were resolved on a host by the types of
their arguments, in the order of the calls. Calls that ended without a method
are not among them. They are what a capture is to record, as seen by somebody
who only watches the calls. -/
def invokedOn (host : HostId) (occurrences : List Occurrence) : List Signature :=
  occurrences.filterMap fun
    | .invoked id _ signature => if id = host then some signature else none
    | _ => none

/-- A set that has heard further signatures, one after the other. A signature
that is heard again adds a hit and no entry. -/
def CaptureSet.recordAll (set : CaptureSet) (signatures : List Signature) : CaptureSet :=
  signatures.foldl CaptureSet.record set

theorem CaptureSet.recordAll_append (set : CaptureSet) (first rest : List Signature) :
    set.recordAll (first ++ rest) = (set.recordAll first).recordAll rest :=
  List.foldl_append

/-- One call of a sink: for a capture of which host, which sink, and what it
was given. A call that a session makes itself has no host. That it was made
does not say that the sink has taken what it was given. -/
structure HandOver where
  source : Option HostId
  sink : SinkId
  emission : Emission
  deriving DecidableEq, Inhabited

/-- The calls of sinks, in the order in which they were made,
refused ones included. -/
def handOvers (occurrences : List Occurrence) : List HandOver :=
  occurrences.filterMap fun
    | .handedOver source sink artifact signatures => some ⟨source, sink, ⟨artifact, signatures⟩⟩
    | _ => none

/-- The calls of sinks that captures of one host made. Those of other hosts,
and those that the session makes itself, are left out. -/
def handOversOf (host : HostId) (occurrences : List Occurrence) : List HandOver :=
  (handOvers occurrences).filter fun call => call.source = some host

theorem invokedOn_append (host : HostId) (first rest : List Occurrence) :
    invokedOn host (first ++ rest) = invokedOn host first ++ invokedOn host rest :=
  List.filterMap_append

theorem handOvers_append (first rest : List Occurrence) :
    handOvers (first ++ rest) = handOvers first ++ handOvers rest :=
  List.filterMap_append

theorem handOversOf_append (host : HostId) (first rest : List Occurrence) :
    handOversOf host (first ++ rest) = handOversOf host first ++ handOversOf host rest := by
  simp only [handOversOf, handOvers_append, List.filter_append]

/-- What is held by hand after some occurrences, the latest first. There is no
answer if something is let go that is not the latest of what is held. Guards
and lockouts are held alike, and may stand between each other. -/
def heldAfter (held : List Holding) : List Occurrence → Option (List Holding)
  | [] => some held
  | .held holding :: rest => heldAfter (holding :: held) rest
  | .letGo holding :: rest =>
    match held with
    | [] => none
    | latest :: earlier => if latest = holding then heldAfter earlier rest else none
  | _ :: rest => heldAfter held rest

/-- Whatever is taken into the hand is let go again in reverse order, and
nothing that was held before. To ask this of the captures of one host, it is
applied to `capturesHandled`. Captures that a form encloses are never in the
hand, so they have no part in it. -/
def LetsGoInOrder (occurrences : List Occurrence) : Prop := heldAfter [] occurrences = some []

instance (occurrences : List Occurrence) : Decidable (LetsGoInOrder occurrences) :=
  inferInstanceAs (Decidable (heldAfter [] occurrences = some []))

/-- What is held after two stretches is found by going through the first and
then, from what is held there, through the second. If nothing can be held
behind the first one, nothing can be held behind both. -/
theorem heldAfter_append (held : List Holding) (first rest : List Occurrence) :
    heldAfter held (first ++ rest) = (heldAfter held first).bind fun middle => heldAfter middle rest := by
  induction first generalizing held with
  | nil => rfl
  | cons occurrence first ih =>
    cases occurrence with
    | letGo holding =>
      cases held with
      | nil => rfl
      | cons latest earlier =>
        simp only [List.cons_append, heldAfter]
        split
        · exact ih earlier
        · rfl
    | held holding => exact ih (holding :: held)
    | _ => exact ih held

theorem heldAfter_append_eq_some {held last : List Holding} {first rest : List Occurrence} :
    heldAfter held (first ++ rest) = some last ↔
      ∃ middle, heldAfter held first = some middle ∧ heldAfter middle rest = some last := by
  rw [heldAfter_append, Option.bind_eq_some_iff]

/-- What is taken into the hand, and what is let go. Only forms that name a
guard or a lockout do either. -/
def Occurrence.handles : Occurrence → Bool
  | held _ | letGo _ => true
  | _ => false

theorem heldAfter_of_not_handles {held : List Holding} {occurrences : List Occurrence}
    (plain : ∀ occurrence ∈ occurrences, occurrence.handles = false) : heldAfter held occurrences = some held := by
  induction occurrences with
  | nil => rfl
  | cons occurrence rest ih =>
    simp only [List.mem_cons, forall_eq_or_imp] at plain
    have behind := ih plain.2
    cases occurrence with
    | held holding => cases plain.1
    | letGo holding => cases plain.1
    | _ => exact behind

/-- A capture or lockout is let go in order just if it is the latest that is
held, and the rest goes on without it. -/
theorem heldAfter_letGo_eq_some {held last : List Holding} {holding : Holding} {rest : List Occurrence} :
    heldAfter held (.letGo holding :: rest) = some last ↔
      ∃ earlier, held = holding :: earlier ∧ heldAfter earlier rest = some last := by
  cases held with
  | nil => simp [heldAfter]
  | cons latest earlier =>
    change (if latest = holding then heldAfter earlier rest else none) = some last ↔ _
    constructor
    · intro holds
      split at holds
      · rename_i same
        exact ⟨earlier, by rw [same], holds⟩
      · cases holds
    · rintro ⟨others, same, holds⟩
      cases same
      rwa [if_pos rfl]

/-- A capture of a host is taken into the hand or let go. Lockouts, and
captures of other hosts, are passed over. -/
def Occurrence.handlesCaptureOf (id : HostId) : Occurrence → Bool
  | held holding | letGo holding => holding.monitor = some id
  | _ => false

/-- What becomes of the captures of a host that are held by hand. In what is
left, the order of letting go is asked of these captures alone. -/
def capturesHandled (id : HostId) (occurrences : List Occurrence) : List Occurrence :=
  occurrences.filter (Occurrence.handlesCaptureOf id)

theorem capturesHandled_append (id : HostId) (first rest : List Occurrence) :
    capturesHandled id (first ++ rest) = capturesHandled id first ++ capturesHandled id rest :=
  List.filter_append ..

theorem capturesHandled_of_not_handles {id : HostId} {occurrences : List Occurrence}
    (plain : ∀ occurrence ∈ occurrences, occurrence.handles = false) : capturesHandled id occurrences = [] := by
  refine List.filter_eq_nil_iff.mpr fun occurrence member => ?_
  have other := plain occurrence member
  cases occurrence <;> first | exact Bool.false_ne_true | cases other

/-- How many levels of a host belong to captures that are held by hand.
Lockouts hold no level, so they do not count. -/
def heldLevels (host : HostId) (held : List Holding) : Nat :=
  held.countP fun holding => holding.monitor = some host

end CallCapture
