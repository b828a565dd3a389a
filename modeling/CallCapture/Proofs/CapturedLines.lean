import CallCapture.Proofs.EvaluationSteps
import CallCapture.Proofs.Frames
import CallCapture.Proofs.Outermost
import CallCapture.Proofs.SignatureText

namespace CallCapture

/-- Signatures of which each stands once and is known for
something. What is known of a signature is left open; it is used
for having the types of values. -/
structure Gathered (known : Signature → Prop) (signatures : List Signature) : Prop where
  distinct : signatures.Nodup
  each : ∀ signature ∈ signatures, known signature

variable {known : Signature → Prop}

theorem gathered_nil : Gathered known [] := ⟨List.nodup_nil, fun _ member => (nomatch member)⟩

/-- A set that hears of a call which is known for something stays one of such
calls, each of them once. -/
theorem CaptureSet.gathered_record {set : CaptureSet} {signature : Signature} (gathered : Gathered known set.signatures)
    (heard : known signature) : Gathered known (set.record signature).signatures := by
  rw [signatures_record]
  split
  · exact gathered
  · rename_i new
    rw [contains, List.contains_iff_mem] at new
    refine ⟨List.nodup_append.mpr ⟨gathered.distinct, List.nodup_singleton _, ?_⟩, fun other member => ?_⟩
    · intro earlier member last single same
      rw [List.mem_singleton.mp single] at same
      exact new (same ▸ member)
    · rcases List.mem_append.mp member with old | last
      · exact gathered.each other old
      · rwa [List.mem_singleton.mp last]

theorem Host.Unheard.gathered {host changed : Host Form} (unheard : host.Unheard changed)
    (gathered : Gathered known host.recorded) : Gathered known changed.recorded := by
  cases claimed : changed.armed with
  | none =>
    rw [recorded_unarmed claimed]
    exact gathered_nil
  | some armed =>
    rw [recorded_armed claimed]
    rcases unheard.recorded armed claimed with new | ⟨before, already, same⟩
    · rw [new]
      exact gathered_nil
    · rw [recorded_armed already] at gathered
      rwa [same]

/-- A move records nothing but the calls that it shows. What a host has
recorded grows only by calls that were resolved on it. -/
theorem HostMove.gathered {id : HostId} {host changed : Host Form} {occurrences : List Occurrence}
    (move : HostMove id host occurrences changed) (calls : ∀ signature ∈ invokedOn id occurrences, known signature)
    (gathered : Gathered known host.recorded) : Gathered known changed.recorded := by
  cases move with
  | @recorded signature =>
    have heard : known signature := calls signature (by simp [invokedOn])
    cases claimed : host.armed with
    | none =>
      have free : (host.hear signature).armed = none := by
        unfold Host.hear
        rw [claimed]
        rfl
      rw [Host.recorded_unarmed free]
      exact gathered_nil
    | some armed =>
      have hears : (host.hear signature).armed = some { armed with recorded := armed.recorded.record signature } := by
        unfold Host.hear
        rw [claimed]
        rfl
      rw [Host.recorded_armed claimed] at gathered
      rw [Host.recorded_armed hears]
      exact CaptureSet.gathered_record gathered heard
  | begunByHand begun => exact (Host.beginCapture?_unheard begun).gathered gathered
  | endedByHand => exact host.endCapture_unheard.gathered gathered
  | _ => exact gathered

/-- A host that has not moved has recorded what it had, and the one that has
moved is judged by its move. -/
theorem Moved.gathered {world later : World} {other : HostId} {changed : Host Form} {occurrences : List Occurrence}
    (moved : Moved world other changed occurrences later) (id : HostId)
    (here : Gathered known (world.hosts.get other).recorded → Gathered known changed.recorded)
    (gathered : Gathered known (world.hosts.get id).recorded) : Gathered known (later.hosts.get id).recorded := by
  by_cases same : id = other
  · subst same
    rw [moved.get_self]
    exact here gathered
  · rwa [moved.get_of_ne same]

theorem Opens.gathered {guard : Guard} {world opened : World} {opening : List Occurrence}
    (opens : Opens guard world opening opened) (id : HostId)
    (gathered : Gathered known (world.hosts.get id).recorded) : Gathered known (opened.hosts.get id).recorded := by
  cases opens with
  | intro begun claim _ lock =>
    exact lock.gathered id (fun before => before) (claim.gathered id (Host.beginCapture?_unheard begun).gathered gathered)

theorem Closes.gathered {guard : Guard} {world later : World} {closing : List Occurrence}
    (closes : Closes guard world closing later) (id : HostId)
    (gathered : Gathered known (world.hosts.get id).recorded) : Gathered known (later.hosts.get id).recorded := by
  obtain ⟨ended, released, _, ends, unlock, _, _, hosts, _⟩ := closes.emission
  rw [hosts]
  exact unlock.gathered id (fun before => before)
    (ends.gathered id (Host.endCapture_unheard _).gathered gathered)

theorem Closes.handOvers_unarmed {guard : Guard} {world later : World} {closing : List Occurrence}
    (closes : Closes guard world closing later) (free : (world.hosts.get guard.precompiler.monitor).armed = none) :
    CallCapture.handOvers closing = [] := by
  cases closes with
  | @intro _ _ _ emission ends unlock rest =>
    have unarmed : (world.hosts.get guard.precompiler.monitor).endCapture.1 = .unarmed := by
      unfold Host.endCapture
      rw [free]
    rw [unarmed] at rest ⊢
    rw [rest.1]
    rfl

/-- A capture hands over what its host has recorded. So what is known of
recorded signatures is known of those that a sink gets. -/
theorem Closes.handed {guard : Guard} {world later : World} {closing : List Occurrence}
    (closes : Closes guard world closing later) {id : HostId} {call : HandOver}
    (member : call ∈ handOversOf id closing) : call.emission.signatures = (world.hosts.get id).recorded := by
  obtain ⟨made, own⟩ := List.mem_filter.mp member
  rw [decide_eq_true_eq] at own
  cases claimed : (world.hosts.get guard.precompiler.monitor).armed with
  | none =>
    rw [closes.handOvers_unarmed claimed] at made
    cases made
  | some armed =>
    cases depth : armed.depth with
    | zero =>
      rw [closes.handOvers claimed depth, List.mem_singleton] at made
      subst made
      cases own
      exact (Host.recorded_armed claimed).symm
    | succ below =>
      rw [closes.handOvers_nested claimed depth] at made
      cases made

/-- What captures of a host have recorded has been resolved on it, or had been
recorded before; and so has whatever they hand over. By induction on the
course, with what is known of the calls as a parameter. -/
theorem Course.gathered {world later : World} {occurrences : List Occurrence} {id : HostId}
    (course : Course world occurrences later) (calls : ∀ signature ∈ invokedOn id occurrences, known signature)
    (before : Gathered known (world.hosts.get id).recorded) :
    Gathered known (later.hosts.get id).recorded ∧
      ∀ call ∈ handOversOf id occurrences, Gathered known call.emission.signatures := by
  induction course with
  | @quiet world _ later quiet =>
    rw [(quiet.silent id).2]
    refine ⟨?_, fun _ member => (nomatch member)⟩
    by_cases made : world.Made id
    · rwa [quiet.hosts id made]
    · rcases quiet.added id made with same | new
      · rwa [same]
      · rw [new]
        exact gathered_nil
  | next _ _ first rest =>
    rw [invokedOn_append, List.forall_mem_append] at calls
    obtain ⟨middle, early⟩ := first calls.1 before
    obtain ⟨behind, late⟩ := rest calls.2 middle
    rw [handOversOf_append]
    exact ⟨behind, List.forall_mem_append.mpr ⟨early, late⟩⟩
  | @move _ other _ _ _ move moved =>
    rw [move.keeps id]
    refine ⟨?_, fun _ member => (nomatch member)⟩
    by_cases same : id = other
    · subst same
      exact moved.gathered id (move.gathered calls) before
    · rwa [moved.get_of_ne same]
  | @method world other opened inside closed later enters _ leaves during =>
    have called : invokedOn id ([.entered other] ++ inside ++ [.left other]) = invokedOn id inside := by
      rw [invokedOn_append, invokedOn_append]
      exact List.append_nil _
    have handed : handOversOf id ([.entered other] ++ inside ++ [.left other]) = handOversOf id inside := by
      rw [handOversOf_append, handOversOf_append]
      exact List.append_nil _
    rw [called] at calls
    rw [handed]
    obtain ⟨behind, handedOver⟩ := during calls (enters.gathered id (fun entered => entered) before)
    exact ⟨leaves.gathered id (fun left => left) behind, handedOver⟩
  | captured opens _ closes during =>
    rw [invokedOn_append, invokedOn_append, (opens.silent id).1, closes.uncalled, List.nil_append,
      List.append_nil] at calls
    obtain ⟨behind, handedOver⟩ := during calls (opens.gathered id before)
    refine ⟨closes.gathered id behind, fun call member => ?_⟩
    rw [handOversOf_append, handOversOf_append, (opens.silent id).2, List.nil_append] at member
    rcases List.mem_append.mp member with inner | own
    · exact handedOver call inner
    · rwa [closes.handed own]
  | @kept _ guard name opening _ opens =>
    refine ⟨opens.gathered id before, fun call member => ?_⟩
    rw [handOversOf_append, (opens.silent id).2] at member
    cases member
  | @givenUp world guard name closing _ closes =>
    have earlier : Gathered known ((world.noting (.letGo (guard.holding name))).hosts.get id).recorded := before
    refine ⟨closes.gathered id earlier, fun call member => ?_⟩
    rw [handOversOf_append] at member
    have own : call ∈ handOversOf id closing := member
    rwa [closes.handed own]

/-- A call that is brought to a listener is resolved once, with the signature
that it was brought with. -/
theorem World.invokedOn_tellings {world : World} {id other : HostId} {signature known : Signature}
    {listener : Option Listener} (member : known ∈ invokedOn other (world.tellings id signature listener)) :
    known = signature := by
  have first : invokedOn other (world.tellings id signature listener) =
      invokedOn other [.invoked id (world.hosts.get id).mode signature] := by
    rcases listener with _ | _ | collector
    · rfl
    · unfold tellings
      dsimp only
      split <;> rfl
    · rfl
  rw [first] at member
  by_cases same : id = other
  · simpa [invokedOn, same] using member
  · simp [invokedOn, same] at member

/-- Only calls with the types of values are resolved. A routine may have any
name, but its arguments are values, and these have types with plain names. -/
structure ResolvesTyped (world : World) (occurrences : List Occurrence) (later : World) : Prop where
  trace : later.trace = occurrences.reverse ++ world.trace
  typed : ∀ id, ∀ signature ∈ invokedOn id occurrences, signature.IsTyped

theorem ResolvesTyped.silent {world later : World} {occurrences : List Occurrence}
    (trace : later.trace = occurrences.reverse ++ world.trace)
    (uninvoked : ∀ occurrence ∈ occurrences, ∀ id mode signature, occurrence ≠ .invoked id mode signature) :
    ResolvesTyped world occurrences later where
  trace := trace
  typed id := by
    rw [invokedOn_eq_nil fun occurrence member => uninvoked occurrence member id]
    exact fun _ member => nomatch member

/-- The calls of an evaluation have the types of the values that they are made
with, and all else that it does resolves none. -/
theorem ResolvesTyped.allowsSteps : AllowsSteps ResolvesTyped where
  composes := {
    nil := fun _ => .silent rfl fun _ member => (nomatch member)
    append := fun before behind => {
      trace := by rw [behind.trace, before.trace, List.reverse_append, List.append_assoc]
      typed := fun id => by
        rw [invokedOn_append]
        exact List.forall_mem_append.mpr ⟨before.typed id, behind.typed id⟩ } }
  aside aside := by
    refine .silent aside.trace fun occurrence member id mode signature same => ?_
    have uncalled := aside.uncalled occurrence member
    rw [same] at uncalled
    cases uncalled
  publishes id routine args world := by
    refine ⟨_, congrArg (fun ran => ran.2.trace) (Act.publish_run id _ world), fun other signature member => ?_⟩
    rw [World.invokedOn_tellings member]
    exact Signature.isTyped_ofCall routine args
  enters world id := .silent rfl (by simp)
  leaves world id := .silent rfl (by simp)

/-- Whatever an evaluation resolves has the types of values. The routine may
be called anything. -/
theorem typed_invokedOn (fuel : Nat) (context : Context) (form : Form) (world : World) (id : HostId) :
    ∀ signature ∈ invokedOn id (happenings fuel context form world), signature.IsTyped := by
  obtain ⟨occurrences, resolves⟩ := ResolvesTyped.allowsSteps.follows_eval fuel context form world
  rw [happenings, World.since_eq resolves.trace]
  exact resolves.typed id

/-- An evaluation adds only calls with the types of values to what is
recorded, and hands over no others. -/
theorem eval_gathered (fuel : Nat) (context : Context) (form : Form) {world : World} {id : HostId}
    (before : Gathered Signature.IsTyped (world.hosts.get id).recorded) :
    Gathered Signature.IsTyped (((eval fuel context form).after world).hosts.get id).recorded ∧
      ∀ call ∈ handOversOf id (happenings fuel context form world),
        Gathered Signature.IsTyped call.emission.signatures :=
  (eval_course fuel context form world).gathered (typed_invokedOn fuel context form world id) before

/-- Behind all forms of a session, what a host has recorded are calls with the
types of values, each of them once. -/
theorem Session.worldBehind_gathered (topLength : Nat) (forms : List Form) (id : HostId) :
    Gathered Signature.IsTyped ((worldBehind topLength forms).hosts.get id).recorded := by
  induction forms using List.reverseRecOn with
  | nil => exact gathered_nil
  | append_singleton forms form ih =>
    have before : Gathered Signature.IsTyped
        (({ worldBehind topLength forms with trace := [] } : World).hosts.get id).recorded := ih
    have behind := (eval_gathered maxDepth context form before).1
    unfold worldBehind at behind ⊢
    rw [List.foldl_append]
    exact behind

/-- Each signature has a text and a directive of its own. A toolchain
that is given the lines can tell the signatures apart, and so can a
reader of the log. -/
structure HaveOwnLines (signatures : List Signature) : Prop where
  texts : (signatures.map Signature.display).Nodup
  directives : (signatures.map fun signature => (Directive.mk signature).render).Nodup

/-- Signatures with the types of values have texts and lines of their own, if
each of them stands once. -/
theorem Gathered.haveOwnLines {signatures : List Signature} (gathered : Gathered Signature.IsTyped signatures) :
    HaveOwnLines signatures where
  texts := gathered.distinct.map_on fun signature member other also =>
    (Signature.display_inj (gathered.each signature member) (gathered.each other also)).mp
  directives := gathered.distinct.map_on fun signature member other also =>
    (Signature.render_inj (gathered.each signature member) (gathered.each other also)).mp

open Session in
/-- The text of a call and the line of its directive tell which routine was
called and with arguments of which types, whatever the routine is called. So
in all sessions, what a capture has recorded and what it hands over keep as
many lines as there are signatures. -/
theorem lines_identify_signatures :
    (∀ (routine other : String) (args further : List Value),
      let signature := Signature.ofCall routine args
      let known := Signature.ofCall other further
      (signature.display = known.display ↔ signature = known) ∧
        ((Directive.mk signature).render = (Directive.mk known).render ↔ signature = known)) ∧
      ∀ (topLength : Nat) (forms : List Form) (fuel : Nat) (context : Context) (form : Form) (id : HostId),
        HaveOwnLines (((eval fuel context form).after (worldBehind topLength forms)).hosts.get id).recorded ∧
          ∀ call ∈ handOversOf id (happenings fuel context form (worldBehind topLength forms)),
            HaveOwnLines call.emission.signatures := by
  constructor
  · intro routine other args further signature known
    have typed := Signature.isTyped_ofCall routine args
    have also := Signature.isTyped_ofCall other further
    exact ⟨Signature.display_inj typed also, Signature.render_inj typed also⟩
  · intro topLength forms fuel context form id
    obtain ⟨recorded, handed⟩ := eval_gathered fuel context form (worldBehind_gathered topLength forms id)
    exact ⟨recorded.haveOwnLines, fun call member => (handed call member).haveOwnLines⟩

end CallCapture
