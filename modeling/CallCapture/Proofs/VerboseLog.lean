import CallCapture.Proofs.Exactness

namespace CallCapture

/-- The signatures that the recorder of a host has reported. Each of these
reports was a line of the log. -/
def reportedBy (id : HostId) (occurrences : List Occurrence) : List Signature :=
  occurrences.filterMap fun
    | .captured host signature => if host = id then some signature else none
    | _ => none

/-- The recorder of a host reports a signature. Reports by recorders of other
hosts are not meant. -/
def Occurrence.isReportOf (id : HostId) : Occurrence → Bool
  | captured host _ => host = id
  | _ => false

/-- What the recorder of a host has written to a log that shows everything
down to information. Lines of captures of other hosts are left out. -/
def recorderLog (id : HostId) (occurrences : List Occurrence) : List (Level × String) :=
  logLines .info (occurrences.filter (Occurrence.isReportOf id))

/-- The log of a recorder has a line for each signature that it has reported,
with the text of the signature in it. -/
theorem recorderLog_eq (id : HostId) (occurrences : List Occurrence) :
    recorderLog id occurrences =
      (reportedBy id occurrences).map fun signature => (.info, "Captured " ++ signature.display) := by
  induction occurrences with
  | nil => rfl
  | cons occurrence rest ih =>
    cases occurrence with
    | captured host signature =>
      unfold recorderLog logLines reportedBy at ih ⊢
      by_cases same : host = id
      · simpa [Occurrence.isReportOf, Occurrence.line?, Level.rank, same] using ih
      · simpa [Occurrence.isReportOf, same] using ih
    | _ => exact ih

theorem reportedBy_append (id : HostId) (first rest : List Occurrence) :
    reportedBy id (first ++ rest) = reportedBy id first ++ reportedBy id rest :=
  List.filterMap_append

theorem reportedBy_eq_nil {id : HostId} {occurrences : List Occurrence}
    (other : ∀ occurrence ∈ occurrences, ∀ signature, occurrence ≠ .captured id signature) :
    reportedBy id occurrences = [] := by
  unfold reportedBy
  rw [List.filterMap_eq_nil_iff]
  intro occurrence member
  cases occurrence with
  | captured host signature =>
    refine if_neg fun same => ?_
    subst same
    exact other _ member signature rfl
  | _ => rfl

theorem Quiet.unreported {world later : World} {occurrences : List Occurrence} (id : HostId)
    (quiet : Quiet world occurrences later) : reportedBy id occurrences = [] := by
  refine reportedBy_eq_nil ?_
  rintro _ member signature rfl
  cases quiet.quiet _ member

theorem Opens.unreported {guard : Guard} {world opened : World} {opening : List Occurrence} (id : HostId)
    (opens : Opens guard world opening opened) : reportedBy id opening = [] := by
  cases opens with
  | intro =>
    unfold Nesting.occurrence
    split <;> rfl

theorem Closes.unreported {guard : Guard} {world later : World} {closing : List Occurrence} (id : HostId)
    (closes : Closes guard world closing later) : reportedBy id closing = [] := by
  refine reportedBy_eq_nil ?_
  rintro _ member signature rfl
  cases closes.isClosing _ member

/-- The listener or the levels of a host are set by hand. -/
def Occurrence.rehooks (id : HostId) : Occurrence → Bool
  | monitorUsed host | hookInstalled host | hookRemoved host => host = id
  | _ => false

/-- The recorder of a host is left in its place. Unlike for an exact
capture, the mode may be set by hand: what is not heard is neither
reported nor handed over. -/
def KeepsHook (id : HostId) (occurrences : List Occurrence) : Prop :=
  ∀ occurrence ∈ occurrences, occurrence.rehooks id = false

instance (id : HostId) (occurrences : List Occurrence) : Decidable (KeepsHook id occurrences) :=
  inferInstanceAs (Decidable (∀ occurrence ∈ occurrences, occurrence.rehooks id = false))

theorem keepsHook_append {id : HostId} {first rest : List Occurrence} :
    KeepsHook id (first ++ rest) ↔ KeepsHook id first ∧ KeepsHook id rest :=
  List.forall_mem_append

/-- A recorder listens for the capture that holds the host. The mode
is no part of it. -/
structure Host.Listens (host : Host Form) (armed : Armed) : Prop where
  claimed : host.armed = some armed
  listening : host.listener = some .recorder

theorem Host.Listens.cast {host other : Host Form} {armed : Armed} (listens : host.Listens armed)
    (claimed : other.armed = host.armed) (listening : other.listener = host.listener) : other.Listens armed :=
  ⟨claimed.trans listens.claimed, listening.trans listens.listening⟩

/-- A capture has heard more. If it is verbose, it has reported, in order, all
that was new to it; else it has reported nothing. The verbosity is that of the
capture which armed the host, for as long as it is armed. -/
structure Armed.Reports (armed : Armed) (reported : List Signature) (changed : Armed) : Prop where
  verbose : changed.verbose = armed.verbose
  loud : armed.verbose = true → changed.recorded.signatures = armed.recorded.signatures ++ reported
  still : armed.verbose = false → reported = []

namespace Armed.Reports

variable {armed middle changed : Armed} {first rest : List Signature}

theorem refl (armed : Armed) : armed.Reports [] armed := ⟨rfl, fun _ => (List.append_nil _).symm, fun _ => rfl⟩

theorem levels {before : Nat} (reports : { armed with depth := before }.Reports first changed) (behind : Nat) :
    armed.Reports first { changed with depth := behind } :=
  ⟨reports.verbose, reports.loud, reports.still⟩

theorem trans (before : armed.Reports first middle) (behind : middle.Reports rest changed) :
    armed.Reports (first ++ rest) changed where
  verbose := behind.verbose.trans before.verbose
  loud verbose := by
    rw [behind.loud (before.verbose.trans verbose), before.loud verbose, List.append_assoc]
  still quiet := by
    rw [before.still quiet, behind.still (before.verbose.trans quiet)]
    rfl

/-- Just what is new is added to the set, and just what is new is reported.
The set and the log ask the same question, before the signature is added. -/
theorem hear (armed : Armed) (signature : Signature) :
    armed.Reports (if armed.verbose && armed.recorded.isFresh signature then [signature] else [])
      { armed with recorded := armed.recorded.record signature } where
  verbose := rfl
  loud verbose := by
    rw [CaptureSet.signatures_record, CaptureSet.isFresh, verbose]
    cases armed.recorded.contains signature
    · rfl
    · exact (List.append_nil _).symm
  still quiet := by
    rw [quiet]
    rfl

end Armed.Reports

theorem HostMove.unreported {id other : HostId} {host changed : Host Form} {occurrences : List Occurrence}
    (move : HostMove other host occurrences changed) (different : other ≠ id) : reportedBy id occurrences = [] := by
  refine reportedBy_eq_nil ?_
  rintro _ member signature rfl
  exact different (of_decide_eq_true (move.isMoveOf _ member)).symm

/-- Whatever happens to a host whose recorder is left in its place, the
recorder reports what is new to it. Calls that are not dispatched leave both
the set and the log as they are. -/
theorem HostMove.reports {id : HostId} {host changed : Host Form} {occurrences : List Occurrence} {armed : Armed}
    (move : HostMove id host occurrences changed) (hooked : KeepsHook id occurrences) (listens : host.Listens armed) :
    ∃ heard, changed.Listens heard ∧ heard.depth = armed.depth ∧ armed.Reports (reportedBy id occurrences) heard := by
  obtain ⟨claimed, listening⟩ := listens
  have unheard {later : Host Form} (same : later.armed = host.armed) (still : later.listener = host.listener) :
      ∃ heard, later.Listens heard ∧ heard.depth = armed.depth ∧ armed.Reports [] heard :=
    ⟨armed, ⟨same.trans claimed, still.trans listening⟩, rfl, .refl armed⟩
  cases move with
  | @recorded signature =>
    have reports : host.reports signature = (armed.verbose && armed.recorded.isFresh signature) := by
      unfold Host.reports
      rw [claimed]
      rfl
    have hears : (host.hear signature).armed = some { armed with recorded := armed.recorded.record signature } := by
      unfold Host.hear
      rw [claimed]
      rfl
    have reported : reportedBy id ([.invoked id host.mode signature, .delivered id signature] ++
        if host.reports signature then [.captured id signature] else []) =
          if armed.verbose && armed.recorded.isFresh signature then [signature] else [] := by
      rw [reports]
      split <;> simp [reportedBy]
    rw [reported]
    exact ⟨_, ⟨hears, listening⟩, rfl, .hear armed signature⟩
  | hooked => simp [KeepsHook, Occurrence.rehooks] at hooked
  | unhooked => simp [KeepsHook, Occurrence.rehooks] at hooked
  | begunByHand => simp [KeepsHook, Occurrence.rehooks] at hooked
  | refusedByHand => simp [KeepsHook, Occurrence.rehooks] at hooked
  | endedByHand => simp [KeepsHook, Occurrence.rehooks] at hooked
  | _ => exact unheard rfl rfl

/-- A capture that opens on a claimed host leaves the recorder listening, with
its own verbosity. -/
theorem Opens.listens {guard : Guard} {world opened : World} {opening : List Occurrence} {id : HostId}
    {armed : Armed} (opens : Opens guard world opening opened) (listens : (world.hosts.get id).Listens armed) :
    (opened.hosts.get id).Listens { armed with depth := armed.depth + guard.levelOn id } := by
  rw [opens.get_armed listens.claimed]
  exact ⟨rfl, listens.listening⟩

theorem Closes.listens {guard : Guard} {world later : World} {closing : List Occurrence} {id : HostId}
    {armed : Armed} {level : Nat} (closes : Closes guard world closing later)
    (listens : (world.hosts.get id).Listens armed) (deep : armed.depth = level + guard.levelOn id) :
    (later.hosts.get id).Listens { armed with depth := level } := by
  rw [closes.get_nested listens.claimed deep]
  exact ⟨rfl, listens.listening⟩

/-- What is true behind a stretch of a session for a host whose recorder is
left in its place: it still listens, it has reported what was new to it, and
no capture of the host has handed anything over. The levels are counted as for
an exact capture. -/
structure Logged (id : HostId) (armed : Armed) (occurrences : List Occurrence) (depth : Nat) (changed : Armed)
    (later : World) : Prop where
  listens : (later.hosts.get id).Listens changed
  level : changed.depth = depth
  reports : armed.Reports (reportedBy id occurrences) changed
  keeps : handOversOf id occurrences = []

theorem Logged.unheard {id : HostId} {armed : Armed} {occurrences : List Occurrence} {depth : Nat} {later : World}
    (listens : (later.hosts.get id).Listens { armed with depth := depth }) (unreported : reportedBy id occurrences = [])
    (keeps : handOversOf id occurrences = []) : ∃ changed, Logged id armed occurrences depth changed later := by
  refine ⟨_, listens, rfl, ?_, keeps⟩
  rw [unreported]
  exact (Armed.Reports.refl armed).levels depth

/-- The levels of the host are those of the captures around the course, and
those that are held by hand. By induction on the course, with the levels
around it as the number that grows inside a capture. -/
theorem Course.logged {world later : World} {occurrences : List Occurrence} {id : HostId}
    (course : Course world occurrences later) (made : world.Made id) (hooked : KeepsHook id occurrences)
    {held last : List Holding} (holds : heldAfter held (capturesHandled id occurrences) = some last)
    {around : Nat} {armed : Armed} (listens : (world.hosts.get id).Listens armed)
    (level : armed.depth = around + held.length) :
    ∃ changed, Logged id armed occurrences (around + last.length) changed later := by
  induction course generalizing held last around armed with
  | quiet quiet =>
    rw [capturesHandled_of_not_handles quiet.handles] at holds
    cases holds
    rw [← quiet.hosts id made] at listens
    rw [← level]
    exact Logged.unheard listens (quiet.unreported id) (quiet.silent id).2
  | next before _ first rest =>
    rw [keepsHook_append] at hooked
    rw [capturesHandled_append] at holds
    obtain ⟨between, holdsFirst, holdsRest⟩ := heldAfter_append_eq_some.mp holds
    obtain ⟨middle, early⟩ := first made hooked.1 holdsFirst listens level
    obtain ⟨changed, late⟩ := rest (before.made made) hooked.2 holdsRest early.listens early.level
    refine ⟨changed, late.listens, late.level, ?_, ?_⟩
    · rw [reportedBy_append]
      exact early.reports.trans late.reports
    · rw [handOversOf_append, early.keeps, late.keeps]
      rfl
  | @move _ other _ _ _ move moved =>
    rw [move.capturesHandled] at holds
    cases holds
    by_cases same : id = other
    · subst same
      obtain ⟨heard, listening, depth, reports⟩ := move.reports hooked listens
      rw [← moved.get_self] at listening
      exact ⟨heard, listening, depth.trans level, reports, move.keeps id⟩
    · rw [← moved.get_of_ne same] at listens
      rw [← level]
      exact Logged.unheard listens (move.unreported (Ne.symm same)) (move.keeps id)
  | @method _ other _ during _ _ enters _ leaves inside =>
    rw [keepsHook_append, keepsHook_append] at hooked
    have reported : reportedBy id ([.entered other] ++ during ++ [.left other]) = reportedBy id during := by
      rw [reportedBy_append, reportedBy_append]
      exact List.append_nil _
    rw [capturesHandled_method] at holds
    have entered := listens.cast (enters.same Host.armed rfl id) (enters.same Host.listener rfl id)
    obtain ⟨changed, logged⟩ := inside (Nat.lt_of_lt_of_eq made enters.fresh.symm) hooked.1.2 holds entered level
    have left := logged.listens.cast (leaves.same Host.armed rfl id) (leaves.same Host.listener rfl id)
    refine ⟨changed, left, logged.level, ?_, ?_⟩
    · rw [reported]
      exact logged.reports
    · rw [handOversOf_append, handOversOf_append, logged.keeps]
      rfl
  | @captured _ guard _ _ _ _ _ _ opens _ closes inside =>
    rw [keepsHook_append, keepsHook_append] at hooked
    rw [capturesHandled_around opens closes] at holds
    -- inside, its level is one of those around
    have deeper : armed.depth + guard.levelOn id = around + guard.levelOn id + held.length := by omega
    obtain ⟨changed, logged⟩ :=
      inside (Nat.lt_of_lt_of_eq made opens.fresh.symm) hooked.1.2 holds (opens.listens listens) deeper
    have level := logged.level
    have deep : changed.depth = around + last.length + guard.levelOn id := by omega
    refine ⟨_, closes.listens logged.listens deep, rfl, ?_, ?_⟩
    · rw [reportedBy_append, reportedBy_append, opens.unreported, closes.unreported, List.nil_append, List.append_nil]
      exact logged.reports.levels _
    · rw [handOversOf_append, handOversOf_append, (opens.silent id).2, logged.keeps,
        closes.keeps logged.listens.claimed deep]
      rfl
  | @kept _ guard name _ _ opens =>
    have longer := opens.length_kept holds
    have depth : around + last.length = armed.depth + guard.levelOn id := by omega
    rw [depth]
    refine Logged.unheard (opens.listens listens) ?_ ?_
    · rw [reportedBy_append, opens.unreported]
      rfl
    · rw [handOversOf_append, (opens.silent id).2]
      rfl
  | @givenUp _ guard name _ _ closes =>
    have shorter := closes.length_givenUp holds
    have deep : armed.depth = around + last.length + guard.levelOn id := by omega
    refine Logged.unheard (closes.listens listens deep) ?_ ?_
    · rw [reportedBy_append, closes.unreported]
      rfl
    · rw [handOversOf_append, closes.keeps listens.claimed deep]
      rfl

/-- An outermost capture has the recorder listening, with an empty set and
with the switch that its gate read. -/
theorem Precompiler.beginCapture_listens {precompiler : Precompiler} {thread : ThreadId} {world opened : World}
    {flags : Flags} {guard : Guard} (gate : precompiler.gate.outcome world = .ok (some flags))
    (begun : (precompiler.beginCapture thread).run world = (.ok (some guard), opened))
    (outermost : guard.nesting = .outermost) :
    (opened.hosts.get precompiler.monitor).Listens { owner := thread, verbose := flags.verbose } := by
  obtain ⟨changed, claims, armed, listener⟩ := Precompiler.beginCapture_claims gate begun
  have free : (world.hosts.get precompiler.monitor).armed = none := by
    cases claimed : (world.hosts.get precompiler.monitor).armed with
    | none => rfl
    | some other =>
      -- on a claimed host it would have been a further level
      obtain ⟨further, _⟩ := Host.beginCapture?_armed claimed claims
      cases outermost.symm.trans further
  obtain ⟨_, rfl⟩ := Host.beginCapture?_unarmed free claims
  exact ⟨armed, listener⟩

/-- What the recorder of a precompiler's host has logged is what is then
handed over: all of it if the capture is verbose, and nothing if it is not.
The lines are compared with the texts of the signatures, in order. -/
def Precompiler.LogsHandedOver (precompiler : Precompiler) (verbose : Bool) (occurrences : List Occurrence) : Prop :=
  ∃ signatures, handOversOf precompiler.monitor occurrences =
      [⟨some precompiler.monitor, precompiler.sink, ⟨precompiler.artifact, signatures⟩⟩] ∧
    recorderLog precompiler.monitor occurrences =
      if verbose then signatures.map fun signature => (.info, "Captured " ++ signature.display) else []

/-- A capture that has armed its host is closed behind a course that leaves
the recorder in its place. -/
theorem Guard.ClosesQuietly.logsHandedOver {guard : Guard} {world gated opened closed later : World}
    {remarks opening inside : List Occurrence} {thread : ThreadId} {verbose : Bool}
    (closes : guard.ClosesQuietly closed later) (said : Remarks world remarks gated)
    (opens : Opens guard gated opening opened) (course : Course opened inside closed)
    (made : opened.Made guard.precompiler.monitor)
    (listens : (opened.hosts.get guard.precompiler.monitor).Listens { owner := thread, verbose := verbose })
    (ordered : LetsGoInOrder (capturesHandled guard.precompiler.monitor inside))
    (hooked : KeepsHook guard.precompiler.monitor inside) :
    guard.precompiler.LogsHandedOver verbose (world.since later) := by
  obtain ⟨closing, ended, behind, ends, quiet⟩ := closes
  have lowest : 0 = 0 + ([] : List Holding).length := rfl
  obtain ⟨armed, ⟨claimed, _⟩, last, reports, keeps⟩ := course.logged made hooked ordered listens lowest
  have trace : later.trace = (remarks ++ opening ++ inside ++ closing ++ behind).reverse ++ world.trace := by
    rw [quiet.trace, ends.trace, course.trace, opens.trace, said.trace]
    simp only [List.reverse_append, List.append_assoc]
  have handed : handOversOf guard.precompiler.monitor closing =
      [⟨some guard.precompiler.monitor, guard.precompiler.sink,
        ⟨guard.precompiler.artifact, armed.recorded.signatures⟩⟩] := by
    unfold handOversOf
    rw [ends.handOvers claimed last]
    exact List.filter_cons_of_pos (decide_eq_true rfl)
  rw [World.since_eq trace]
  refine ⟨armed.recorded.signatures, ?_, ?_⟩
  · simp only [handOversOf_append, (said.quiet.silent _).2, (opens.silent _).2, keeps, handed, (quiet.quiet.silent _).2]
    rfl
  · have reported : reportedBy guard.precompiler.monitor (remarks ++ opening ++ inside ++ closing ++ behind) =
        reportedBy guard.precompiler.monitor inside := by
      simp only [reportedBy_append, said.quiet.unreported, opens.unreported, ends.unreported, quiet.quiet.unreported,
        List.nil_append, List.append_nil]
    rw [recorderLog_eq, reported]
    cases verbose with
    | true =>
      rw [reports.loud rfl]
      rfl
    | false =>
      rw [reports.still rfl]
      rfl

namespace Context

open Act

/-- A capture around a body is closed behind it, whatever the body comes
to. It is shared by the forms that enclose a body; they differ in what
they do at the end. -/
theorem closes_capture {precompiler : Precompiler} {thread : ThreadId} {world opened : World} {guard : Guard}
    {gated : Value} {body : Act Value} {finish : Guard → Except Halt Value → Act Value}
    (begun : (precompiler.beginCapture thread).run world = (.ok (some guard), opened))
    (closes : ∀ (guard : Guard) outcome world, guard.ClosesQuietly world ((finish guard outcome).after world)) :
    guard.ClosesQuietly (body.after opened) (Act.after (do
      match ← precompiler.beginCapture thread with
      | none => return gated
      | some guard => finish guard (← attempt body)) world) := by
  unfold after
  rw [run_bind, begun]
  exact closes guard (body.outcome opened) (body.after opened)

end Context

/-- The log of an outermost capture is what it hands over. Its body may do
anything that leaves the listener and the levels of the host to captures and
lets go in reverse order of the captures of the host that it takes into the
hand; and it may end as it likes. Only the flags that the outermost capture
has found at its gate tell whether there is a log. -/
theorem verbose_log_is_handed_over {context : Context} {world opened : World} {name : String}
    {precompiler : Precompiler} {flags : Flags} {guard : Guard} (reached : Reached context world)
    (known : world.names.precompilers.lookup name = some precompiler)
    (gate : precompiler.gate.outcome world = .ok (some flags))
    (begun : (precompiler.beginCapture context.thread).run world = (.ok (some guard), opened))
    (outermost : guard.nesting = .outermost) (fuel : Nat) (body : Form)
    (ordered : LetsGoInOrder (capturesHandled precompiler.monitor (happenings fuel context body opened)))
    (hooked : KeepsHook precompiler.monitor (happenings fuel context body opened)) :
    let closed := (eval fuel context body).after opened
    precompiler.LogsHandedOver flags.verbose (world.since (guard.disarm.after closed)) ∧
      precompiler.LogsHandedOver flags.verbose (world.since (guard.drop.after closed)) ∧
      precompiler.LogsHandedOver flags.verbose (happenings (fuel + 1) context (.compile name body) world) ∧
      precompiler.LogsHandedOver flags.verbose (happenings (fuel + 1) context (.guarded name body) world) := by
  intro closed
  have begins := precompiler.beginCapture_begins context.thread world
  have listens := Precompiler.beginCapture_listens gate begun outermost
  have logs {later : World} (closes : guard.ClosesQuietly closed later) :
      precompiler.LogsHandedOver flags.verbose (world.since later) := by
    rw [Act.outcome, Act.after, begun] at begins
    cases begins with
    | @opened _ _ gated _ _ own said opens =>
      subst own
      have made : opened.Made guard.precompiler.monitor :=
        Nat.lt_of_lt_of_eq (reached.made known).1 (said.fresh.symm.trans opens.fresh.symm)
      exact closes.logsHandedOver said opens (eval_course fuel context body opened) made listens ordered hooked
  refine ⟨logs (guard.disarm_closesQuietly closed), logs (guard.drop_closesQuietly closed), logs ?_, logs ?_⟩
  · rw [eval_compile known]
    exact Context.closes_capture begun Context.finishWorkload_closesQuietly
  · have named : (eval (fuel + 1) context (.guarded name body)).after world =
        (context.guarded (eval fuel) precompiler body).after world :=
      congrArg Prod.snd (Act.run_precompilerNamed_bind known _)
    rw [named]
    exact Context.closes_capture begun Context.finishGuarded_closesQuietly

namespace Session

/-- The switches of the prepared session have been set to verbose. -/
def preparedVerbosely : World := (eval 1 context (.command (.setVerbose "flags" true))).after prepared

/-- Verbose is switched off and the mode is changed. There are captures within
the capture, one of them is held by hand while a signature is repeated, and at
last the body panics. -/
def quieting : Form :=
  .sequence [.register "inner" [anyType] (.arg 0), .register "outer" [anyType] (.call "inner" [.arg 0]),
    .call "outer" [.literal .null], .command (.setVerbose "flags" false), .command (.setMode .adaptive),
    .command (.beginCapture "unit" "guard"), .call "outer" [.literal .null], .command (.finish "guard"),
    .compile "unit" (.call "inner" [.literal (.bool true)]), .panic "stop"]

end Session
open Session in
theorem verbose_log_is_handed_over_quieting :
    let occurrences := happenings 6 context (.compile "unit" quieting) preparedVerbosely
    preparedUnit.LogsHandedOver true occurrences ∧
      recorderLog firstHost occurrences = [(.info, "Captured outer(Nothing)"), (.info, "Captured inner(Nothing)"),
        (.info, "Captured inner(Bool)")] := by
  have known : preparedVerbosely.names.precompilers.lookup "unit" = some preparedUnit := by rfl
  have gate : preparedUnit.gate.outcome preparedVerbosely = .ok (some { verbose := true }) := by rfl
  obtain ⟨_, _, compiled, _⟩ := verbose_log_is_handed_over (.behind 1 _ prepared_reached) known gate rfl rfl 5 quieting
    (by decide +kernel) (by decide +kernel)
  exact ⟨compiled, by decide +kernel⟩

end CallCapture
