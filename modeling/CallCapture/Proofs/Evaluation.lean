import CallCapture.Proofs.Commands

namespace CallCapture

namespace Act

/-- A call from code that is not compiled, or without a listener,
is only resolved. -/
theorem publish_unheard {id : HostId} (signature : Signature) {world : World}
    (unheard : (world.hosts.get id).isCompiled = false ∨ (world.hosts.get id).listener = none) :
    Moved world id (world.hosts.get id) [.invoked id (world.hosts.get id).mode signature]
      ((publish id signature).after world) := by
  unfold publish
  rw [after_host_bind, after_note_bind]
  split
  · rename_i compiled
    rcases unheard with interpreted | silent
    · rw [compiled] at interpreted
      cases interpreted
    · rw [silent]
      exact .unchanged rfl rfl rfl rfl
  · exact .unchanged rfl rfl rfl rfl

/-- The recorder hears a call from compiled code, and tells of it if it is
to. -/
theorem publish_recorded {id : HostId} (signature : Signature) {world : World}
    (compiled : (world.hosts.get id).isCompiled = true) (listening : (world.hosts.get id).listener = some .recorder) :
    Moved world id ((world.hosts.get id).hear signature)
      ([.invoked id (world.hosts.get id).mode signature, .delivered id signature] ++
        if (world.hosts.get id).reports signature then [.captured id signature] else [])
      ((publish id signature).after world) := by
  unfold publish
  rw [after_host_bind, after_note_bind, if_pos compiled, listening]
  by_cases reports : (world.hosts.get id).reports signature = true
  · simp only [if_pos reports]
    exact .put world id _ [_, _, _]
  · simp only [if_neg reports]
    exact .put world id _ [_, _]

/-- A collector of the session hears a call from compiled code. The
host stays as it is. -/
theorem publish_collected {id : HostId} (signature : Signature) {world : World} {collector : CollectorId}
    (compiled : (world.hosts.get id).isCompiled = true)
    (listening : (world.hosts.get id).listener = some (.collector collector)) :
    Moved world id (world.hosts.get id) [.invoked id (world.hosts.get id).mode signature, .delivered id signature]
      ((publish id signature).after world) := by
  unfold publish
  rw [after_host_bind, after_note_bind, if_pos compiled, listening]
  exact .unchanged rfl rfl rfl rfl

/-- Whether anybody hears of a resolved call or not, at most its host
changes. -/
theorem proceeds_publish (id : HostId) (signature : Signature) : Proceeds (publish id signature) := by
  intro world
  cases compiled : (world.hosts.get id).isCompiled with
  | false => exact ⟨_, .move (.unheard (.inl compiled)) (publish_unheard signature (.inl compiled))⟩
  | true =>
    cases listening : (world.hosts.get id).listener with
    | none => exact ⟨_, .move (.unheard (.inr listening)) (publish_unheard signature (.inr listening))⟩
    | some listener =>
      cases listener with
      | recorder =>
        exact ⟨_, .move (.recorded compiled listening) (publish_recorded signature compiled listening)⟩
      | collector collector =>
        exact ⟨_, .move (.collected compiled listening) (publish_collected signature compiled listening)⟩

theorem proceeds_within (id : HostId) {body : Act Value} (proceeds : Proceeds body) : Proceeds (within id body) := by
  intro world
  have opened := Moved.put world id (world.hosts.get id).enter [.entered id]
  obtain ⟨occurrences, inside⟩ := proceeds _
  exact ⟨_, .method opened inside (.put _ id _ [_])⟩

theorem remarking_resolve (id : HostId) (signature : Signature) : Remarking (resolve id signature) := by
  refine (remarking_host id).bind fun found => ?_
  split
  · exact remarking_pure _
  · exact remarking_throw _

/-- A capture encloses its body, whatever the body comes to. Behind a gate
that is closed or fails, and behind a refusal, there is nothing but remarks
or the body itself. -/
theorem proceeds_capture {precompiler : Precompiler} {thread : ThreadId} {gated : Value} {body : Act Value}
    {finish : Guard → Except Halt Value → Act Value} (inside : Proceeds body)
    (closes : ∀ (guard : Guard) outcome world, guard.ClosesQuietly world ((finish guard outcome).after world)) :
    Proceeds (do
      match ← precompiler.beginCapture thread with
      | none => return gated
      | some guard => finish guard (← attempt body)) := by
  refine Precompiler.proceeds_beginCapture_bind (proceeds_pure _) fun {guard _ _ later} opens => ?_
  obtain ⟨during, ran⟩ := inside later
  obtain ⟨closing, closed, remarks, done, behind⟩ := closes guard (body.outcome later) (body.after later)
  exact ⟨_, .next (.captured opens ran done) (.quiet behind.quiet)⟩

end Act

namespace Context

open Act

variable {eval : Evaluator}

/-- A call is published with the types of its arguments before its method is
looked for, and what its method does is enclosed. -/
theorem proceeds_call (context : Context) (routine : String) (args : List Value)
    (proceeds : ∀ context form, Proceeds (eval context form)) : Proceeds (context.call eval routine args) := by
  refine (remarking_resolve _ _).proceeds.bind fun method => ?_
  refine (proceeds_publish _ _).bind fun _ => ?_
  exact proceeds_within _ (proceeds _ _)

theorem proceeds_callStatic (context : Context) (routine : String) (args : List Value)
    (proceeds : ∀ context form, Proceeds (eval context form)) : Proceeds (context.callStatic eval routine args) := by
  refine (remarking_resolve _ _).proceeds.bind fun method => ?_
  exact proceeds_within _ (proceeds _ _)

/-- A workload that is compiled is enclosed by a capture that ends with it,
whether it fails or not. -/
theorem proceeds_compile (context : Context) (precompiler : Precompiler) (body : Form)
    (proceeds : ∀ context form, Proceeds (eval context form)) : Proceeds (context.compile eval precompiler body) :=
  proceeds_capture (proceeds context body) finishWorkload_closesQuietly

theorem proceeds_setup (context : Context) (precompiler : Precompiler) (body : Form)
    (proceeds : ∀ context form, Proceeds (eval context form)) : Proceeds (context.setup eval precompiler body) := by
  refine precompiler.remarking_gate.proceeds.bind fun answer => ?_
  cases answer with
  | none => exact proceeds_pure _
  | some _ => exact (proceeds context body).bind fun _ => proceeds_pure _

/-- The end of a capture that is finished by hand behind the body. If the body
has failed, the capture is dropped instead. -/
theorem finishGuarded_closesQuietly (guard : Guard) (outcome : Except Halt Value) (world : World) :
    guard.ClosesQuietly world ((match outcome with
      | .ok value => return .array [value, Report.toValue? (← guard.disarm)]
      | .error halt => do
        guard.drop
        throw halt : Act Value).after world) := by
  cases outcome with
  | ok value => exact (guard.disarm_closesQuietly world).bind fun _ => remarking_pure _
  | error halt => exact (guard.drop_closesQuietly world).bind fun _ => remarking_throw _

theorem proceeds_guarded (context : Context) (precompiler : Precompiler) (body : Form)
    (proceeds : ∀ context form, Proceeds (eval context form)) : Proceeds (context.guarded eval precompiler body) :=
  proceeds_capture (proceeds context body) finishGuarded_closesQuietly

end Context

open Act in
/-- Whatever an evaluation does is the course of a session: what a form does
to the hosts is put together from moves, method bodies and captures. By
induction on the fuel, one case for each kind of form. -/
theorem eval_proceeds (fuel : Nat) (context : Context) (form : Form) : Proceeds (eval fuel context form) := by
  induction fuel generalizing context form with
  | zero => exact proceeds_throw _
  | succ fuel ih =>
    unfold eval
    cases form with
    | literal value => exact proceeds_pure _
    | arg index => exact proceeds_pure _
    | args => exact proceeds_pure _
    | list items => exact Proceeds.bind (Follows.mapM Course.composes items (ih context)) fun _ => proceeds_pure _
    | sequence forms => exact Proceeds.bind (Follows.mapM Course.composes forms (ih context)) fun _ => proceeds_pure _
    | branch condition yes no =>
      refine (ih context condition).bind fun answer => ?_
      split
      · exact ih context yes
      · exact ih context no
    | add a b => exact (ih context a).bind fun _ => (ih context b).bind fun _ => proceeds_pure _
    | multiply a b => exact (ih context a).bind fun _ => (ih context b).bind fun _ => proceeds_pure _
    | addInts a b => exact (ih context a).bind fun _ => (ih context b).bind fun _ => proceeds_pure _
    | length form => exact (ih context form).bind fun _ => proceeds_pure _
    | first form => exact (ih context form).bind fun _ => proceeds_pure _
    | typeOf form => exact (ih context form).bind fun _ => proceeds_pure _
    | same a b => exact (ih context a).bind fun _ => (ih context b).bind fun _ => proceeds_pure _
    | fail message => exact proceeds_throw _
    | panic message => exact proceeds_throw _
    | attempt form =>
      refine Proceeds.bind (Follows.attempt (ih context form)) fun result => ?_
      split
      · exact proceeds_pure _
      · exact proceeds_pure _
      · exact proceeds_pure _
      · exact proceeds_throw _
    | thread form => exact still_number.proceeds.bind fun number => ih _ form
    | on host form => exact (remarking_named _ _).proceeds.bind fun found => ih _ form
    | register routine pattern body => exact fun world => ⟨_, .move .registered (.put world context.host _ [])⟩
    | call routine args =>
      refine Proceeds.bind (Follows.mapM Course.composes args (ih context)) fun args => ?_
      exact context.proceeds_call routine args ih
    | callStatic routine args =>
      refine Proceeds.bind (Follows.mapM Course.composes args (ih context)) fun args => ?_
      exact context.proceeds_callStatic routine args ih
    | fold routine initial items =>
      refine (ih context initial).bind fun initial => (ih context items).bind fun items => ?_
      exact Follows.foldlM Course.composes _ _ fun value item => context.proceeds_call routine _ ih
    | compile precompiler body =>
      refine (remarking_named _ _).proceeds.bind fun found => ?_
      exact context.proceeds_compile found body ih
    | setup precompiler body =>
      refine (remarking_named _ _).proceeds.bind fun found => ?_
      exact context.proceeds_setup found body ih
    | guarded precompiler body =>
      refine (remarking_named _ _).proceeds.bind fun found => ?_
      exact context.proceeds_guarded found body ih
    | command command => exact command.proceeds context.host context.thread

end CallCapture
