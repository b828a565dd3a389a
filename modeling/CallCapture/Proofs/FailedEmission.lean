import CallCapture.Proofs.DiskAgreement

namespace CallCapture

namespace Emitter

variable {emitter : Emitter} {files : Files} {artifact : String}

/-- An emission succeeds just if the artifact has a name and nothing
keeps its manifest from being written. What is emitted has no part in
this. An emitter without a directory has nothing that could keep it from
succeeding but the name. -/
theorem emit_ok_iff (signatures : List Signature) :
    (∃ growth grown later, emitter.emit files artifact signatures = (.ok (growth, grown), later)) ↔
      artifactFault? artifact = none ∧
        ∀ directory, emitter.directory = some directory → Unobstructed files directory artifact := by
  constructor
  · rintro ⟨growth, grown, later, accepted⟩
    have named : artifactFault? artifact = none := by
      unfold emit at accepted
      split at accepted
      · cases accepted
      · assumption
    refine ⟨named, fun directory directed => ?_⟩
    let manifest := Manifest.ofDirectives artifact (grown.directives artifact)
    exact (@Manifest.write_ok_iff manifest files directory named).mp ⟨later, (emit_stored directed accepted).2.2⟩
  · rintro ⟨named, unobstructed⟩
    unfold emit
    rw [named]
    cases directed : emitter.directory with
    | none => exact ⟨_, _, _, rfl⟩
    | some directory =>
      let all := emitter.signatures artifact ++ freshSignatures (emitter.signatures artifact) signatures
      let manifest := Manifest.ofDirectives artifact (all.map Directive.mk)
      obtain ⟨later, written⟩ := (@Manifest.write_ok_iff manifest _ _ named).mpr (unobstructed directory directed)
      dsimp only [manifest, all] at written ⊢
      rw [written]
      exact ⟨_, _, _, rfl⟩

/-- What is handed over to an emitter is accepted exactly if the name
of the artifact is one and, where it keeps manifests, nothing stands in
the way of the file. -/
theorem handOver_ok_iff {world : World} {id : SinkId} (kept : world.sinks.get id = .emitter emitter)
    (source : Option HostId) (signatures : List Signature) :
    (Act.handOver source id ⟨artifact, signatures⟩).outcome world = .ok () ↔
      artifactFault? artifact = none ∧
        ∀ directory, emitter.directory = some directory → Unobstructed world.files directory artifact := by
  rw [← emit_ok_iff signatures]
  rcases handOver kept source artifact signatures with
    ⟨error, failed, _⟩ | ⟨growth, grown, files, accepted, outcome, _⟩
  · obtain ⟨⟨error, refused⟩, _⟩ := handOver_refused kept failed
    refine ⟨fun succeeded => ?_, fun ⟨growth, grown, later, accepted⟩ => ?_⟩
    · rw [failed] at succeeded
      cases succeeded
    · rw [accepted] at refused
      cases refused
  · exact ⟨fun _ => ⟨growth, grown, files, accepted⟩, fun _ => outcome⟩

/-- What an emission that succeeds adds, and where it is to be seen. The
emitter says by how much it has grown, and holds just so much more. -/
theorem handOver_adds {world : World} {id : SinkId} (kept : world.sinks.get id = .emitter emitter)
    {source : Option HostId} {signatures : List Signature}
    (succeeded : (Act.handOver source id ⟨artifact, signatures⟩).outcome world = .ok ()) :
    let later := (Act.handOver source id ⟨artifact, signatures⟩).after world
    ∃ grown earlier, later.sinks.get id = .emitter grown ∧
      let new := (signatures.removeAll (emitter.signatures artifact)).eraseDups
      grown.directives artifact = emitter.directives artifact ++ new.map Directive.mk ∧
      (∀ signature ∈ signatures, grown.isEmitted artifact signature = true) ∧
      (∀ other, other ≠ artifact → grown.directives other = emitter.directives other) ∧
      later.trace = .emitted artifact new.length (grown.directives artifact).length :: earlier ∧
      ∀ directory, emitter.directory = some directory →
        Manifest.load later.files directory artifact =
          .ok (Manifest.ofDirectives artifact (grown.directives artifact)) := by
  intro later
  rcases handOver kept source artifact signatures with
    ⟨error, outcome, _⟩ | ⟨growth, grown, files, accepted, _, changed, earlier, trace⟩
  · rw [outcome] at succeeded
    cases succeeded
  · obtain ⟨added, total, put⟩ := emit_ok accepted
    have all := signatures_of_artifacts put
    have here := all artifact
    rw [if_pos rfl, freshSignatures_eq] at here
    rw [freshSignatures_eq] at added
    refine ⟨grown, earlier, changed, ?_, ?_, ?_, ?_, ?_⟩
    · rw [directives, here, List.map_append]
      rfl
    · intro signature member
      rw [isEmitted, List.contains_iff_mem, here, List.mem_append, List.mem_eraseDups]
      by_cases known : signature ∈ emitter.signatures artifact
      · exact Or.inl known
      · exact Or.inr (by simp [List.removeAll, member, known])
    · intro other different
      rw [directives, all, if_neg different]
      rfl
    · rw [trace, total, added, directives, List.length_map, here, List.length_append]
    · intro directory directed
      obtain ⟨_, _, written⟩ := emit_stored directed accepted
      have left : later.files = files := (handOver_files kept source artifact signatures).trans (by rw [accepted])
      rw [left]
      have loaded := Manifest.load_write written
      exact loaded

end Emitter

/-- An emission that fails leaves the emitter as it was, and with it the
answers to everything that it can be asked, and takes nothing away from the
files. Whatever becomes of the files then, the same emission succeeds as soon
as nothing keeps it from that, and adds all that is new in it. -/
theorem failed_emission_changes_nothing {world : World} {id : SinkId} {emitter : Emitter}
    (kept : world.sinks.get id = .emitter emitter) {source : Option HostId} {artifact : String}
    {signatures : List Signature} {halt : Halt}
    (failed : (Act.handOver source id ⟨artifact, signatures⟩).outcome world = .error halt) :
    let later := (Act.handOver source id ⟨artifact, signatures⟩).after world
    later.sinks.get id = .emitter emitter ∧ world.files.Keeps later.files ∧
    ∀ cleared : Files,
      let again : World := { later with files := cleared }
      let last := (Act.handOver source id ⟨artifact, signatures⟩).after again
      ((Act.handOver source id ⟨artifact, signatures⟩).outcome again = .ok () ↔
        artifactFault? artifact = none ∧
          ∀ directory, emitter.directory = some directory → Unobstructed cleared directory artifact) ∧
      ((Act.handOver source id ⟨artifact, signatures⟩).outcome again = .ok () →
        ∃ grown earlier, last.sinks.get id = .emitter grown ∧
          let new := (signatures.removeAll (emitter.signatures artifact)).eraseDups
          grown.directives artifact = emitter.directives artifact ++ new.map Directive.mk ∧
          (∀ signature ∈ signatures, grown.isEmitted artifact signature = true) ∧
          (∀ other, other ≠ artifact → grown.directives other = emitter.directives other) ∧
          last.trace = .emitted artifact new.length (grown.directives artifact).length :: earlier ∧
          ∀ directory, emitter.directory = some directory →
            Manifest.load last.files directory artifact =
              .ok (Manifest.ofDirectives artifact (grown.directives artifact))) := by
  intro later
  obtain ⟨⟨error, refused⟩, same⟩ := Emitter.handOver_refused kept failed
  refine ⟨same, ?_, fun cleared => ?_⟩
  · have left : later.files = _ := Emitter.handOver_files kept source artifact signatures
    rw [left]
    exact Emitter.emit_keeps (Prod.ext refused rfl)
  · intro again last
    have holds : again.sinks.get id = .emitter emitter := same
    exact ⟨Emitter.handOver_ok_iff holds source signatures, Emitter.handOver_adds holds⟩

namespace Ledger

/-- A world in which a file stands where an emitter that has emitted before
wants its directory. -/
def blocked : World where
  sinks := Store.put {} ⟨1⟩ (.emitter ⟨[("app", [⟨"first", []⟩])], some ["out"]⟩)
  files := { nodes := [(["out"], .file (.text "in the way"))] }

end Ledger

open Ledger in
/-- A file stands where the directory should be made. The set is
refused, emitter and files stay, and all that is new in it is accepted
when the file is gone. -/
theorem failed_emission_changes_nothing_blocked :
    let emission : Emission := ⟨"app", [⟨"first", []⟩, ⟨"second", []⟩, ⟨"second", []⟩]⟩
    let later := (Act.handOver none ⟨1⟩ emission).after blocked
    (Act.handOver none ⟨1⟩ emission).outcome blocked = .error (.error (.file .alreadyExists)) ∧
      later.files.node? ["out"] = some (.file (.text "in the way")) ∧
      (∃ emitter, later.sinks.get ⟨1⟩ = .emitter emitter ∧ emitter.directives "app" = [⟨⟨"first", []⟩⟩]) ∧
      ∃ grown, ((Act.handOver none ⟨1⟩ emission).after { later with files := {} }).sinks.get ⟨1⟩ = .emitter grown ∧
        grown.directives "app" = [⟨⟨"first", []⟩⟩, ⟨⟨"second", []⟩⟩] := by
  intro emission later
  have failed : (Act.handOver none ⟨1⟩ emission).outcome blocked = .error (.error (.file .alreadyExists)) := by
    decide +kernel
  obtain ⟨same, kept, retry⟩ := @failed_emission_changes_nothing blocked ⟨1⟩ _ rfl none _ _ _ failed
  refine ⟨failed, kept.node (by decide +kernel), ⟨_, same, rfl⟩, ?_⟩
  have unobstructed : Unobstructed {} ["out"] "app" :=
    ⟨(Files.makeDirectories_ok_iff (start_directory {})).mp ⟨_, rfl⟩, by decide +kernel,
      ⟨by decide +kernel, by decide +kernel, by decide +kernel⟩⟩
  obtain ⟨grown, _, changed, directives, _⟩ := (retry {}).2 ((retry {}).1.mpr
    ⟨by decide +kernel, fun directory directed => Option.some.inj directed ▸ unobstructed⟩)
  exact ⟨grown, changed, directives.trans (by decide +kernel)⟩

end CallCapture
