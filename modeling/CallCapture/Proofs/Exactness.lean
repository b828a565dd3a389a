import CallCapture.Proofs.Recording
import CallCapture.Proofs.Reentrancy
import CallCapture.Proofs.Restoration

namespace CallCapture

theorem Remarks.handOvers {world later : World} {occurrences : List Occurrence}
    (remarks : Remarks world occurrences later) : handOvers occurrences = [] := by
  unfold CallCapture.handOvers
  rw [List.filterMap_eq_nil_iff]
  intro occurrence member
  have remark := remarks.remarks occurrence member
  cases occurrence <;> first | rfl | cases remark

/-- The capture with the last level hands over, once, what was recorded. It is
the only call of a sink that the end of a capture makes. -/
theorem Closes.handOvers {guard : Guard} {world later : World} {closing : List Occurrence} {armed : Armed}
    (closes : Closes guard world closing later)
    (claimed : (world.hosts.get guard.precompiler.monitor).armed = some armed) (last : armed.depth = 0) :
    handOvers closing = [⟨some guard.precompiler.monitor, guard.precompiler.sink,
      ⟨guard.precompiler.artifact, armed.recorded.signatures⟩⟩] := by
  cases closes with
  | @intro _ _ _ emission ends unlock rest =>
    rw [Host.endCapture_last claimed last] at rest ⊢
    obtain ⟨remarks, rfl, said⟩ := rest
    rw [handOvers_append, handOvers_append, said.handOvers]
    rfl

namespace Session

/-- Calls in a method body, in a nested capture and on another
thread; then it fails. -/
def calling : Form :=
  .sequence [.register "inner" [anyType] (.arg 0), .register "outer" [anyType] (.call "inner" [.arg 0]),
    .call "outer" [.literal .null], .compile "unit" (.call "inner" [.literal (.bool true)]),
    .thread (.call "outer" [.literal .null]), .fail "stop"]

end Session

end CallCapture
