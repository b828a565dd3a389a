import CallCapture.Signature

namespace CallCapture

/-- The signatures seen during a capture, in the order in which
they were first seen. Each stands once, with the number of times
that it was recorded. -/
structure CaptureSet where
  entries : List (Signature × Nat) := []
  deriving DecidableEq, Inhabited

namespace CaptureSet

/-- The set that a capture starts with, and that draining leaves behind. The
next capture of a host starts from it as the first one did. -/
def empty : CaptureSet := {}

/-- What is in the set, without the numbers of sights. This is what a capture
hands over, in this order. -/
def signatures (set : CaptureSet) : List Signature := set.entries.map Prod.fst

/-- Whether a signature has been seen since the set was last empty. It asks
for the signature as a whole: one with other types is another one. -/
def contains (set : CaptureSet) (signature : Signature) : Bool :=
  set.signatures.contains signature

/-- How often a signature was recorded; one that is not in the set was
recorded zero times. -/
def hits (set : CaptureSet) (signature : Signature) : Nat :=
  (set.entries.lookup signature).getD 0

/-- The number of signatures, each counted once, however often it was seen.
The hits are counted apart from it. -/
def size (set : CaptureSet) : Nat := set.entries.length

/-- Nothing has been recorded since the set was last empty. A capture that
ends with such a set hands it over all the same. -/
def isEmpty (set : CaptureSet) : Bool := set.entries.isEmpty

/-- The set after one more sight of `signature`. A signature that
is there keeps its place and counts one more; a new one goes to
the end and counts one. -/
def record (set : CaptureSet) (signature : Signature) : CaptureSet :=
  if set.contains signature then
    ⟨set.entries.map fun entry => if entry.1 = signature then (entry.1, entry.2 + 1) else entry⟩
  else
    ⟨set.entries ++ [(signature, 1)]⟩

/-- Recording keeps the order of what is there and puts a new signature
at the end. So the order of the set is that of first sights, whatever is
seen again later. -/
theorem signatures_record (set : CaptureSet) (signature : Signature) :
    (set.record signature).signatures =
      if set.contains signature then set.signatures else set.signatures ++ [signature] := by
  unfold record
  split
  · simp only [signatures, List.map_map]
    refine List.map_congr_left fun entry _ => ?_
    simp only [Function.comp_apply]
    split <;> rfl
  · simp [signatures]

/-- Whether recording `signature` now would add it. A verbose capture reports
just these calls. -/
def isFresh (set : CaptureSet) (signature : Signature) : Bool := !set.contains signature

/-- Takes every signature out, and leaves the set empty, so that the next
capture starts as a new one does. -/
def drain (set : CaptureSet) : List Signature × CaptureSet := (set.signatures, empty)

end CaptureSet

end CallCapture
