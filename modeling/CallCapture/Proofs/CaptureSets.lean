import CallCapture.Proofs.EmissionLog
import CallCapture.Proofs.Recording
import Mathlib.Algebra.BigOperators.Group.Finset.Basic

namespace CallCapture.CaptureSet

/-- What a set is told. Nothing else changes a set: all other
questions only look at it. -/
inductive Event where
  | record (signature : Signature)
  | drain

/-- The set behind an event. What a drain gives out is no part of it. -/
def tell (set : CaptureSet) : Event → CaptureSet
  | .record signature => set.record signature
  | .drain => set.drain.2

/-- What has been recorded since the last draining, in order and with all
repetitions. This list is the specification of a set; it keeps every sight,
and a set does not. -/
def sights (events : List Event) : List Signature :=
  events.foldl (fun seen event => match event with
    | .record signature => seen ++ [signature]
    | .drain => []) []

/-- A set has been shown a list of signatures since it was new: it has each of
them once, in the order of the first sights, with the number of its sights.
All that a set answers follows from this. -/
def Counts (set : CaptureSet) (seen : List Signature) : Prop :=
  set.entries = seen.eraseDups.map fun signature => (signature, seen.count signature)

theorem counts_empty : Counts empty [] := rfl

theorem lookup_map_pair {Key α : Type} [BEq Key] [LawfulBEq Key] [DecidableEq Key] (keys : List Key) (value : Key → α)
    (key : Key) :
    (keys.map fun key => (key, value key)).lookup key = if key ∈ keys then some (value key) else none := by
  induction keys with
  | nil => rfl
  | cons first rest ih =>
    rw [List.map_cons, lookup_cons_pair, ih]
    by_cases same : key = first
    · simp [same]
    · simp [same]

namespace Counts

variable {set : CaptureSet} {seen : List Signature}

/-- The signatures of a set are the list without its repetitions, so they come
in the order of their first sights. -/
theorem signatures (counts : set.Counts seen) : set.signatures = seen.eraseDups := by
  unfold CaptureSet.signatures
  rw [counts, List.map_map]
  exact List.map_id _

/-- A set contains what it has seen. Only sights since the last draining
count. -/
theorem contains_iff (counts : set.Counts seen) (signature : Signature) :
    set.contains signature = true ↔ signature ∈ seen := by
  rw [contains, List.contains_iff_mem, counts.signatures, List.mem_eraseDups]

theorem isFresh_iff (counts : set.Counts seen) (signature : Signature) :
    set.isFresh signature = true ↔ signature ∉ seen := by
  rw [isFresh, Bool.not_eq_true', ← Bool.not_eq_true, counts.contains_iff]

/-- A signature is counted as often as it was seen. One that was never
seen has no hits. -/
theorem hits (counts : set.Counts seen) (signature : Signature) : set.hits signature = seen.count signature := by
  unfold CaptureSet.hits
  rw [counts, lookup_map_pair]
  by_cases known : signature ∈ seen
  · rw [if_pos (List.mem_eraseDups.mpr known)]
    rfl
  · rw [if_neg (mt List.mem_eraseDups.mp known), List.count_eq_zero_of_not_mem known]
    rfl

/-- The size is the number of different signatures. However often a signature
was seen, it counts once. -/
theorem size (counts : set.Counts seen) : set.size = seen.toFinset.card := by
  have members : seen.eraseDups.toFinset = seen.toFinset := by
    ext signature
    rw [List.mem_toFinset, List.mem_toFinset, List.mem_eraseDups]
  rw [CaptureSet.size, counts, List.length_map, ← List.toFinset_card_of_nodup (nodup_eraseDups seen), members]

/-- A set is empty just if it has seen nothing since it was new. A set that
was drained is as empty as one that was never used. -/
theorem isEmpty_iff (counts : set.Counts seen) : set.isEmpty = true ↔ seen = [] := by
  have none_iff : seen.eraseDups = [] ↔ seen = [] := by
    simp only [List.eq_nil_iff_forall_not_mem, List.mem_eraseDups]
  rw [CaptureSet.isEmpty, counts, List.isEmpty_iff, List.map_eq_nil_iff, none_iff]

/-- No sight is forgotten, and none is counted twice: together the hits are as
many as the sights. It is the invariant of the numbers, as the order of first
sights is that of the signatures. -/
theorem sum_hits (counts : set.Counts seen) : (set.signatures.map set.hits).sum = seen.length := by
  have same : seen.eraseDups.Perm seen.dedup :=
    (List.perm_ext_iff_of_nodup (nodup_eraseDups seen) (List.nodup_dedup seen)).mpr fun signature => by
      rw [List.mem_eraseDups, List.mem_dedup]
  rw [counts.signatures, funext counts.hits, (same.map _).sum_eq, List.sum_map_count_dedup_eq_length]

/-- One more sight of a signature is counted, and a new signature goes to
the end. The two cases are those of the set itself: the signature is
known, or it is new. -/
theorem record (counts : set.Counts seen) (signature : Signature) :
    (set.record signature).Counts (seen ++ [signature]) := by
  unfold CaptureSet.record Counts
  rw [eraseDups_append_singleton]
  by_cases known : signature ∈ seen
  · rw [if_pos ((counts.contains_iff signature).mpr known), if_pos known, counts, List.map_map]
    refine List.map_congr_left fun other _ => ?_
    by_cases same : other = signature
    · simp [same]
    · simp [same, Ne.symm same]
  · rw [if_neg (mt (counts.contains_iff signature).mp known), if_neg known, counts, List.map_append]
    have others : (seen.eraseDups.map fun other => (other, (seen ++ [signature]).count other)) =
        seen.eraseDups.map fun other => (other, seen.count other) := by
      refine List.map_congr_left fun other member => ?_
      have different : signature ≠ other := fun same => known (same ▸ List.mem_eraseDups.mp member)
      rw [List.count_append, List.count_singleton, beq_false_of_ne different]
      rfl
    rw [others, List.map_singleton, List.count_append, List.count_eq_zero_of_not_mem known, List.count_singleton_self]

/-- Each event keeps the invariant: a record adds one sight, and a draining
begins again with none. -/
theorem tell {events : List Event} (counts : set.Counts (sights events)) (event : Event) :
    (set.tell event).Counts (sights (events ++ [event])) := by
  unfold sights at counts ⊢
  rw [List.foldl_append]
  cases event with
  | record signature => exact counts.record signature
  | drain => exact counts_empty

end Counts

/-- Whatever has been recorded and drained, a set counts what it has seen
since the last draining. By induction on the events, the last one first. Every
statement about a set that has been used is one about this list. -/
theorem counts_sights (events : List Event) : (events.foldl tell empty).Counts (sights events) := by
  induction events using List.reverseRecOn with
  | nil => exact counts_empty
  | append_singleton events event ih =>
    rw [List.foldl_append]
    exact ih.tell event

/-- A capture set answers as the list of the signatures that were
recorded since it was drained would: what was seen, in the order of the
first sights, what is new, and how often what was seen. Behind a draining
it is as a new one. -/
theorem capture_set_refines_sights (events : List Event) :
    let set := events.foldl tell empty
    let seen := sights events
    set.signatures = seen.eraseDups ∧ set.drain = (seen.eraseDups, empty) ∧
      (∀ signature, (set.isFresh signature = true ↔ signature ∉ seen) ∧
        (set.contains signature = true ↔ signature ∈ seen) ∧ set.hits signature = seen.count signature) ∧
      set.size = seen.toFinset.card ∧ (set.isEmpty = true ↔ seen = []) ∧
      (set.signatures.map set.hits).sum = seen.length ∧
      ∀ further, (events ++ Event.drain :: further).foldl tell empty = further.foldl tell empty := by
  intro set seen
  have counts : set.Counts seen := counts_sights events
  refine ⟨counts.signatures, ?_, fun signature => ?_, counts.size, counts.isEmpty_iff, counts.sum_hits,
    fun further => ?_⟩
  · rw [drain, counts.signatures]
  · exact ⟨counts.isFresh_iff signature, counts.contains_iff signature, counts.hits signature⟩
  · rw [List.foldl_append]
    rfl

end CallCapture.CaptureSet
