import CallCapture.Proofs.Reach
import Mathlib.Data.List.Forall2
import Mathlib.Data.List.Induction

namespace CallCapture

/-- Types that a pattern stands for, place by place. There are as many of the
one as of the other. -/
def Fits (pattern argTypes : List String) : Prop :=
  List.Forall₂ (fun wanted got => wanted = anyType ∨ wanted = got) pattern argTypes

/-- How many places of a pattern have a type of their own. A pattern without
any stands for all calls with so many arguments. -/
def concretePlaces (pattern : List String) : Nat := pattern.countP (· ≠ anyType)

theorem concretePlaces_cons (wanted : String) (pattern : List String) :
    concretePlaces (wanted :: pattern) = concretePlaces pattern + if wanted = anyType then 0 else 1 := by
  unfold concretePlaces
  rw [List.countP_cons]
  by_cases any : wanted = anyType <;> simp [any]

/-- A pattern has a specificity for types that it stands for, which is the
number of its concrete places. -/
theorem specificity?_eq_some_iff {pattern argTypes : List String} {places : Nat} :
    specificity? pattern argTypes = some places ↔ Fits pattern argTypes ∧ concretePlaces pattern = places := by
  induction pattern generalizing argTypes places with
  | nil =>
    cases argTypes with
    | nil => simp [specificity?, Fits, concretePlaces]
    | cons => simp [specificity?, Fits]
  | cons wanted pattern ih =>
    cases argTypes with
    | nil => simp [specificity?, Fits]
    | cons got argTypes =>
      have head : Fits (wanted :: pattern) (got :: argTypes) ↔
          (wanted = anyType ∨ wanted = got) ∧ Fits pattern argTypes := List.forall₂_cons
      rw [head, concretePlaces_cons, specificity?]
      by_cases any : wanted = anyType
      · rw [if_pos any, if_pos any, ih]
        simp [any]
      · rw [if_neg any, if_neg any]
        by_cases same : wanted = got
        · rw [if_pos same, Option.map_eq_some_iff]
          simp [ih, same]
        · rw [if_neg same]
          simp [any, same]

/-- A pattern that leaves open more than another one that it stands for has
fewer places with a type of their own. So the most concrete pattern that fits
is never the wider one of two. -/
theorem Fits.concretePlaces_lt {pattern narrower : List String} (fits : Fits pattern narrower)
    (different : pattern ≠ narrower) : concretePlaces pattern < concretePlaces narrower := by
  have weak : concretePlaces pattern ≤ concretePlaces narrower ∧
      (concretePlaces pattern = concretePlaces narrower → pattern = narrower) := by
    clear different
    unfold Fits at fits
    induction fits with
    | nil => exact ⟨Nat.le_refl _, fun _ => rfl⟩
    | @cons wanted got rest others place _ ih =>
      rw [concretePlaces_cons, concretePlaces_cons]
      rcases place with any | same
      · rw [if_pos any]
        refine ⟨by omega, fun equal => ?_⟩
        by_cases open_ : got = anyType
        · rw [if_pos open_] at equal
          rw [any, open_, ih.2 (by omega)]
        · rw [if_neg open_] at equal
          omega
      · rw [same]
        refine ⟨by omega, fun equal => ?_⟩
        rw [ih.2 (by omega)]
  exact Nat.lt_of_le_of_ne weak.1 fun equal => different (weak.2 equal)

section

variable {Body : Type}

/-- A method that a call with this signature can run. The name is compared as
it is, and the types by the pattern. -/
structure Method.Matches (method : Method Body) (signature : Signature) : Prop where
  routine : method.routine = signature.routine
  fits : Fits method.pattern signature.argTypes

/-- Of all registrations that match, in the order in which they were made, the
one with the most concrete places, and of several such the latest.
Registrations that have been replaced are among them; none of these is chosen,
as the one that replaced it is later. -/
def Chosen (history : List (Method Body)) (signature : Signature) (method : Method Body) : Prop :=
  ∃ index, history[index]? = some method ∧ method.Matches signature ∧
    ∀ (place : Nat) (other : Method Body), history[place]? = some other → other.Matches signature →
      concretePlaces other.pattern < concretePlaces method.pattern ∨
        concretePlaces other.pattern = concretePlaces method.pattern ∧ place ≤ index

theorem Chosen.mem {history : List (Method Body)} {signature : Signature} {method : Method Body}
    (chosen : Chosen history signature method) : method ∈ history := by
  obtain ⟨index, found, _⟩ := chosen
  exact List.mem_of_getElem? found

theorem Chosen.matches {history : List (Method Body)} {signature : Signature} {method : Method Body}
    (chosen : Chosen history signature method) : method.Matches signature := by
  obtain ⟨_, _, fits, _⟩ := chosen
  exact fits

theorem Chosen.unique {history : List (Method Body)} {signature : Signature} {first second : Method Body}
    (chosen : Chosen history signature first) (also : Chosen history signature second) : first = second := by
  obtain ⟨index, found, fits, best⟩ := chosen
  obtain ⟨place, foundAlso, fitsAlso, bestAlso⟩ := also
  have low := best place second foundAlso fitsAlso
  have high := bestAlso index first found fits
  have same : index = place := by omega
  rw [same, foundAlso] at found
  exact (Option.some.inj found).symm

theorem Chosen.most {history : List (Method Body)} {signature : Signature} {method other : Method Body}
    (chosen : Chosen history signature method) (member : other ∈ history) (fits : other.Matches signature) :
    concretePlaces other.pattern ≤ concretePlaces method.pattern := by
  obtain ⟨_, _, _, best⟩ := chosen
  obtain ⟨place, found⟩ := List.mem_iff_getElem?.mp member
  have most := best place other found fits
  omega

theorem Chosen.last {history : List (Method Body)} {signature : Signature} {method : Method Body}
    (fits : method.Matches signature) (most : ∀ other ∈ history, other.Matches signature →
      concretePlaces other.pattern ≤ concretePlaces method.pattern) :
    Chosen (history ++ [method]) signature method := by
  refine ⟨history.length, by simp, fits, fun place other found matches_ => ?_⟩
  have inside : place < (history ++ [method]).length := (List.getElem?_eq_some_iff.mp found).1
  rw [List.length_append, List.length_singleton] at inside
  rcases List.mem_append.mp (List.mem_of_getElem? found) with old | new
  · have below := most other old matches_
    omega
  · rw [List.mem_singleton.mp new]
    omega

/-- A later registration is chosen only if it has as many concrete places. So
the choice can be followed from registration to registration. -/
theorem Chosen.append {history : List (Method Body)} {signature : Signature} {method later : Method Body}
    (chosen : Chosen history signature method)
    (fewer : later.Matches signature → concretePlaces later.pattern < concretePlaces method.pattern) :
    Chosen (history ++ [later]) signature method := by
  obtain ⟨index, found, fits, best⟩ := chosen
  have inside : index < history.length := (List.getElem?_eq_some_iff.mp found).1
  refine ⟨index, by rwa [List.getElem?_append_left inside], fits, fun place other at_ matches_ => ?_⟩
  rcases Nat.lt_or_ge place history.length with before | behind
  · rw [List.getElem?_append_left before] at at_
    exact best place other at_ matches_
  · rw [List.getElem?_append_right behind] at at_
    have same := List.mem_singleton.mp (List.mem_of_getElem? at_)
    rw [same] at matches_ ⊢
    exact Or.inl (fewer matches_)

/-- No registration that matches has more of the places concrete that the
chosen one has, and others besides. -/
theorem Chosen.not_narrower {history : List (Method Body)} {signature : Signature} {method other : Method Body}
    (chosen : Chosen history signature method) (member : other ∈ history) (fits : other.Matches signature) :
    ¬ (Fits method.pattern other.pattern ∧ method.pattern ≠ other.pattern) := by
  rintro ⟨covers, different⟩
  exact Nat.not_le.mpr (covers.concretePlaces_lt different) (chosen.most member fits)

namespace MethodTable

theorem foldl_better_append_singleton (candidates : List (Nat × Method Body)) (last : Nat × Method Body) :
    (candidates ++ [last]).foldl better none = better (candidates.foldl better none) last := by
  rw [List.foldl_append]
  rfl

theorem foldl_better_eq_none_iff {candidates : List (Nat × Method Body)} :
    candidates.foldl better none = none ↔ candidates = [] := by
  induction candidates using List.reverseRecOn with
  | nil => simp
  | append_singleton candidates last _ =>
    rw [foldl_better_append_singleton]
    unfold better
    split
    · simp
    · split <;> simp

/-- The best candidate is one, and none exceeds it. The fold goes through the
candidates once, from the oldest on. -/
theorem foldl_better_spec {candidates : List (Nat × Method Body)} {best : Nat × Method Body}
    (found : candidates.foldl better none = some best) :
    best ∈ candidates ∧ ∀ other ∈ candidates, other.1 ≤ best.1 := by
  induction candidates using List.reverseRecOn generalizing best with
  | nil => cases found
  | append_singleton candidates last ih =>
    rw [foldl_better_append_singleton] at found
    cases earlier : candidates.foldl better none with
    | none =>
      rw [earlier] at found
      cases found
      rw [foldl_better_eq_none_iff.mp earlier]
      simp
    | some leader =>
      rw [earlier] at found
      obtain ⟨member, most⟩ := ih earlier
      simp only [better] at found
      split at found
      · rename_i overtaken
        cases found
        refine ⟨by simp, fun other among => ?_⟩
        rcases List.mem_append.mp among with old | new
        · exact Nat.le_trans (most other old) overtaken
        · exact Nat.le_of_eq (by rw [List.mem_singleton.mp new])
      · rename_i ahead
        cases found
        refine ⟨List.mem_append_left _ member, fun other among => ?_⟩
        rcases List.mem_append.mp among with old | new
        · exact most other old
        · rw [List.mem_singleton.mp new]
          omega

/-- The best candidate stays the best if others are taken away. This is what
makes it safe to forget a method that was replaced. -/
theorem foldl_better_filter {candidates : List (Nat × Method Body)} {best : Nat × Method Body}
    {keep : Nat × Method Body → Bool} (found : candidates.foldl better none = some best) (kept : keep best = true) :
    (candidates.filter keep).foldl better none = some best := by
  induction candidates using List.reverseRecOn generalizing best with
  | nil => cases found
  | append_singleton candidates last ih =>
    rw [foldl_better_append_singleton] at found
    rw [List.filter_append]
    cases earlier : candidates.foldl better none with
    | none =>
      rw [earlier] at found
      cases found
      rw [foldl_better_eq_none_iff.mp earlier, List.filter_cons_of_pos kept]
      rfl
    | some leader =>
      rw [earlier] at found
      simp only [better] at found
      split at found
      · rename_i overtaken
        cases found
        rw [List.filter_cons_of_pos kept, List.filter_nil, foldl_better_append_singleton]
        cases left : (candidates.filter keep).foldl better none with
        | none => rfl
        | some other =>
          have among := List.mem_of_mem_filter (foldl_better_spec left).1
          exact if_pos (Nat.le_trans ((foldl_better_spec earlier).2 other among) overtaken)
      · rename_i ahead
        cases found
        have still := ih earlier kept
        cases keeps : keep last with
        | false => rw [List.filter_cons_of_neg (by simp [keeps]), List.filter_nil, List.append_nil, still]
        | true =>
          rw [List.filter_cons_of_pos keeps, List.filter_nil, foldl_better_append_singleton, still]
          exact if_neg ahead

/-- A registration leaves an older one in its place. -/
def spares (method old : Method Body) : Bool := old.routine ≠ method.routine ∨ old.pattern ≠ method.pattern

theorem methods_register (table : MethodTable Body) (method : Method Body) :
    (table.register method).methods = table.methods.filter (spares method) ++ [method] := rfl

/-- The candidates for a call are the methods of the table that match it, with
the number of their concrete places. -/
theorem mem_candidates {table : MethodTable Body} {signature : Signature} {candidate : Nat × Method Body} :
    candidate ∈ table.candidates signature ↔ candidate.2 ∈ table.methods ∧ candidate.2.Matches signature ∧
      concretePlaces candidate.2.pattern = candidate.1 := by
  obtain ⟨places, method⟩ := candidate
  unfold candidates
  rw [List.mem_filterMap]
  constructor
  · rintro ⟨found, member, fits⟩
    split at fits
    · rename_i routine
      obtain ⟨specificity, counted, same⟩ := Option.map_eq_some_iff.mp fits
      cases same
      obtain ⟨fits, count⟩ := specificity?_eq_some_iff.mp counted
      exact ⟨member, ⟨routine, fits⟩, count⟩
    · cases fits
  · rintro ⟨member, ⟨routine, fits⟩, count⟩
    refine ⟨method, member, ?_⟩
    rw [if_pos routine, specificity?_eq_some_iff.mpr ⟨fits, count⟩]
    rfl

/-- Leaving methods out leaves out their candidates, and the others keep their
order and their specificity. -/
theorem candidates_filter (methods : List (Method Body)) (keep : Method Body → Bool) (signature : Signature) :
    (MethodTable.mk (methods.filter keep)).candidates signature =
      ((MethodTable.mk methods).candidates signature).filter fun candidate => keep candidate.2 := by
  unfold candidates
  rw [List.filterMap_filter, List.filter_filterMap]
  congr 1
  funext method
  by_cases routine : method.routine = signature.routine
  · rw [if_pos routine]
    cases specificity? method.pattern signature.argTypes with
    | none => cases keep method <;> rfl
    | some _ => rfl
  · rw [if_neg routine]
    cases keep method <;> rfl

/-- A new registration that matches is the last candidate, and the one that it
replaces is none. -/
theorem candidates_register (table : MethodTable Body) (method : Method Body) (signature : Signature) :
    (table.register method).candidates signature =
      ((table.candidates signature).filter fun candidate => spares method candidate.2) ++
        (MethodTable.mk [method]).candidates signature := by
  rw [← candidates_filter]
  unfold candidates
  rw [methods_register, List.filterMap_append]

/-- A call that is resolved runs a method of the table that matches it, and
none that matches has more concrete places. -/
theorem resolve?_spec {table : MethodTable Body} {signature : Signature} {method : Method Body}
    (resolved : table.resolve? signature = some method) :
    method ∈ table.methods ∧ method.Matches signature ∧ ∀ other ∈ table.methods, other.Matches signature →
      concretePlaces other.pattern ≤ concretePlaces method.pattern := by
  obtain ⟨best, found, rfl⟩ := Option.map_eq_some_iff.mp resolved
  obtain ⟨among, most⟩ := foldl_better_spec found
  obtain ⟨member, fits, count⟩ := mem_candidates.mp among
  refine ⟨member, fits, fun other also fitsAlso => ?_⟩
  rw [count]
  exact most (_, other) (mem_candidates.mpr ⟨also, fitsAlso, rfl⟩)

/-- Registering a method does not change what is chosen for calls that it does
not fit, even if it takes the place of another. -/
theorem resolve?_register_of_not_matches {table : MethodTable Body} {signature : Signature} {method : Method Body}
    (misfit : ¬ method.Matches signature) :
    (table.register method).resolve? signature = table.resolve? signature := by
  have others : (table.candidates signature).filter (fun candidate => spares method candidate.2) =
      table.candidates signature := by
    rw [List.filter_eq_self]
    intro candidate among
    obtain ⟨_, fits, _⟩ := mem_candidates.mp among
    unfold spares
    rw [decide_eq_true_eq]
    by_contra same
    rw [not_or, not_not, not_not] at same
    exact misfit ⟨same.1.symm.trans fits.routine, same.2 ▸ fits.fits⟩
  have none_ : (MethodTable.mk [method]).candidates signature = [] := by
    rw [List.eq_nil_iff_forall_not_mem]
    intro candidate among
    obtain ⟨member, fits, _⟩ := mem_candidates.mp among
    rw [List.mem_singleton.mp member] at fits
    exact misfit fits
  unfold resolve?
  rw [candidates_register, others, none_, List.append_nil]

/-- A new registration that matches is chosen unless an older one has
more concrete places. One that it replaces has the same places, so its
loss is not seen. -/
theorem resolve?_register_of_matches {table : MethodTable Body} {signature : Signature} {method : Method Body}
    (fits : method.Matches signature) : (table.register method).resolve? signature =
      match table.resolve? signature with
      | none => some method
      | some old => if concretePlaces method.pattern < concretePlaces old.pattern then some old else some method := by
  have own : (MethodTable.mk [method]).candidates signature = [(concretePlaces method.pattern, method)] := by
    unfold candidates
    rw [List.filterMap_cons, if_pos fits.routine, specificity?_eq_some_iff.mpr ⟨fits.fits, rfl⟩]
    rfl
  unfold resolve?
  rw [candidates_register, own, foldl_better_append_singleton]
  cases found : (table.candidates signature).foldl better none with
  | none =>
    rw [foldl_better_eq_none_iff.mp found]
    rfl
  | some best =>
    obtain ⟨among, most⟩ := foldl_better_spec found
    obtain ⟨_, _, count⟩ := mem_candidates.mp among
    dsimp only [Option.map_some]
    rw [count]
    split
    · rename_i fewer
      -- the older one is not the one that is replaced, which has as many concrete places as the new one
      have spared : spares method best.2 = true := by
        unfold spares
        rw [decide_eq_true_eq]
        by_contra same
        rw [not_or, not_not, not_not] at same
        rw [← count, same.2] at fewer
        exact Nat.lt_irrefl _ fewer
      rw [foldl_better_filter found spared]
      have ahead : better (some best) (concretePlaces method.pattern, method) = some best :=
        if_neg (Nat.not_le.mpr fewer)
      rw [ahead]
      rfl
    · rename_i enough
      cases left : ((table.candidates signature).filter fun candidate => spares method candidate.2).foldl better
          none with
      | none => rfl
      | some other =>
        have lower := most other (List.mem_of_mem_filter (foldl_better_spec left).1)
        have overtaken : better (some other) (concretePlaces method.pattern, method) =
            some (concretePlaces method.pattern, method) := if_pos (by dsimp only; omega)
        rw [overtaken]
        rfl

/-- The table behind some registrations, from the first to the last. It
forgets what was replaced; that nothing is lost by this has to be shown. -/
def ofHistory (history : List (Method Body)) : MethodTable Body := history.foldl register {}

theorem ofHistory_append_singleton (history : List (Method Body)) (last : Method Body) :
    ofHistory (history ++ [last]) = (ofHistory history).register last := by
  unfold ofHistory
  rw [List.foldl_append]
  rfl

/-- What the table resolves a call to is what all registrations, also
those that have been replaced, come to. By induction on the registrations,
the last one first. -/
theorem resolve?_ofHistory (history : List (Method Body)) (signature : Signature) :
    match (ofHistory history).resolve? signature with
    | none => ∀ method ∈ history, ¬ method.Matches signature
    | some method => Chosen history signature method := by
  induction history using List.reverseRecOn with
  | nil => exact fun _ member => nomatch member
  | append_singleton history last ih =>
    rw [ofHistory_append_singleton]
    by_cases fits : last.Matches signature
    · rw [resolve?_register_of_matches fits]
      cases before : (ofHistory history).resolve? signature with
      | none =>
        rw [before] at ih
        exact .last fits fun other member matches_ => absurd matches_ (ih other member)
      | some old =>
        rw [before] at ih
        dsimp only at ih ⊢
        by_cases fewer : concretePlaces last.pattern < concretePlaces old.pattern
        · rw [if_pos fewer]
          exact ih.append fun _ => fewer
        · rw [if_neg fewer]
          exact .last fits fun other member matches_ =>
            Nat.le_trans (ih.most member matches_) (Nat.le_of_not_lt fewer)
    · rw [resolve?_register_of_not_matches fits]
      split <;> rename_i before <;> rw [before] at ih
      · intro method member
        rcases List.mem_append.mp member with old | new
        · exact ih method old
        · rwa [List.mem_singleton.mp new]
      · exact ih.append fun matches_ => absurd matches_ fits

theorem resolve?_ofHistory_eq_some_iff {history : List (Method Body)} {signature : Signature} {method : Method Body} :
    (ofHistory history).resolve? signature = some method ↔ Chosen history signature method := by
  have resolves := resolve?_ofHistory history signature
  constructor
  · intro resolved
    rwa [resolved] at resolves
  · intro chosen
    split at resolves
    · exact absurd chosen.matches (resolves method chosen.mem)
    · rename_i other resolved
      rw [resolved, resolves.unique chosen]

theorem resolve?_ofHistory_eq_none_iff {history : List (Method Body)} {signature : Signature} :
    (ofHistory history).resolve? signature = none ↔ ∀ method ∈ history, ¬ method.Matches signature := by
  have resolves := resolve?_ofHistory history signature
  constructor
  · intro unresolved
    rwa [unresolved] at resolves
  · intro nobody
    split at resolves
    · assumption
    · exact absurd resolves.matches (nobody _ resolves.mem)

/-- The patterns that a table holds for a routine. -/
def patternsOf (table : MethodTable Body) (routine : String) : List (List String) :=
  (table.methods.filter fun method => method.routine = routine).map Method.pattern

/-- A registration replaces the one with its own pattern, so a routine has
each pattern once. -/
theorem nodup_patternsOf_register {table : MethodTable Body} {routine : String}
    (distinct : (table.patternsOf routine).Nodup) (method : Method Body) :
    ((table.register method).patternsOf routine).Nodup := by
  unfold patternsOf at distinct ⊢
  rw [methods_register, List.filter_append, List.map_append, List.nodup_append]
  refine ⟨distinct.sublist ((List.filter_sublist.filter _).map _), ?_, ?_⟩
  · by_cases own : method.routine = routine <;> simp [own]
  · intro pattern among new newest
    obtain ⟨old, kept, rfl⟩ := List.mem_map.mp among
    obtain ⟨latest, registered, rfl⟩ := List.mem_map.mp newest
    obtain ⟨member, own⟩ := List.mem_filter.mp kept
    obtain ⟨single, ownToo⟩ := List.mem_filter.mp registered
    obtain ⟨_, spared⟩ := List.mem_filter.mp member
    rw [List.mem_singleton.mp single] at ownToo ⊢
    unfold spares at spared
    rw [decide_eq_true_eq] at own ownToo spared
    exact spared.resolve_left fun apart => apart (own.trans ownToo.symm)

/-- A table that comes from registrations holds each pattern of a routine
once. -/
theorem nodup_patternsOf_ofHistory (history : List (Method Body)) (routine : String) :
    ((ofHistory history).patternsOf routine).Nodup := by
  induction history using List.reverseRecOn with
  | nil => exact List.nodup_nil
  | append_singleton history last ih =>
    rw [ofHistory_append_singleton]
    exact nodup_patternsOf_register ih last

end MethodTable

end

end CallCapture
