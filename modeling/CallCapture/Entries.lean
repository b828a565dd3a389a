namespace CallCapture

/-- What is found behind one more entry, with the question turned the way
proofs ask it: for the key that is looked up. -/
theorem lookup_cons_pair {Key α : Type} [BEq Key] [LawfulBEq Key] [DecidableEq Key] (key other : Key) (value : α)
    (rest : List (Key × α)) :
    ((key, value) :: rest).lookup other = if other = key then some value else rest.lookup other := by
  by_cases h : other = key
  · rw [if_pos h, h, List.lookup_cons_self]
  · rw [if_neg h, List.lookup_cons, beq_false_of_ne h]

/-- Taking the entries of one key away leaves those of all others. -/
theorem lookup_filter_ne {Key α : Type} [BEq Key] [LawfulBEq Key] [DecidableEq Key] (entries : List (Key × α))
    (key other : Key) (h : other ≠ key) :
    (entries.filter fun entry => entry.1 ≠ key).lookup other = entries.lookup other := by
  induction entries with
  | nil => rfl
  | cons entry rest ih =>
    obtain ⟨found, value⟩ := entry
    by_cases same : found = key
    · have different : other ≠ found := fun e => h (e.trans same)
      rw [List.filter_cons_of_neg (by simp [same]), ih, lookup_cons_pair, if_neg different]
    · rw [List.filter_cons_of_pos (by simp [same]), lookup_cons_pair, lookup_cons_pair, ih]

/-- Puts an entry under a name in a list that holds a name at most once: where
the name stands already, or at the end. No other name changes its place. -/
def putEntry {α : Type} (entries : List (String × α)) (name : String) (value : α) : List (String × α) :=
  match entries with
  | [] => [(name, value)]
  | entry :: rest => if entry.1 = name then (name, value) :: rest else entry :: putEntry rest name value

/-- Putting an entry changes what is found under its name and nothing else. -/
theorem lookup_putEntry {α : Type} (entries : List (String × α)) (name other : String) (value : α) :
    (putEntry entries name value).lookup other =
      if other = name then some value else entries.lookup other := by
  induction entries with
  | nil => exact lookup_cons_pair name other value []
  | cons entry rest ih =>
    obtain ⟨key, old⟩ := entry
    simp only [putEntry]
    split
    · rename_i same
      subst same
      simp only [lookup_cons_pair]
      split <;> rfl
    · rename_i different
      rw [lookup_cons_pair, lookup_cons_pair, ih]
      by_cases here : other = key
      · have apart : other ≠ name := fun h => different (here.symm.trans h)
        simp only [if_pos here, if_neg apart]
      · simp only [if_neg here]

/-- An entry that is there after a putting was put, or was there before. -/
theorem mem_putEntry {α : Type} {entries : List (String × α)} {name : String} {value : α} {entry : String × α}
    (member : entry ∈ putEntry entries name value) : entry = (name, value) ∨ entry ∈ entries := by
  induction entries with
  | nil => exact Or.inl (List.mem_singleton.mp member)
  | cons first rest ih =>
    simp only [putEntry] at member
    split at member
    · exact (List.mem_cons.mp member).imp_right (List.mem_cons_of_mem _)
    · rcases List.mem_cons.mp member with same | later
      · exact Or.inr (same ▸ List.mem_cons_self ..)
      · exact (ih later).imp_right (List.mem_cons_of_mem _)

theorem mem_of_lookup {α : Type} {entries : List (String × α)} {name : String} {value : α}
    (found : entries.lookup name = some value) : (name, value) ∈ entries := by
  obtain ⟨before, behind, rfl, _⟩ := List.lookup_eq_some_iff.mp found
  exact List.mem_append_right before (List.mem_cons_self ..)

/-- The names keep their order, and a new one comes last. So the order of a
list tells which name came first, however often entries are replaced. -/
theorem map_fst_putEntry {α : Type} (entries : List (String × α)) (name : String) (value : α) :
    (putEntry entries name value).map Prod.fst =
      if name ∈ entries.map Prod.fst then entries.map Prod.fst else entries.map Prod.fst ++ [name] := by
  induction entries with
  | nil => simp [putEntry]
  | cons entry rest ih =>
    by_cases same : entry.1 = name
    · simp [putEntry, same]
    · have different : name ≠ entry.1 := fun h => same h.symm
      simp only [putEntry, if_neg same, List.map_cons, List.mem_cons, different, false_or, ih]
      split <;> rfl

/-- A new name goes behind all others, so that entries that come one by one
stand as they came. -/
theorem putEntry_new {α : Type} {entries : List (String × α)} {name : String} (new : name ∉ entries.map Prod.fst)
    (value : α) : putEntry entries name value = entries ++ [(name, value)] := by
  induction entries with
  | nil => rfl
  | cons entry rest ih =>
    rw [List.map_cons, List.mem_cons, not_or] at new
    rw [putEntry, if_neg (Ne.symm new.1), ih new.2]
    rfl

end CallCapture
