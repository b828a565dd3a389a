import CallCapture.Proofs.NameStyles

namespace CallCapture.Yaml

theorem isAcceptable_of_visible {c : Char} (visible : isVisible c = true) : isAcceptable c = true := by
  simp only [isVisible, isAcceptable, Bool.or_eq_true, Bool.and_eq_true, beq_iff_eq, decide_eq_true_eq, bne_iff_ne] at *
  omega

namespace Quoted

/-- Escapes of the characters that lead their plane are written with ASCII.
This is looked up for each of them. -/
theorem acceptable_escape_low : ∀ n < 0xa0, ('\\' :: Name.escape (Char.ofNat n)).all isAcceptable = true := by
  decide +kernel

theorem acceptable_escape_high : ∀ n ∈ [0x2028, 0x2029, 0xfeff, 0xfffe, 0xffff],
    ('\\' :: Name.escape (Char.ofNat n)).all isAcceptable = true := by
  decide +kernel

/-- A character in double quotes is written with characters that may stand in
a document: as itself if it can be seen, and with an escape otherwise. -/
theorem acceptable_unit {c d : Char} (member : d ∈ unit false c) : isAcceptable d = true := by
  unfold unit at member
  rw [if_neg Bool.false_ne_true] at member
  split at member
  · rename_i escaped
    have all : ('\\' :: Name.escape c).all isAcceptable = true :=
      @of_escaped (fun c => ('\\' :: Name.escape c).all isAcceptable = true) acceptable_escape_low acceptable_escape_high c
        escaped
    exact List.all_eq_true.mp all d member
  · rename_i plain
    obtain rfl := List.mem_singleton.mp member
    have visible : isVisible d = true := by
      by_contra invisible
      simp [isEscaped, invisible] at plain
    exact isAcceptable_of_visible visible

end Quoted

namespace Name

/-- In single quotes a text has nothing but its own characters, further
quotes, and the indentation. -/
theorem mem_single {indent : Nat} {afterBreak : Bool} {text : List Char} {d : Char}
    (member : d ∈ single indent afterBreak text) : d ∈ text ∨ d = ' ' ∨ d = '\'' := by
  induction text generalizing afterBreak with
  | nil =>
    unfold single at member
    split at member
    · exact Or.inr (Or.inl (List.eq_of_mem_replicate member))
    · cases member
  | cons c text ih =>
    rw [single] at member
    split at member
    · rcases List.mem_cons.mp member with rfl | member
      · exact Or.inl List.mem_cons_self
      · exact (ih member).imp_left (List.mem_cons_of_mem c)
    · rcases List.mem_append.mp member with member | member
      · rcases List.mem_append.mp member with member | member
        · split at member
          · exact Or.inr (Or.inl (List.eq_of_mem_replicate member))
          · cases member
        · split at member
          · exact Or.inr (Or.inr (by simpa using member))
          · exact Or.inl (List.mem_singleton.mp member ▸ List.mem_cons_self)
      · exact (ih member).imp_left (List.mem_cons_of_mem c)

theorem mem_block {indent : Nat} {afterBreak : Bool} {text : List Char} {d : Char}
    (member : d ∈ block indent afterBreak text) : d ∈ text ∨ d = ' ' := by
  induction text generalizing afterBreak with
  | nil => cases member
  | cons c text ih =>
    rw [block] at member
    split at member
    · rcases List.mem_cons.mp member with rfl | member
      · exact Or.inl List.mem_cons_self
      · exact (ih member).imp_left (List.mem_cons_of_mem c)
    · rcases List.mem_append.mp member with member | member
      · split at member
        · exact Or.inr (List.eq_of_mem_replicate member)
        · cases member
      · rcases List.mem_cons.mp member with rfl | member
        · exact Or.inl List.mem_cons_self
        · exact (ih member).imp_left (List.mem_cons_of_mem c)

/-- Whatever is in a name, it is written with characters that may
stand in a document: one that may not is escaped, and then the name is
in double quotes. -/
theorem acceptable_render (name : String) : ∀ d ∈ render 4 name, isAcceptable d = true := by
  intro d member
  rcases style_cases name with double | ⟨plain, ⟨_, literal⟩ | ⟨_, ⟨quoted, _⟩ | ⟨unquoted, _, _⟩⟩⟩
  · rw [render_double double] at member
    rcases List.mem_cons.mp member with rfl | member
    · rfl
    · rcases List.mem_append.mp member with member | member
      · obtain ⟨c, _, member⟩ := List.mem_flatMap.mp member
        exact Quoted.acceptable_unit member
      · rw [List.mem_singleton.mp member]
        rfl
  · rw [render_literal literal] at member
    simp only [List.mem_cons] at member
    rcases member with rfl | rfl | rfl | member
    · rfl
    · rfl
    · rfl
    · rcases mem_block member with member | rfl
      · exact isAcceptable_of_visible ((visible_of_plain plain).2 d member)
      · rfl
  · rw [render_single quoted] at member
    rcases List.mem_cons.mp member with rfl | member
    · rfl
    · rcases List.mem_append.mp member with member | member
      · rcases mem_single member with member | rfl | rfl
        · exact isAcceptable_of_visible ((visible_of_plain plain).2 d member)
        · rfl
        · rfl
      · rw [List.mem_singleton.mp member]
        rfl
  · rw [render_plain unquoted] at member
    exact isAcceptable_of_visible ((visible_of_plain plain).2 d member)

end Name

end CallCapture.Yaml
