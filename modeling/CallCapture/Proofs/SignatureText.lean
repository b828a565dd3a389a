import CallCapture.Directive
import CallCapture.Value
import Mathlib.Data.List.Basic

namespace CallCapture

/-- A text is divided in one way by a delimiter that does not come earlier. -/
theorem divided_first {α : Type} {delimiter : α} {before after other behind : List α}
    (same : before ++ delimiter :: after = other ++ delimiter :: behind) (first : delimiter ∉ before)
    (also : delimiter ∉ other) : before = other ∧ after = behind := by
  induction before generalizing other with
  | nil =>
    cases other with
    | nil => exact ⟨rfl, (List.cons.inj same).2⟩
    | cons head tail =>
      obtain ⟨rfl, _⟩ := List.cons.inj same
      exact absurd (List.mem_cons_self ..) also
  | cons item rest ih =>
    rw [List.mem_cons, not_or] at first
    cases other with
    | nil => exact absurd (List.cons.inj same).1.symm first.1
    | cons head tail =>
      rw [List.mem_cons, not_or] at also
      obtain ⟨rfl, further⟩ := List.cons.inj same
      obtain ⟨rfl, behind⟩ := ih further first.2 also.2
      exact ⟨rfl, behind⟩

/-- A text is divided in one way by a delimiter that does not come later. It
is the same for a text that is read from its end. -/
theorem divided_last {α : Type} {delimiter : α} {before after other behind : List α}
    (same : before ++ delimiter :: after = other ++ delimiter :: behind) (last : delimiter ∉ after)
    (also : delimiter ∉ behind) : before = other ∧ after = behind := by
  have turned : after.reverse ++ delimiter :: before.reverse = behind.reverse ++ delimiter :: other.reverse := by
    simpa only [List.reverse_append, List.reverse_cons, List.append_assoc, List.singleton_append] using
      congrArg List.reverse same
  obtain ⟨ends, starts⟩ := divided_first turned (by rwa [List.mem_reverse]) (by rwa [List.mem_reverse])
  exact ⟨List.reverse_inj.mp starts, List.reverse_inj.mp ends⟩

/-- Nothing in the name of a type can be taken for a part of the text around
it. The routine is not asked for any of this. -/
structure IsTypeName (name : String) : Prop where
  nonempty : name.toList ≠ []
  comma : ',' ∉ name.toList
  bracket : '(' ∉ name.toList

/-- The type of a value has a name of this kind, whatever the value is. There
are seven of them. -/
theorem Value.isTypeName (value : Value) : IsTypeName value.typeName := by
  cases value <;> constructor <;> simp [typeName]

theorem commaSeparated_toList (names : List String) :
    (commaSeparated names).toList = [',', ' '].intercalate (names.map String.toList) :=
  String.toList_intercalate

theorem commaSeparated_cons (name : String) {names : List String} (more : names ≠ []) :
    (commaSeparated (name :: names)).toList = name.toList ++ ',' :: ' ' :: (commaSeparated names).toList := by
  obtain ⟨next, rest, rfl⟩ := List.exists_cons_of_ne_nil more
  rw [commaSeparated_toList, commaSeparated_toList, List.map_cons, List.map_cons, List.intercalate_cons_cons,
    List.append_assoc]
  rfl

theorem commaSeparated_singleton (name : String) : (commaSeparated [name]).toList = name.toList := by
  rw [commaSeparated_toList]
  exact List.intercalate_singleton

theorem bracket_commaSeparated {names : List String} (typeNames : ∀ name ∈ names, IsTypeName name) :
    '(' ∉ (commaSeparated names).toList := by
  induction names with
  | nil => decide
  | cons name rest ih =>
    obtain ⟨first, others⟩ := List.forall_mem_cons.mp typeNames
    by_cases more : rest = []
    · subst more
      rw [commaSeparated_singleton]
      exact first.bracket
    · rw [commaSeparated_cons name more]
      simp [first.bracket, ih others]

theorem commaSeparated_ne_nil {name : String} (names : List String) (typeName : IsTypeName name) :
    (commaSeparated (name :: names)).toList ≠ [] := by
  by_cases more : names = []
  · subst more
    rw [commaSeparated_singleton]
    exact typeName.nonempty
  · rw [commaSeparated_cons name more]
    exact List.append_ne_nil_of_left_ne_nil typeName.nonempty _

theorem commaSeparated_ne_singleton {name other : String} {names : List String} (typeName : IsTypeName name)
    (more : names ≠ []) : (commaSeparated (other :: names)).toList ≠ (commaSeparated [name]).toList := by
  intro same
  rw [commaSeparated_cons other more, commaSeparated_singleton] at same
  have comma := typeName.comma
  rw [← same] at comma
  simp at comma

/-- Types can be told from each other in the text of their list, and so can
lists of different lengths. By induction on the types, each divided from the
next by its comma. -/
theorem commaSeparated_injective {names others : List String} (typeNames : ∀ name ∈ names, IsTypeName name)
    (also : ∀ name ∈ others, IsTypeName name) (same : (commaSeparated names).toList = (commaSeparated others).toList) :
    names = others := by
  induction names generalizing others with
  | nil =>
    cases others with
    | nil => rfl
    | cons other further => exact absurd same.symm (commaSeparated_ne_nil further (List.forall_mem_cons.mp also).1)
  | cons name rest ih =>
    obtain ⟨first, behind⟩ := List.forall_mem_cons.mp typeNames
    cases others with
    | nil => exact absurd same (commaSeparated_ne_nil rest first)
    | cons other further =>
      obtain ⟨head, tail⟩ := List.forall_mem_cons.mp also
      by_cases more : rest = []
      · by_cases several : further = []
        · subst more several
          rw [commaSeparated_singleton, commaSeparated_singleton, String.toList_inj] at same
          rw [same]
        · subst more
          exact absurd same.symm (commaSeparated_ne_singleton first several)
      · by_cases several : further = []
        · subst several
          exact absurd same (commaSeparated_ne_singleton head more)
        · rw [commaSeparated_cons name more, commaSeparated_cons other several] at same
          obtain ⟨names, spaced⟩ := divided_first same first.comma head.comma
          rw [String.toList_inj.mp names, ih behind tail (List.cons.inj spaced).2]

namespace Signature

/-- The types are names of types. Signatures that were made up by hand need
not be of this kind. -/
def IsTyped (signature : Signature) : Prop := ∀ name ∈ signature.argTypes, IsTypeName name

/-- A call has a signature with names of types, since each of its arguments is
a value. The name of its routine can be anything. -/
theorem isTyped_ofCall (routine : String) (args : List Value) : (ofCall routine args).IsTyped := by
  intro name member
  obtain ⟨value, _, rfl⟩ := List.mem_map.mp member
  exact value.isTypeName

theorem display_toList (signature : Signature) : signature.display.toList =
    signature.routine.toList ++ '(' :: ((commaSeparated signature.argTypes).toList ++ [')']) := by
  unfold display
  simp only [String.toList_append, List.append_assoc]
  rfl

theorem render_toList (signature : Signature) : (Directive.mk signature).render.toList =
    ("precompile(".toList ++ signature.routine.toList ++ [',', ' ']) ++
      '(' :: ((commaSeparated signature.argTypes).toList ++ [')', ')']) := by
  unfold Directive.render
  simp only [String.toList_append, List.append_assoc]
  rfl

theorem IsTyped.bracket {signature : Signature} (typed : signature.IsTyped) {ending : List Char}
    (closed : '(' ∉ ending) : '(' ∉ (commaSeparated signature.argTypes).toList ++ ending := by
  rw [List.mem_append, not_or]
  exact ⟨bracket_commaSeparated typed, closed⟩

/-- What stands around the routine and behind the types is no matter. Nothing
is escaped in the text, but the last bracket that opens divides it. -/
theorem IsTyped.eq_of_text {signature other : Signature} (typed : signature.IsTyped) (also : other.IsTyped)
    (start middle : List Char) {ending : List Char} (closed : '(' ∉ ending)
    (same : start ++ signature.routine.toList ++ middle ++
        '(' :: ((commaSeparated signature.argTypes).toList ++ ending) =
      start ++ other.routine.toList ++ middle ++ '(' :: ((commaSeparated other.argTypes).toList ++ ending)) :
    signature = other := by
  obtain ⟨before, behind⟩ := divided_last same (typed.bracket closed) (also.bracket closed)
  have routine := List.append_cancel_left (List.append_cancel_right before)
  have types := commaSeparated_injective typed also (List.append_cancel_right behind)
  obtain ⟨_, _⟩ := signature
  obtain ⟨_, _⟩ := other
  exact congrArg₂ mk (String.toList_inj.mp routine) types

theorem display_inj {signature other : Signature} (typed : signature.IsTyped) (also : other.IsTyped) :
    signature.display = other.display ↔ signature = other := by
  refine ⟨fun same => ?_, congrArg display⟩
  have texts := congrArg String.toList same
  rw [display_toList, display_toList] at texts
  exact typed.eq_of_text also [] [] (by decide : '(' ∉ [')']) (by simpa using texts)

/-- A signature of a call can be read off the line of its directive. Two
different calls never lead to the same directive. -/
theorem render_inj {signature other : Signature} (typed : signature.IsTyped) (also : other.IsTyped) :
    (Directive.mk signature).render = (Directive.mk other).render ↔ signature = other := by
  refine ⟨fun same => ?_, fun same => congrArg (fun known => (Directive.mk known).render) same⟩
  have texts := congrArg String.toList same
  rw [render_toList, render_toList] at texts
  exact typed.eq_of_text also _ _ (by decide : '(' ∉ [')', ')']) texts

end Signature

end CallCapture
