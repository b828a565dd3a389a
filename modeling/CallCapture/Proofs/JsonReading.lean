import CallCapture.Json.Codec
import Mathlib.Data.List.Forall2

namespace CallCapture.Json

theorem skipSpaceFrom_rest (text : List Char) (place : Place) :
    (Cursor.skipSpaceFrom text place).rest = text.dropWhile Cursor.isSpace := by
  induction text generalizing place with
  | nil => rfl
  | cons c rest ih =>
    unfold Cursor.skipSpaceFrom
    by_cases space : Cursor.isSpace c
    · rw [if_pos space, ih, List.dropWhile_cons_of_pos space]
    · rw [if_neg space, List.dropWhile_cons_of_neg space]

theorem skipSpace_solid {c : Char} {rest : List Char} {place : Place} (solid : Cursor.isSpace c = false) :
    Cursor.skipSpace ⟨c :: rest, place⟩ = ⟨c :: rest, place⟩ := by
  simp only [Cursor.skipSpace, Cursor.skipSpaceFrom, solid, Bool.false_eq_true, if_false]

/-- More white space in front of a text makes a difference to the place only.
So space that is written between two parts of a text is never seen. -/
theorem skipSpace_append {gap : List Char} (space : ∀ c ∈ gap, Cursor.isSpace c = true) (rest : List Char)
    (place : Place) : ∃ reached, Cursor.skipSpace ⟨gap ++ rest, place⟩ = Cursor.skipSpace ⟨rest, reached⟩ := by
  induction gap generalizing place with
  | nil => exact ⟨place, rfl⟩
  | cons c gap ih =>
    obtain ⟨reached, same⟩ := ih (fun d found => space d (List.mem_cons_of_mem c found)) (place.after c)
    refine ⟨reached, ?_⟩
    rw [← same]
    simp only [Cursor.skipSpace, List.cons_append, Cursor.skipSpaceFrom, space c List.mem_cons_self, if_true]

namespace Reader

variable {α β : Type}

/-- What a reader comes to, and what it leaves. Either there is a fault with
its place, or a value with what is left of the text. -/
def outcome (reader : Reader α) (cursor : Cursor) : Except Fault (α × Cursor) := StateT.run reader cursor

theorem outcome_bind (reader : Reader α) (next : α → Reader β) (cursor : Cursor) :
    (reader >>= next).outcome cursor = match reader.outcome cursor with
      | .ok (value, later) => (next value).outcome later
      | .error fault => .error fault := by
  change (reader.outcome cursor >>= fun done => (next done.1).outcome done.2) = _
  rcases reader.outcome cursor with fault | ⟨value, later⟩ <;> rfl

theorem outcome_bind_ok {reader : Reader α} {next : α → Reader β} {cursor later : Cursor} {value : α}
    (ended : reader.outcome cursor = .ok (value, later)) :
    (reader >>= next).outcome cursor = (next value).outcome later := by
  rw [outcome_bind, ended]

theorem outcome_peek_bind (next : Option Char → Reader α) (cursor : Cursor) :
    (peek? >>= next).outcome cursor = (next cursor.rest.head?).outcome cursor := rfl

theorem outcome_peekSolid_bind (next : Option Char → Reader α) (cursor : Cursor) :
    (peekSolid? >>= next).outcome cursor = (next cursor.skipSpace.rest.head?).outcome cursor.skipSpace := rfl

theorem outcome_step_bind (next : Unit → Reader α) (cursor : Cursor) :
    (step >>= next).outcome cursor = (next ()).outcome cursor.step := rfl

theorem outcome_sizeLeft_bind (next : Nat → Reader α) (cursor : Cursor) :
    (sizeLeft >>= next).outcome cursor = (next cursor.rest.length).outcome cursor := rfl

end Reader

/-- The reader takes `text` off the front of any other text, and gives
`value`. Nothing is said of the places, since a text that is read has no fault
in it. A reader that is handed less than the text may do anything. -/
def Reads {α : Type} (reader : Reader α) (text : List Char) (value : α) : Prop :=
  ∀ rest place, ∃ reached, reader.outcome ⟨text ++ rest, place⟩ = .ok (value, ⟨rest, reached⟩)

namespace Reads

variable {α β : Type}

theorem bind {reader : Reader α} {next : α → Reader β} {first second : List Char} {value : α} {result : β}
    (reads : Reads reader first value) (onward : Reads (next value) second result) :
    Reads (reader >>= next) (first ++ second) result := by
  intro rest place
  obtain ⟨middle, taken⟩ := reads (second ++ rest) place
  obtain ⟨reached, done⟩ := onward rest middle
  refine ⟨reached, ?_⟩
  rw [List.append_assoc, Reader.outcome_bind_ok taken]
  exact done

theorem map {reader : Reader α} {text : List Char} {value : α} (reads : Reads reader text value) (f : α → β) :
    Reads (reader >>= fun value => pure (f value)) text (f value) := by
  have nothing : Reads (pure (f value) : Reader β) [] (f value) := fun rest place => ⟨place, rfl⟩
  rw [← List.append_nil text]
  exact reads.bind nothing

end Reads

/-- Four hexadecimal digits are read as the number that they stand for. They
are cut off by their bytes, and each of them has one. -/
theorem reads_hexEscape {digits : List Char} {n : Nat} (four : digits.length = 4) (ascii : byteLength digits = 4)
    (value : hexValue? digits = some n) : Reads Reader.hexEscape digits n := by
  intro rest place
  have long : ¬ byteLength (digits ++ rest) < 4 := by
    rw [byteLength_append]
    omega
  have taken : (digits ++ rest).take 4 = digits := by rw [← four, List.take_left]
  have left : (digits ++ rest).drop 4 = rest := by rw [← four, List.drop_left]
  refine ⟨placeAfterBytes 4 (digits ++ rest) place, ?_⟩
  unfold Reader.hexEscape
  change Reader.outcome (if byteLength (digits ++ rest) < 4 then _ else _) _ = _
  rw [if_neg long]
  dsimp only
  rw [taken, value, left]
  rfl

theorem reads_unicodeEscape {digits : List Char} {n : Nat} (reads : Reads Reader.hexEscape digits n)
    (plain : isLowSurrogate n = false ∧ isHighSurrogate n = false) :
    Reads Reader.unicodeEscape digits (Char.ofNat n) := by
  intro rest place
  obtain ⟨reached, taken⟩ := reads rest place
  refine ⟨reached, ?_⟩
  unfold Reader.unicodeEscape
  rw [Reader.outcome_bind_ok taken, plain.1, plain.2]
  rfl

/-- A character that is neither a quote nor a backslash nor a control
character stands for itself. -/
theorem reads_plain {c : Char} (quote : c ≠ '"') (backslash : c ≠ '\\') (visible : ¬ c.toNat < 0x20) :
    Reads Reader.textUnit [c] (some c) := by
  intro rest place
  refine ⟨place.after c, ?_⟩
  unfold Reader.textUnit
  rw [Reader.outcome_peek_bind]
  simp only [List.singleton_append, List.head?_cons, if_neg quote, if_neg backslash, if_neg visible]
  rfl

theorem reads_shortEscape {e c : Char} (short : Reader.shortEscape? e = some c) :
    Reads Reader.textUnit ['\\', e] (some c) := by
  intro rest place
  refine ⟨(place.after '\\').after e, ?_⟩
  unfold Reader.textUnit
  rw [Reader.outcome_peek_bind]
  change Reader.outcome (Reader.step >>= fun _ => Reader.peek? >>= _) _ = _
  rw [Reader.outcome_step_bind, Reader.outcome_peek_bind]
  simp only [List.cons_append, Cursor.step, List.head?_cons, short]
  rfl

theorem reads_longEscape {digits : List Char} {c : Char} (reads : Reads Reader.unicodeEscape digits c) :
    Reads Reader.textUnit ('\\' :: 'u' :: digits) (some c) := by
  intro rest place
  obtain ⟨reached, taken⟩ := reads rest ((place.after '\\').after 'u')
  refine ⟨reached, ?_⟩
  unfold Reader.textUnit
  rw [Reader.outcome_peek_bind]
  change Reader.outcome (Reader.step >>= fun _ => Reader.peek? >>= _) _ = _
  rw [Reader.outcome_step_bind, Reader.outcome_peek_bind]
  change Reader.outcome (Reader.step >>= fun _ => Reader.unicodeEscape >>= _) _ = _
  rw [Reader.outcome_step_bind]
  exact Reader.outcome_bind_ok taken

theorem controlDigits : ∀ n < 0x20,
    let zeros := if n < 0x10 then ['0', '0', '0'] else ['0', '0']
    (zeros ++ Nat.toDigits 16 n).length = 4 ∧ byteLength (zeros ++ Nat.toDigits 16 n) = 4 ∧
      hexValue? (zeros ++ Nat.toDigits 16 n) = some n ∧ isLowSurrogate n = false ∧ isHighSurrogate n = false := by
  decide

theorem reads_control {c : Char} (control : c.toNat < 0x20) :
    Reads Reader.textUnit ('\\' :: 'u' :: (if c.toNat < 0x10 then ['0', '0', '0'] else ['0', '0']) ++
      Nat.toDigits 16 c.toNat) (some c) := by
  obtain ⟨four, ascii, value, plain⟩ := controlDigits c.toNat control
  have reads := reads_longEscape (reads_unicodeEscape (reads_hexEscape four ascii value) plain)
  rwa [Char.ofNat_toNat] at reads

/-- Whatever a character is written as, it is more than nothing and is
read back. Characters are written in one of four ways, and each of them is
read by its own rule. -/
theorem reads_escaped (c : Char) : Reads Reader.textUnit (escaped c) (some c) ∧ escaped c ≠ [] := by
  have short {e d : Char} (value : Reader.shortEscape? e = some d) (same : c = d) :
      Reads Reader.textUnit ['\\', e] (some c) ∧ ['\\', e] ≠ [] :=
    ⟨same ▸ reads_shortEscape value, List.cons_ne_nil _ _⟩
  let readBack (text : List Char) : Prop := Reads Reader.textUnit text (some c) ∧ text ≠ []
  change readBack (escaped c)
  unfold escaped
  refine iteInduction (short rfl) fun quote => ?_
  refine iteInduction (short rfl) fun backslash => ?_
  refine iteInduction (short rfl) fun _ => ?_
  refine iteInduction (short rfl) fun _ => ?_
  refine iteInduction (short rfl) fun _ => ?_
  refine iteInduction (short rfl) fun _ => ?_
  refine iteInduction (short rfl) fun _ => ?_
  refine iteInduction (fun low => ?_) fun high => iteInduction (fun control => ?_) fun visible => ?_
  · have reads := reads_control (c.toNat.lt_of_lt_of_le low (by decide))
    rw [if_pos low] at reads
    exact ⟨reads, List.cons_ne_nil _ _⟩
  · have reads := reads_control control
    rw [if_neg high] at reads
    exact ⟨reads, List.cons_ne_nil _ _⟩
  · exact ⟨reads_plain quote backslash visible, List.cons_ne_nil _ _⟩

theorem length_le_flatMap_escaped (text : List Char) : text.length ≤ (text.flatMap escaped).length := by
  induction text with
  | nil => exact Nat.le_refl _
  | cons c rest ih =>
    have least := List.length_pos_iff.mpr (reads_escaped c).2
    rw [List.flatMap_cons, List.length_append, List.length_cons]
    omega

/-- A text up to its closing quote, by induction on its characters. The fuel
is enough if there is more of it than characters. -/
theorem reads_textUnits (text : List Char) {fuel : Nat} (enough : text.length < fuel) :
    Reads (Reader.textUnits fuel) (text.flatMap escaped ++ ['"']) text := by
  induction text generalizing fuel with
  | nil =>
    obtain ⟨fuel, rfl⟩ := Nat.exists_eq_succ_of_ne_zero (by omega : fuel ≠ 0)
    exact fun rest place => ⟨place.after '"', rfl⟩
  | cons c text ih =>
    obtain ⟨fuel, rfl⟩ := Nat.exists_eq_succ_of_ne_zero (by omega : fuel ≠ 0)
    have later : Reads (Reader.textUnits fuel) (text.flatMap escaped ++ ['"']) text :=
      ih (by rw [List.length_cons] at enough; omega)
    rw [List.flatMap_cons, List.append_assoc]
    exact (reads_escaped c).1.bind (later.map (c :: ·))

/-- A text without its opening quote. Each character takes at least one
character of what is written, so the length that is left is fuel enough. -/
theorem reads_textBody (s : String) : Reads Reader.textBody (s.toList.flatMap escaped ++ ['"']) s := by
  intro rest place
  have enough : s.toList.length < (s.toList.flatMap escaped ++ ['"'] ++ rest).length + 1 := by
    have least := length_le_flatMap_escaped s.toList
    simp only [List.length_append]
    omega
  have reads := (reads_textUnits s.toList enough).map String.ofList
  rw [String.ofList_toList] at reads
  unfold Reader.textBody
  rw [Reader.outcome_sizeLeft_bind]
  exact reads rest place

/-- The first character that is not white space. -/
def solidHead? (text : List Char) : Option Char := (text.dropWhile Cursor.isSpace).head?

theorem solidHead?_cons {c : Char} (solid : Cursor.isSpace c = false) (rest : List Char) :
    solidHead? (c :: rest) = some c := by
  unfold solidHead?
  rw [List.dropWhile_cons_of_neg (by simp [solid])]
  rfl

theorem solidHead?_gap {gap : List Char} (space : ∀ c ∈ gap, Cursor.isSpace c = true) (text : List Char) :
    solidHead? (gap ++ text) = solidHead? text := by
  unfold solidHead?
  rw [List.dropWhile_append_of_pos space]

/-- What stands behind a text does not change its first character that is no
space. By induction on the space in front. -/
theorem solidHead?_append {text : List Char} {c : Char} (head : solidHead? text = some c) (rest : List Char) :
    solidHead? (text ++ rest) = some c := by
  induction text with
  | nil => cases head
  | cons d text ih =>
    cases space : Cursor.isSpace d with
    | true =>
      have drop (others : List Char) : solidHead? (d :: others) = solidHead? others := by
        unfold solidHead?
        rw [List.dropWhile_cons_of_pos space]
      rw [List.cons_append, drop]
      rw [drop] at head
      exact ih head
    | false =>
      rw [solidHead?_cons space] at head
      rw [List.cons_append, solidHead?_cons space, head]

theorem head?_skipSpace (text : List Char) (place : Place) :
    (Cursor.skipSpace ⟨text, place⟩).rest.head? = solidHead? text := by
  rw [Cursor.skipSpace, skipSpaceFrom_rest]
  rfl

theorem step_cons (c : Char) (text : List Char) (place : Place) :
    Cursor.step ⟨c :: text, place⟩ = ⟨text, place.after c⟩ := rfl

theorem skipSpace_skipSpace (cursor : Cursor) : cursor.skipSpace.skipSpace = cursor.skipSpace := by
  obtain ⟨text, place⟩ := cursor
  induction text generalizing place with
  | nil => rfl
  | cons c rest ih =>
    cases space : Cursor.isSpace c with
    | true =>
      simp only [Cursor.skipSpace, Cursor.skipSpaceFrom, space, if_true] at ih ⊢
      exact ih (place.after c)
    | false => rw [skipSpace_solid space, skipSpace_solid space]

/-- White space in front of a value makes no difference to the reader. All
readers of values are of this kind, so the layouts of a text differ in
nothing that they see. -/
def SkipsSpace {α : Type} (reader : Reader α) : Prop :=
  ∀ cursor : Cursor, reader.outcome cursor.skipSpace = reader.outcome cursor

namespace SkipsSpace

variable {α : Type}

theorem peekSolid_bind (next : Option Char → Reader α) : SkipsSpace (Reader.peekSolid? >>= next) := by
  intro cursor
  rw [Reader.outcome_peekSolid_bind, Reader.outcome_peekSolid_bind, skipSpace_skipSpace]

theorem text : SkipsSpace Reader.text := peekSolid_bind _

theorem list (item : Reader α) : SkipsSpace (Reader.list item) := peekSolid_bind _

theorem record {Draft : Type} (layout : Layout Draft α) : SkipsSpace (Reader.record layout) := peekSolid_bind _

end SkipsSpace

/-- A reader that skips white space takes the space off with the text of
the value behind it. -/
theorem Reads.behind {α : Type} {reader : Reader α} {gap text : List Char} {value : α} (reads : Reads reader text value)
    (skips : SkipsSpace reader) (space : ∀ c ∈ gap, Cursor.isSpace c = true) : Reads reader (gap ++ text) value := by
  intro rest place
  obtain ⟨middle, same⟩ := skipSpace_append space (text ++ rest) place
  obtain ⟨reached, taken⟩ := reads rest middle
  refine ⟨reached, ?_⟩
  rw [List.append_assoc, ← skips, same, skips, taken]

theorem reads_text (s : String) : Reads Reader.text (literal s) s := by
  intro rest place
  obtain ⟨reached, taken⟩ := reads_textBody s rest (place.after '"')
  refine ⟨reached, ?_⟩
  unfold Reader.text
  rw [Reader.outcome_peekSolid_bind]
  change Reader.outcome (Reader.step >>= fun _ => Reader.textBody) _ = _
  rw [Reader.outcome_step_bind]
  exact taken

/-- Parts with a comma in front of all but the first. Lists and objects are
written so in both layouts. -/
def separated : List (List Char) → List Char
  | [] => []
  | part :: parts => part ++ parts.flatMap (',' :: ·)

/-- The text of a value inside a list: it does not start like the end of
the list. A reader of lists looks at this one character to decide whether
there is an item. -/
structure ReadsItem {α : Type} (item : Reader α) (part : List Char) (value : α) : Prop where
  reads : Reads item part value
  opens : ∃ c, solidHead? part = some c ∧ c ≠ ']'

section Lists

variable {α : Type} {item : Reader α}

theorem hasItem_end {text : List Char} (closing : solidHead? text = some ']') (first : Bool) (place : Place) :
    (Reader.hasItem first).outcome ⟨text, place⟩ = .ok (false, Cursor.skipSpace ⟨text, place⟩) := by
  unfold Reader.hasItem
  rw [Reader.outcome_peekSolid_bind, head?_skipSpace, closing]
  rfl

theorem hasItem_first {text : List Char} {c : Char} (opens : solidHead? text = some c) (other : c ≠ ']')
    (place : Place) : (Reader.hasItem true).outcome ⟨text, place⟩ = .ok (true, Cursor.skipSpace ⟨text, place⟩) := by
  unfold Reader.hasItem
  rw [Reader.outcome_peekSolid_bind, head?_skipSpace, opens]
  simp only [if_neg other]
  rfl

theorem hasItem_comma {text : List Char} {c : Char} (opens : solidHead? text = some c) (other : c ≠ ']')
    (place : Place) : (Reader.hasItem false).outcome ⟨',' :: text, place⟩ =
      .ok (true, Cursor.skipSpace ⟨text, place.after ','⟩) := by
  unfold Reader.hasItem
  rw [Reader.outcome_peekSolid_bind, head?_skipSpace, solidHead?_cons rfl]
  change Reader.outcome (Reader.step >>= fun _ => Reader.peekSolid? >>= _) _ = _
  rw [Reader.outcome_step_bind, Reader.outcome_peekSolid_bind, skipSpace_solid rfl]
  rw [step_cons, head?_skipSpace, opens]
  simp only [if_neg other]
  rfl

/-- The items behind the first, each with a comma in front of it. By induction
on the items; the bracket that closes the list ends them. -/
theorem ReadsItem.outcome_more {parts : List (List Char)} {values : List α} (skips : SkipsSpace item)
    (items : List.Forall₂ (ReadsItem item) parts values) {tail : List Char} (closing : solidHead? tail = some ']')
    {fuel : Nat} (enough : parts.length < fuel) (place : Place) :
    ∃ reached, (Reader.items item fuel false).outcome ⟨parts.flatMap (',' :: ·) ++ tail, place⟩ =
      .ok (values, Cursor.skipSpace ⟨tail, reached⟩) := by
  induction items generalizing fuel place with
  | nil =>
    obtain ⟨fuel, rfl⟩ := Nat.exists_eq_succ_of_ne_zero (by omega : fuel ≠ 0)
    refine ⟨place, ?_⟩
    unfold Reader.items
    rw [List.flatMap_nil, List.nil_append, Reader.outcome_bind_ok (hasItem_end closing false place)]
    rfl
  | @cons part value parts values first others ih =>
    obtain ⟨fuel, rfl⟩ := Nat.exists_eq_succ_of_ne_zero (by omega : fuel ≠ 0)
    obtain ⟨c, opens, other⟩ := first.opens
    have begun := hasItem_comma (solidHead?_append opens (parts.flatMap (',' :: ·) ++ tail)) other place
    obtain ⟨middle, taken⟩ := first.reads (parts.flatMap (',' :: ·) ++ tail) (place.after ',')
    have fits : parts.length < fuel := by
      rw [List.length_cons] at enough
      omega
    obtain ⟨reached, rest⟩ := ih fits middle
    refine ⟨reached, ?_⟩
    unfold Reader.items
    rw [List.flatMap_cons, List.cons_append, List.cons_append, List.append_assoc, Reader.outcome_bind_ok begun]
    rw [if_pos rfl, Reader.outcome_bind, skips, taken]
    exact Reader.outcome_bind_ok rest

/-- All items of a list, from the first one. It has no comma in front of it,
and those behind it are read as they are in general. -/
theorem ReadsItem.outcome_items {parts : List (List Char)} {values : List α} (skips : SkipsSpace item)
    (items : List.Forall₂ (ReadsItem item) parts values) {tail : List Char} (closing : solidHead? tail = some ']')
    {fuel : Nat} (enough : parts.length < fuel) (place : Place) :
    ∃ reached, (Reader.items item fuel true).outcome ⟨separated parts ++ tail, place⟩ =
      .ok (values, Cursor.skipSpace ⟨tail, reached⟩) := by
  obtain ⟨fuel, rfl⟩ := Nat.exists_eq_succ_of_ne_zero (by omega : fuel ≠ 0)
  cases items with
  | nil =>
    refine ⟨place, ?_⟩
    unfold Reader.items
    rw [separated, List.nil_append, Reader.outcome_bind_ok (hasItem_end closing true place)]
    rfl
  | @cons part value parts values first others =>
    obtain ⟨c, opens, other⟩ := first.opens
    have begun := hasItem_first (solidHead?_append opens (parts.flatMap (',' :: ·) ++ tail)) other place
    obtain ⟨middle, taken⟩ := first.reads (parts.flatMap (',' :: ·) ++ tail) place
    have fits : parts.length < fuel := by
      rw [List.length_cons] at enough
      omega
    obtain ⟨reached, rest⟩ := outcome_more skips others closing fits middle
    refine ⟨reached, ?_⟩
    unfold Reader.items
    rw [separated, List.append_assoc, Reader.outcome_bind_ok begun, if_pos rfl, Reader.outcome_bind, skips, taken]
    exact Reader.outcome_bind_ok rest

theorem length_le_separated (parts : List (List Char)) : parts.length ≤ (separated parts).length + 1 := by
  cases parts with
  | nil => simp
  | cons part parts =>
    have commas : parts.length ≤ (parts.flatMap (',' :: ·)).length := by
      induction parts with
      | nil => exact Nat.le_refl _
      | cons part parts ih =>
        rw [List.flatMap_cons, List.length_append, List.length_cons, List.length_cons]
        omega
    rw [separated, List.length_append, List.length_cons]
    omega

/-- A list is read back from its parts with commas between them, and any white
space in front of its end. Whatever reads an item reads a list of items. -/
theorem reads_list {parts : List (List Char)} {values : List α} {gap : List Char} (skips : SkipsSpace item)
    (items : List.Forall₂ (ReadsItem item) parts values) (space : ∀ c ∈ gap, Cursor.isSpace c = true) :
    Reads (Reader.list item) ('[' :: separated parts ++ gap ++ [']']) values := by
  intro rest place
  have closing : solidHead? (gap ++ ']' :: rest) = some ']' := by
    rw [solidHead?_gap space, solidHead?_cons rfl]
  have enough : parts.length < (separated parts ++ (gap ++ ']' :: rest)).length + 1 := by
    have least := length_le_separated parts
    simp only [List.length_append, List.length_cons]
    omega
  obtain ⟨middle, taken⟩ := ReadsItem.outcome_items skips items closing enough (place.after '[')
  obtain ⟨reached, closed⟩ := skipSpace_append space (']' :: rest) middle
  rw [closed, skipSpace_solid rfl] at taken
  refine ⟨reached.after ']', ?_⟩
  have shape : '[' :: separated parts ++ gap ++ [']'] ++ rest = '[' :: (separated parts ++ (gap ++ ']' :: rest)) := by
    simp only [List.cons_append, List.append_assoc, List.nil_append]
  unfold Reader.list
  rw [shape, Reader.outcome_peekSolid_bind]
  change Reader.outcome (Reader.step >>= fun _ => Reader.sizeLeft >>= _) _ = _
  rw [Reader.outcome_step_bind, Reader.outcome_sizeLeft_bind, skipSpace_solid rfl]
  exact Reader.outcome_bind_ok taken

end Lists

section Records

variable {Draft α : Type} {layout : Layout Draft α}

/-- The text of a field: its name behind white space, a colon, and the text
of its value. In an indented object the space in front of the name is the
break of the line. -/
def fieldText (gap : List Char) (entry : String × List Char) : List Char :=
  gap ++ (literal entry.1 ++ ':' :: entry.2)

/-- The texts of the fields that lead from one draft to another one with
nothing missing. It says nothing of the fields that a layout knows, but that
none is missing at the end. -/
inductive Fills (layout : Layout Draft α) : Draft → List (String × List Char) → Draft → Prop
  | done {draft} : layout.missing? draft = none → Fills layout draft [] draft
  | next {draft middle last field key text entries} :
      layout.fields.find? (fun field => field.name = key) = some field → field.isSet draft = false →
      Reads (field.read draft) text middle → Fills layout middle entries last →
      Fills layout draft ((key, text) :: entries) last

theorem skipSpace_fieldText {gap : List Char} (space : ∀ c ∈ gap, Cursor.isSpace c = true)
    (entry : String × List Char) (rest : List Char) (place : Place) :
    ∃ reached, Cursor.skipSpace ⟨fieldText gap entry ++ rest, place⟩ =
      ⟨literal entry.1 ++ (':' :: entry.2 ++ rest), reached⟩ := by
  obtain ⟨reached, same⟩ := skipSpace_append space (literal entry.1 ++ (':' :: entry.2 ++ rest)) place
  refine ⟨reached, ?_⟩
  rw [fieldText, List.append_assoc, List.append_assoc, same, literal, List.cons_append, List.cons_append,
    skipSpace_solid rfl]

theorem hasEntry_end {text : List Char} (closing : solidHead? text = some '\x7d') (first : Bool) (place : Place) :
    (Reader.hasEntry first).outcome ⟨text, place⟩ = .ok (false, Cursor.skipSpace ⟨text, place⟩) := by
  unfold Reader.hasEntry
  rw [Reader.outcome_peekSolid_bind, head?_skipSpace, closing]
  rfl

theorem hasEntry_first {gap : List Char} (space : ∀ c ∈ gap, Cursor.isSpace c = true) (entry : String × List Char)
    (rest : List Char) (place : Place) :
    ∃ reached, (Reader.hasEntry true).outcome ⟨fieldText gap entry ++ rest, place⟩ =
      .ok (true, ⟨literal entry.1 ++ (':' :: entry.2 ++ rest), reached⟩) := by
  obtain ⟨reached, same⟩ := skipSpace_fieldText space entry rest place
  refine ⟨reached, ?_⟩
  unfold Reader.hasEntry
  rw [Reader.outcome_peekSolid_bind, same]
  rfl

theorem hasEntry_comma {gap : List Char} (space : ∀ c ∈ gap, Cursor.isSpace c = true) (entry : String × List Char)
    (rest : List Char) (place : Place) :
    ∃ reached, (Reader.hasEntry false).outcome ⟨',' :: (fieldText gap entry ++ rest), place⟩ =
      .ok (true, ⟨literal entry.1 ++ (':' :: entry.2 ++ rest), reached⟩) := by
  obtain ⟨reached, same⟩ := skipSpace_fieldText space entry rest (place.after ',')
  refine ⟨reached, ?_⟩
  unfold Reader.hasEntry
  rw [Reader.outcome_peekSolid_bind, skipSpace_solid rfl]
  change Reader.outcome (Reader.step >>= fun _ => Reader.peekSolid? >>= _) _ = _
  rw [Reader.outcome_step_bind, Reader.outcome_peekSolid_bind]
  rw [step_cons, same]
  rfl

/-- A field is read into the draft, and the other entries are left. Whether
the field is the first one or stands behind a comma is settled before. -/
theorem outcome_field {field : Field Draft} {draft middle : Draft} {key : String} {text rest : List Char}
    {first : Bool} {cursor : Cursor} {place : Place}
    (begun : (Reader.hasEntry first).outcome cursor = .ok (true, ⟨literal key ++ (':' :: text ++ rest), place⟩))
    (found : layout.fields.find? (fun field => field.name = key) = some field) (new : field.isSet draft = false)
    (reads : Reads (field.read draft) text middle) (fuel : Nat) :
    ∃ reached, (Reader.entries layout (fuel + 1) first draft).outcome cursor =
      (Reader.entries layout fuel false middle).outcome ⟨rest, reached⟩ := by
  obtain ⟨named, taken⟩ := reads_textBody key (':' :: text ++ rest) (place.after '"')
  obtain ⟨reached, filled⟩ := reads rest (named.after ':')
  refine ⟨reached, ?_⟩
  have shape : Cursor.step ⟨literal key ++ (':' :: text ++ rest), place⟩ =
      ⟨key.toList.flatMap escaped ++ ['"'] ++ (':' :: text ++ rest), place.after '"'⟩ := rfl
  have colon : Reader.colon.outcome ⟨':' :: text ++ rest, named⟩ = .ok ((), ⟨text ++ rest, named.after ':'⟩) := rfl
  rw [Reader.entries, Reader.outcome_bind_ok begun, if_pos rfl, Reader.outcome_step_bind, shape,
    Reader.outcome_bind_ok taken]
  simp only [found, new, Bool.false_eq_true, if_false]
  rw [Reader.outcome_bind_ok colon, Reader.outcome_bind_ok filled]

/-- The fields behind the first, each with a comma in front of it. By
induction on how the draft is filled. -/
theorem Fills.outcome_more {gap : List Char} (space : ∀ c ∈ gap, Cursor.isSpace c = true) {draft last : Draft}
    {entries : List (String × List Char)} (fills : Fills layout draft entries last) {tail : List Char}
    (closing : solidHead? tail = some '\x7d') {fuel : Nat} (enough : entries.length < fuel) (place : Place) :
    ∃ reached, (Reader.entries layout fuel false draft).outcome
        ⟨(entries.map (fieldText gap)).flatMap (',' :: ·) ++ tail, place⟩ =
      .ok (.ok last, Cursor.skipSpace ⟨tail, reached⟩) := by
  induction fills generalizing fuel place with
  | done full =>
    obtain ⟨fuel, rfl⟩ := Nat.exists_eq_succ_of_ne_zero (by omega : fuel ≠ 0)
    refine ⟨place, ?_⟩
    unfold Reader.entries
    rw [List.map_nil, List.flatMap_nil, List.nil_append, Reader.outcome_bind_ok (hasEntry_end closing false place), full]
    rfl
  | @next _ _ _ _ key text entries found new reads _ ih =>
    obtain ⟨fuel, rfl⟩ := Nat.exists_eq_succ_of_ne_zero (by omega : fuel ≠ 0)
    obtain ⟨named, begun⟩ := hasEntry_comma space (key, text)
      ((entries.map (fieldText gap)).flatMap (',' :: ·) ++ tail) place
    obtain ⟨middle, filled⟩ := outcome_field begun found new reads fuel
    have fits : entries.length < fuel := by
      rw [List.length_cons] at enough
      omega
    obtain ⟨reached, rest⟩ := ih fits middle
    refine ⟨reached, ?_⟩
    rw [List.map_cons, List.flatMap_cons, List.cons_append, List.cons_append, List.append_assoc, filled, rest]

/-- All fields of an object, from the first one. What is in the draft in
the end is what the fields fill it with. -/
theorem Fills.outcome_entries {gap : List Char} (space : ∀ c ∈ gap, Cursor.isSpace c = true) {draft last : Draft}
    {entries : List (String × List Char)} (fills : Fills layout draft entries last) {tail : List Char}
    (closing : solidHead? tail = some '\x7d') {fuel : Nat} (enough : entries.length < fuel) (place : Place) :
    ∃ reached, (Reader.entries layout fuel true draft).outcome
        ⟨separated (entries.map (fieldText gap)) ++ tail, place⟩ =
      .ok (.ok last, Cursor.skipSpace ⟨tail, reached⟩) := by
  obtain ⟨fuel, rfl⟩ := Nat.exists_eq_succ_of_ne_zero (by omega : fuel ≠ 0)
  cases fills with
  | done full =>
    refine ⟨place, ?_⟩
    unfold Reader.entries
    rw [List.map_nil, separated, List.nil_append, Reader.outcome_bind_ok (hasEntry_end closing true place), full]
    rfl
  | @next _ _ _ _ key text entries found new reads others =>
    obtain ⟨named, begun⟩ := hasEntry_first space (key, text)
      ((entries.map (fieldText gap)).flatMap (',' :: ·) ++ tail) place
    obtain ⟨middle, filled⟩ := outcome_field begun found new reads fuel
    have fits : entries.length < fuel := by
      rw [List.length_cons] at enough
      omega
    obtain ⟨reached, rest⟩ := others.outcome_more space closing fits middle
    refine ⟨reached, ?_⟩
    rw [List.map_cons, separated, List.append_assoc, filled, rest]

/-- A record is read back from the texts of its fields, in whatever order they
fill its draft. How each field is read is left to the layout. -/
theorem reads_record {gap closingGap : List Char} (space : ∀ c ∈ gap, Cursor.isSpace c = true)
    (closingSpace : ∀ c ∈ closingGap, Cursor.isSpace c = true) {last : Draft} {entries : List (String × List Char)}
    (fills : Fills layout layout.blank entries last) {value : α} (finished : layout.finish last = some value) :
    Reads (Reader.record layout)
      ('\x7b' :: separated (entries.map (fieldText gap)) ++ closingGap ++ ['\x7d']) value := by
  intro rest place
  have closing : solidHead? (closingGap ++ '\x7d' :: rest) = some '\x7d' := by
    rw [solidHead?_gap closingSpace, solidHead?_cons rfl]
  have enough : entries.length <
      (separated (entries.map (fieldText gap)) ++ (closingGap ++ '\x7d' :: rest)).length + 1 := by
    have least := length_le_separated (entries.map (fieldText gap))
    simp only [List.length_append, List.length_cons, List.length_map] at least ⊢
    omega
  obtain ⟨middle, taken⟩ := fills.outcome_entries space closing enough (place.after '\x7b')
  obtain ⟨reached, closed⟩ := skipSpace_append closingSpace ('\x7d' :: rest) middle
  rw [closed, skipSpace_solid rfl] at taken
  refine ⟨reached.after '\x7d', ?_⟩
  have shape : '\x7b' :: separated (entries.map (fieldText gap)) ++ closingGap ++ ['\x7d'] ++ rest =
      '\x7b' :: (separated (entries.map (fieldText gap)) ++ (closingGap ++ '\x7d' :: rest)) := by
    simp only [List.cons_append, List.append_assoc, List.nil_append]
  unfold Reader.record
  rw [shape, Reader.outcome_peekSolid_bind]
  change Reader.outcome (Reader.step >>= fun _ => Reader.sizeLeft >>= _) _ = _
  rw [Reader.outcome_step_bind, Reader.outcome_sizeLeft_bind, skipSpace_solid rfl]
  refine (Reader.outcome_bind_ok taken).trans ?_
  simp only [Reader.finishRecord, finished]
  rfl

end Records

/-- A text that a reader takes off whole is read to its end. Nothing may stand
behind it but white space, and nothing does. -/
theorem run_of_reads {α : Type} {reader : Reader α} {text : List Char} {value : α} (reads : Reads reader text value) :
    reader.run (String.ofList text) = .ok value := by
  obtain ⟨reached, taken⟩ := reads [] {}
  rw [List.append_nil] at taken
  unfold Reader.run Cursor.ofString
  rw [String.toList_ofList]
  change Prod.fst <$> Reader.outcome (reader >>= fun value => Reader.peekSolid? >>= _) _ = _
  rw [Reader.outcome_bind_ok taken]
  rfl

end CallCapture.Json
