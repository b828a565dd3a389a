namespace CallCapture

/-- How many bytes a text has, which is what limits its length: a character
counts as many as its encoding takes. -/
def byteLength : List Char → Nat
  | [] => 0
  | c :: rest => c.utf8Size + byteLength rest

/-- Bytes are counted character by character, so the parts of a text can
be counted apart. -/
theorem byteLength_append (text other : List Char) :
    byteLength (text ++ other) = byteLength text + byteLength other := by
  induction text with
  | nil => simp only [List.nil_append, byteLength, Nat.zero_add]
  | cons c text ih => simp only [List.cons_append, byteLength, ih, Nat.add_assoc]

end CallCapture
