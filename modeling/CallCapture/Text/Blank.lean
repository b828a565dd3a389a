namespace CallCapture

/-- The characters with Unicode's property `White_Space`. Names of units,
phases and artifacts are trimmed and found blank by this property, not by what
a document takes for space. -/
def isBlank (c : Char) : Bool :=
  let n := c.toNat
  (0x9 ≤ n && n ≤ 0xd) || n == 0x20 || n == 0x85 || n == 0xa0 || n == 0x1680 ||
    (0x2000 ≤ n && n ≤ 0x200a) || n == 0x2028 || n == 0x2029 || n == 0x202f || n == 0x205f ||
    n == 0x3000

/-- A text without the blanks at its two ends; those between other characters
stay. A text of nothing but blanks becomes empty. -/
def trimBlanks (text : List Char) : List Char :=
  ((text.dropWhile isBlank).reverse.dropWhile isBlank).reverse

/-- Trimming takes nothing away, because there is no blank at either end. The
name of a unit has to be such a text. -/
def IsTrimmed (text : List Char) : Prop := trimBlanks text = text

instance (text : List Char) : Decidable (IsTrimmed text) :=
  inferInstanceAs (Decidable (trimBlanks text = text))

/-- Nothing but blanks, or nothing at all. Preferences of such a text are the
defaults, and no artifact may have such a name. -/
def isBlankText (text : List Char) : Bool := text.all isBlank

end CallCapture
