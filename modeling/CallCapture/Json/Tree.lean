import CallCapture.Json.Text

namespace CallCapture.Json

/-- A value to be written; the entries of an object keep their order. Only
what the kept types need is in it. -/
inductive Tree where
  | text (s : String)
  | list (items : List Tree)
  | object (entries : List (String × Tree))
  deriving Inhabited

namespace Tree

mutual

/-- A tree on one line. Nothing stands in it that a reader would pass over. -/
def compact : Tree → List Char
  | text s => literal s
  | list items => '[' :: compactItems items ++ [']']
  | object entries => '\x7b' :: compactEntries entries ++ ['\x7d']

/-- The items of a list on one line, with a comma between each two. None
follows the last item, as it would be a fault to a reader. -/
def compactItems : List Tree → List Char
  | [] => []
  | [item] => compact item
  | item :: items => compact item ++ ',' :: compactItems items

/-- The entries of an object on one line, with a comma between each two. The
entries keep the order in which they are given. -/
def compactEntries : List (String × Tree) → List Char
  | [] => []
  | [(key, value)] => literal key ++ ':' :: compact value
  | (key, value) :: entries => literal key ++ ':' :: compact value ++ ',' :: compactEntries entries

end

/-- A new line at the given level. Each level is two blanks further in than
the one around it. -/
def lineBreak (level : Nat) : List Char := '\n' :: List.replicate (2 * level) ' '

mutual

/-- A tree with a line for each item and each entry, indented by two for each
level. Lists and objects without content stay closed up. -/
def pretty (level : Nat) : Tree → List Char
  | text s => literal s
  | list [] => ['[', ']']
  | list (item :: items) => '[' :: prettyItems (level + 1) (item :: items) ++ lineBreak level ++ [']']
  | object [] => ['\x7b', '\x7d']
  | object (entry :: entries) =>
    '\x7b' :: prettyEntries (level + 1) (entry :: entries) ++ lineBreak level ++ ['\x7d']

/-- The items of a list, each on a line of its own. A comma stays on the line
of the item in front of it. -/
def prettyItems (level : Nat) : List Tree → List Char
  | [] => []
  | [item] => lineBreak level ++ pretty level item
  | item :: items => lineBreak level ++ pretty level item ++ ',' :: prettyItems level items

/-- The entries of an object, each on a line of its own, with a blank
behind the colon. -/
def prettyEntries (level : Nat) : List (String × Tree) → List Char
  | [] => []
  | [(key, value)] => lineBreak level ++ literal key ++ ':' :: ' ' :: pretty level value
  | (key, value) :: entries =>
    lineBreak level ++ literal key ++ ':' :: ' ' :: pretty level value ++ ',' :: prettyEntries level entries

end

end Tree

end CallCapture.Json
