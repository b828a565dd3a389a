namespace CallCapture.Yaml

/-- A place in a document, by the bytes in front of it, the lines in front of
it, and the characters in front of it on its line. -/
structure Mark where
  index : Nat := 0
  line : Nat := 0
  column : Nat := 0
  deriving DecidableEq, Inhabited

/-- What a node can have wrong with it: another type than is wanted, or a key
that its mapping already had. -/
inductive Problem where
  | wrongType (got wanted : String)
  | duplicateField (name : String)
  deriving DecidableEq, Inhabited

/-- The wording of a problem, without the node and its place. Both texts it
names are given to it as they are. -/
def Problem.message : Problem → String
  | wrongType got wanted => "invalid type: " ++ got ++ ", expected " ++ wanted
  | duplicateField name => "duplicate field `" ++ name ++ "`"

/-- Either the document cannot be read at all, of which no more is said,
or a node of it is not what the preferences need. The path leads from the
root to that node. -/
inductive Fault where
  | malformed
  | misfit (problem : Problem) (path : List String) (mark : Mark)
  deriving DecidableEq, Inhabited

/-- The node's path in front, if it is not the root, and its place
behind, if it is not the start. A document that cannot be read has no
wording of its own. -/
def Fault.message? : Fault → Option String
  | malformed => none
  | misfit problem path mark =>
    let front := if path.isEmpty then "" else ".".intercalate path ++ ": "
    let back :=
      if mark.line = 0 ∧ mark.column = 0 then ""
      else " at line " ++ toString (mark.line + 1) ++ " column " ++ toString (mark.column + 1)
    some (front ++ problem.message ++ back)

end CallCapture.Yaml
