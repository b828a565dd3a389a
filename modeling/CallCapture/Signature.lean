namespace CallCapture

/-- One specialisation of a routine: its name and the types bound at
the call, in call order. Two calls are the same for a capture if
their signatures are. -/
structure Signature where
  routine : String
  argTypes : List String
  deriving DecidableEq, Inhabited

/-- The items with a comma and a blank between each two; nothing
stands for no items. -/
def commaSeparated (items : List String) : String := ", ".intercalate items

/-- The text `routine(T1, T2)`, as logs and messages show a call. Nothing is
escaped, so the name of a routine may hold brackets and commas of its own. -/
def Signature.display (signature : Signature) : String :=
  signature.routine ++ "(" ++ commaSeparated signature.argTypes ++ ")"

/-- The pattern that stands for every type. It is no type of a value, so no
call has it in its signature. -/
def anyType : String := "Any"

end CallCapture
