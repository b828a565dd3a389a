import CallCapture.Signature

namespace CallCapture

/-- The instruction to compile one exact specialisation ahead of time. It is
the signature of a call and nothing beside it. -/
structure Directive where
  signature : Signature
  deriving DecidableEq, Inhabited

/-- The line that a toolchain is given: the routine, and the types in brackets
of their own. Nothing in the names is escaped. -/
def Directive.render (directive : Directive) : String :=
  "precompile(" ++ directive.signature.routine ++ ", (" ++
    commaSeparated directive.signature.argTypes ++ "))"

end CallCapture
