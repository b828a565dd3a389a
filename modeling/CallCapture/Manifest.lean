import CallCapture.Directive

namespace CallCapture

/-- What is kept on disk for an artifact: every signature emitted for it and
the line of each, in the same order. The lines are for a toolchain that does
not know signatures. -/
structure Manifest where
  artifact : String
  signatures : List Signature
  directives : List String
  deriving DecidableEq, Inhabited

/-- The manifest of some directives. Both of its lists are made from them, so
they agree in length and order. -/
def Manifest.ofDirectives (artifact : String) (directives : List Directive) : Manifest where
  artifact := artifact
  signatures := directives.map Directive.signature
  directives := directives.map Directive.render

/-- What a manifest's file name adds to the artifact's name. Two artifacts
have the same file only if they have the same name. -/
def manifestSuffix : String := ".directives.json"

/-- The file of an artifact's manifest, to be found directly in the directory
of the manifests as long as the artifact's name has no slash. -/
def manifestFileName (artifact : String) : String := artifact ++ manifestSuffix

end CallCapture
