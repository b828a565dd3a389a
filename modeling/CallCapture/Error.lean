import CallCapture.Json.Fault
import CallCapture.Preferences
import CallCapture.Signature
import CallCapture.Text.Quoted
import CallCapture.Yaml.Fault

namespace CallCapture

/-- Why a set of directives was not emitted: the name of the artifact is at
fault, or the sink has a reason of its own. -/
inductive EmissionFault where
  | emptyArtifact
  | pathArtifact
  | rejected (message : String)
  deriving DecidableEq, Inhabited

/-- The wording of the fault behind the name of the artifact. What a sink says
is taken over as it is. -/
def EmissionFault.message : EmissionFault → String
  | emptyArtifact => "artifact identifier is empty"
  | pathArtifact => "artifact identifier must not be a path"
  | rejected message => message

/-- Why a file operation failed. These are the faults that a tree of
files without links and permissions can have, and the one of reading
bytes that are no text. -/
inductive FileFault where
  | notFound
  | alreadyExists
  | notDirectory
  | isDirectory
  | nameTooLong
  | nulInName
  | notText
  deriving DecidableEq, Inhabited

/-- The wording that the operating system has for the fault, with its number
where the system has noticed it. -/
def FileFault.message : FileFault → String
  | notFound => "No such file or directory (os error 2)"
  | alreadyExists => "File exists (os error 17)"
  | notDirectory => "Not a directory (os error 20)"
  | isDirectory => "Is a directory (os error 21)"
  | nameTooLong => "File name too long (os error 36)"
  | nulInName => "file name contained an unexpected NUL byte"
  | notText => "stream did not contain valid UTF-8"

/-- Where in the preferences the fault is. A unit without a name can only be
placed among the units. -/
def NameFault.path : NameFault → String
  | empty => "units"
  | surroundingBlanks name => "units." ++ name

/-- What is wrong with the name of the unit at this place. Where the unit
stands is said by the error that the fault is part of. -/
def NameFault.message : NameFault → String
  | empty => "Unit name must not be empty"
  | surroundingBlanks _ => "Unit name has surrounding whitespace"

/-- Everything that can go wrong while gating, capturing or emitting, by
cause. An error holds what its wording needs and no more. -/
inductive Error where
  | unrecognizedPhase (name : String)
  | phaseNotSet (name : String)
  | reentrancy (unit : String)
  | emission (artifact : String) (fault : EmissionFault)
  | unitName (fault : NameFault)
  | noMatchingMethod (signature : Signature)
  | workload (message : String)
  | file (fault : FileFault)
  | document (fault : Yaml.Fault)
  | json (fault : Json.Fault)
  deriving DecidableEq, Inhabited

namespace Error

/-- The family an error belongs to. Whoever handles errors tells them apart by
this, not by their wording. -/
def kind : Error → String
  | unrecognizedPhase _ | phaseNotSet _ => "GateMisconfiguration"
  | reentrancy _ => "ReentrancyViolation"
  | emission .. => "EmissionFailed"
  | unitName _ => "PreferenceError"
  | noMatchingMethod _ => "NoMatchingMethod"
  | workload _ => "WorkloadError"
  | file _ => "IoError"
  | document _ => "YamlError"
  | json _ => "JsonError"

/-- The wording, which a document that cannot be read at all does not have.
Names stand in it as they are, but for a phase, which is quoted. -/
def message? : Error → Option String
  | unrecognizedPhase name => some ("Gate misconfiguration: unrecognized phase " ++ quoted name)
  | phaseNotSet name => some ("Gate misconfiguration: " ++ name ++ " is not set")
  | reentrancy unit =>
    some ("Reentrancy violation: capture for unit " ++ unit ++
      " attempted while a scope is armed on another thread")
  | emission artifact fault =>
    some ("Emission failed for artifact " ++ artifact ++ ": " ++ fault.message)
  | unitName fault => some ("Preference error at " ++ fault.path ++ ": " ++ fault.message)
  | noMatchingMethod signature => some ("No method matching " ++ signature.display)
  | workload message => some ("Workload error: " ++ message)
  | file fault => some ("IO error: " ++ fault.message)
  | document fault => fault.message?.map ("YAML error: " ++ ·)
  | json fault => some ("JSON error: " ++ fault.message)

/-- The wording as it stands inside another message, where a document without
one is only named as such. -/
def text (error : Error) : String := error.message?.getD "YAML error"

end Error

end CallCapture
