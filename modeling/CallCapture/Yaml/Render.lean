import CallCapture.Preferences
import CallCapture.Yaml.Cursor
import CallCapture.Yaml.Token
import CallCapture.Yaml.Untagged

namespace CallCapture.Yaml

/-- The characters that can be seen, and a new line. All others are escaped. A
name with one of the others can only stand in double quotes. -/
def isVisible (c : Char) : Bool :=
  let n := c.toNat
  n == 0xa || (0x20 ≤ n && n ≤ 0x7e) || (0xa0 ≤ n && n ≤ 0xd7ff) ||
    (0xe000 ≤ n && n ≤ 0xfffd && n != 0xfeff) || 0x10000 ≤ n

namespace Name

/-- The characters that a plain scalar cannot start with. Further on in a
scalar most of them are characters like others. -/
def isLeadingIndicator (c : Char) : Bool :=
  ['#', ',', '[', ']', '\x7b', '\x7d', '&', '*', '!', '|', '>', '\'', '"', '%', '@', '`'].contains c

/-- The end, a gap or a NUL follows. A NUL counts because the writer looks at
a text as if one ended it. -/
def endsWord (text : List Char) : Bool := text.head?.all fun c => isGap c || c == '\x00'

/-- A colon that would be taken for the end of a key, or a hash for the
start of a comment. -/
def hasInnerIndicator : (afterGap : Bool) → List Char → Bool
  | _, [] => false
  | afterGap, c :: rest =>
    (c == ':' && endsWord rest) || (c == '#' && afterGap) || hasInnerIndicator (isGap c || c == '\x00') rest

/-- The text would be taken for something else than a scalar if it stood
plain. -/
def hasIndicator (text : List Char) : Bool :=
  match text with
  | [] => false
  | c :: rest =>
    ['-', '-', '-'].isPrefixOf text || ['.', '.', '.'].isPrefixOf text || isLeadingIndicator c ||
      ((c == '?' || c == ':' || c == '-') && endsWord rest) ||
      hasInnerIndicator (isGap c || c == '\x00') rest

/-- A character of one kind is followed at once by one of another kind. The
two characters may be of both kinds. -/
def hasAdjacent (p q : Char → Bool) : List Char → Bool
  | [] => false
  | c :: rest => (p c && rest.head?.any q) || hasAdjacent p q rest

/-- A space in front of a line break. A reader may drop such a space, so a
text with one is written with escapes. -/
def hasSpaceBreak (text : List Char) : Bool := hasAdjacent (· == ' ') isBreak text

/-- A space behind a line break. It would be taken for indentation if the
text stood plain. -/
def hasBreakSpace (text : List Char) : Bool := hasAdjacent isBreak (· == ' ') text

/-- The text has a line break in it. Such a text cannot stand in
front of a colon. -/
def isMultiline (text : List Char) : Bool := text.any isBreak

/-- The text can be written only with escapes. No other style has escapes, so
it has to stand in double quotes. -/
def needsEscapes (text : List Char) : Bool := hasSpaceBreak text || text.any (!isVisible ·)

/-- A text with a new line in it is a literal block, any other one is plain,
if it can be read back from that; else it is in single quotes, and in double
quotes if all else fails. -/
def style (name : String) : Style :=
  let text := name.toList
  if needsEscapes text then .double
  else if text.contains '\n' then .literal
  else if Untagged.isAmbiguous name || hasIndicator text || isMultiline text then
    if hasBreakSpace text then .double else .single
  else .plain

/-- A key that stands in front of its colon on one line. The length is that of
the text, not of what its escapes make of it. -/
def isSimple (name : String) : Bool := !isMultiline name.toList && name.utf8ByteSize ≤ 128

/-- The blanks in front of a line. Tabs are never part of it. -/
def indentation (n : Nat) : List Char := List.replicate n ' '

/-- A text in single quotes; in it a quote is doubled, and a line break is
followed by the indentation. -/
def single (indent : Nat) : (afterBreak : Bool) → List Char → List Char
  | afterBreak, [] => if afterBreak then indentation indent else []
  | afterBreak, c :: rest =>
    if isBreak c then c :: single indent true rest
    else
      (if afterBreak then indentation indent else []) ++
        (if c = '\'' then ['\'', '\''] else [c]) ++ single indent false rest

/-- A number in capital hexadecimal digits, with zeros in front up to the
width. -/
def upperHex (width n : Nat) : List Char :=
  let digits := (Nat.toDigits 16 n).map Char.toUpper
  List.replicate (width - digits.length) '0' ++ digits

/-- A character by its number, in the shortest of the three
widths that holds it. -/
def numericEscape (n : Nat) : List Char :=
  if n ≤ 0xff then 'x' :: upperHex 2 n
  else if n ≤ 0xffff then 'u' :: upperHex 4 n
  else 'U' :: upperHex 8 n

/-- What stands behind the backslash for a character: a letter of its
own, or its number. -/
def escape (c : Char) : List Char :=
  match c with
  | '\x00' => ['0']
  | '\x07' => ['a']
  | '\x08' => ['b']
  | '\t' => ['t']
  | '\n' => ['n']
  | '\x0b' => ['v']
  | '\x0c' => ['f']
  | '\r' => ['r']
  | '\x1b' => ['e']
  | '"' => ['"']
  | '\\' => ['\\']
  | _ =>
    if c = nextLine then ['N']
    else if c = lineSeparator then ['L']
    else if c = paragraphSeparator then ['P']
    else numericEscape c.toNat

/-- A text in double quotes. Characters that cannot be seen are escaped, and
so are breaks, quotes and backslashes. -/
def double (text : List Char) : List Char :=
  text.flatMap fun c =>
    if !isVisible c || isBreak c || c == '"' || c == '\\' then '\\' :: escape c else [c]

/-- The lines of a literal block, each behind its indentation
unless it is empty. -/
def block (indent : Nat) : (afterBreak : Bool) → List Char → List Char
  | _, [] => []
  | afterBreak, c :: rest =>
    if isBreak c then c :: block indent true rest
    else (if afterBreak then indentation indent else []) ++ c :: block indent false rest

/-- A name as a key of a mapping that is indented by two less than
`indent`. The style decides on what is around the text and on how
the text is written. -/
def render (indent : Nat) (name : String) : List Char :=
  match style name with
  | .single => '\'' :: single indent false name.toList ++ ['\'']
  | .double => '"' :: double name.toList ++ ['"']
  | .literal => ['|', '-', '\n'] ++ block indent true name.toList
  | _ => name.toList

end Name

namespace Render

/-- The words for the two truth values. Of the spellings that are read these
are the ones that are written. -/
def boolText (b : Bool) : List Char := (if b then "true" else "false").toList

/-- A unit with its setting. A name that does not fit in front of a colon
stands on a line of its own behind a question mark. -/
def unit (name : String) (skip : Bool) : List Char :=
  let setting := "skip_capture: ".toList ++ boolText skip ++ ['\n']
  if Name.isSimple name then "  ".toList ++ Name.render 4 name ++ ":\n    ".toList ++ setting
  else "  ? ".toList ++ Name.render 4 name ++ "\n  : ".toList ++ setting

/-- The units in the order of the preferences. No units are an empty mapping
in brackets, as nothing would be no value. -/
def units (settings : List (String × Bool)) : List Char :=
  if settings = [] then "units: \x7b\x7d\n".toList
  else "units:\n".toList ++ settings.flatMap fun setting => unit setting.1 setting.2

end Render

/-- The document that preferences are saved as: blocks of indented lines, with
quotes only where a name would not be read back without. -/
def render (preferences : Preferences) : String :=
  String.ofList <|
    "force_run: ".toList ++ Render.boolText preferences.forceRun ++ "\nverbose: ".toList ++
      Render.boolText preferences.verbose ++ ['\n'] ++ Render.units preferences.units

end CallCapture.Yaml
