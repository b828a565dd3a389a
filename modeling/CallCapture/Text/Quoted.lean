import CallCapture.Text.Unprintable

namespace CallCapture

/-- The digits of `n` in the given base, the letters among them in lower case
and without zeros in front, as an escape shows the number of a character. -/
def lowerDigits (base n : Nat) : List Char := Nat.toDigits base n

/-- How one character stands in a quoted text: line breaks, tabs, the NUL,
quotes and backslashes have short escapes, whatever else cannot be seen is
given by its number, and all others stand for themselves. -/
def quotedChar (c : Char) : List Char :=
  if c = '"' then ['\\', '"']
  else if c = '\\' then ['\\', '\\']
  else if c = '\n' then ['\\', 'n']
  else if c = '\r' then ['\\', 'r']
  else if c = '\t' then ['\\', 't']
  else if c = '\x00' then ['\\', '0']
  else if isUnprintable c then '\\' :: 'u' :: '\x7b' :: lowerDigits 16 c.toNat ++ ['\x7d']
  else [c]

/-- A text between double quotes in which every character can be seen, as
messages show names. A single quote stands for itself. -/
def quoted (text : String) : String :=
  String.ofList ('"' :: text.toList.flatMap quotedChar ++ ['"'])

end CallCapture
