import CrossShell.Text.Hex
import CrossShell.Text.Hidden

/-!
A text quoted for a message.

The quotes are double; a quote, a backslash and the usual controls are escaped, and a hidden
character is shown by its code point, so that every message stays on one line and shows what it
holds.
-/

set_option autoImplicit false

namespace CrossShell.Text

/-- How a quoted text shows one character. -/
def showChar (c : Char) : List Char :=
  if c = '\x00' then ['\\', '0']
  else if c = '\t' then ['\\', 't']
  else if c = '\r' then ['\\', 'r']
  else if c = '\n' then ['\\', 'n']
  else if c = '\\' ∨ c = '"' then ['\\', c]
  else if isHidden c then ['\\', 'u', '\x7b'] ++ hex c.toNat ++ ['\x7d']
  else [c]

/-- The text between double quotes. -/
def quoted (text : String) : String :=
  String.ofList ('"' :: text.toList.flatMap showChar ++ ['"'])

end CrossShell.Text
