/-!
The two kinds of lexeme that a shell expression gets from its descriptor: identifiers and quoted
strings of the Nix language.
-/

set_option autoImplicit false

namespace CrossShell.Nix

/-! ## Identifiers -/

/-- The words that look like identifiers and are none. -/
def keywords : List String :=
  ["if", "then", "else", "assert", "with", "let", "in", "rec", "inherit", "or"]

/-- Whether an identifier can start with a character. -/
def startsIdentifier (c : Char) : Bool :=
  c.isAlpha || c == '_'

/-- Whether an identifier can go on with a character. -/
def continuesIdentifier (c : Char) : Bool :=
  c.isAlphanum || c == '_' || c == '-' || c == '\''

/-- Whether a text can stand as an identifier. -/
def isIdentifier (name : String) : Bool :=
  match name.toList with
  | [] => false
  | c :: rest => startsIdentifier c && rest.all continuesIdentifier && !keywords.contains name

/-! ## Strings -/

/-- How a character stands between the quotes of a string, apart from the dollar sign. -/
def escapeChar (c : Char) : List Char :=
  if c = '"' then ['\\', '"']
  else if c = '\\' then ['\\', '\\']
  else if c = '\n' then ['\\', 'n']
  else if c = '\t' then ['\\', 't']
  else if c = '\r' then ['\\', 'r']
  else [c]

/-- What stands between the quotes of a string. A dollar sign is escaped where the next character
would make it the start of an interpolation. -/
def escape : List Char → List Char
  | [] => []
  | c :: rest =>
    (if c = '$' ∧ rest.head? = some '\x7b' then ['\\', '$'] else escapeChar c) ++ escape rest

/-- A text as a string literal. -/
def quote (value : String) : String :=
  String.ofList ('"' :: escape value.toList ++ ['"'])

end CrossShell.Nix
