import CrossShell.Script.Literal
import CrossShell.Script.Numeral

/-!
Tokens of config scripts.

`tokens` cuts a script into names, reserved words, numerals, strings and symbols and drops blanks
and comments. A comment is two dashes and the rest of the line, or a long literal after two dashes.
What is no token ends the tokens with `Token.bad`.
-/

set_option autoImplicit false

namespace CrossShell.Script

/-- The symbols of the language. -/
inductive Symbol where
  | braceOpen
  | braceClose
  | bracketOpen
  | bracketClose
  | parenOpen
  | parenClose
  | assign
  | equal
  | notEqual
  | comma
  | semicolon
  | dot
  | concat
  | length
  | minus
  deriving DecidableEq, Repr

/-- A token. -/
inductive Token where
  | name (text : String)
  | word (text : String)
  | numeral (value : Numeral)
  | string (bytes : List UInt8)
  | symbol (value : Symbol)
  /-- The place where a script goes on with something that is no token. -/
  | bad
  deriving DecidableEq

namespace Token

/-- The reserved words. -/
def reserved : List String :=
  ["and", "break", "do", "else", "elseif", "end", "false", "for", "function", "goto", "if", "in",
   "local", "nil", "not", "or", "repeat", "return", "then", "true", "until", "while"]

/-- Whether a name can start with a character. -/
def startsName (c : Char) : Bool :=
  c.isAlpha || c == '_'

/-- Whether a name can go on with a character. -/
def continuesName (c : Char) : Bool :=
  c.isAlphanum || c == '_'

/-- A name, or a reserved word. -/
def ofWord (text : String) : Token :=
  if reserved.contains text then .word text else .name text

/-! ## One token -/

/-- A token, and the text after it. -/
abbrev Step : Type := Option (Token × List Char)

/-- The symbols that are one character and start no longer token. -/
def singleSymbols : List (Char × Symbol) :=
  [('\x7b', .braceOpen), ('\x7d', .braceClose), (']', .bracketClose), ('(', .parenOpen),
   (')', .parenClose), (',', .comma), (';', .semicolon), ('#', .length), ('-', .minus)]

/-- A numeral that a text starts with. No letter may follow it. -/
def numeralStep (parts : List Char × List Char) : Step :=
  if parts.2.head?.any startsName then none
  else (Numeral.ofChars? parts.1).map fun value => (.numeral value, parts.2)

/-- An opening square bracket, or a long literal. -/
def bracketStep (rest : List Char) : Step :=
  match Literal.opening rest with
  | some (level, rest) =>
    (Literal.long level rest).map fun (text, rest) => (.string (Literal.bytesOf text), rest)
  | none => if rest.head? = some '=' then none else some (.symbol .bracketOpen, rest)

/-- What starts with a dot. -/
def dotStep : List Char → Step
  | '.' :: '.' :: _ => none
  | '.' :: rest => some (.symbol .concat, rest)
  | c :: rest =>
    if c.isDigit then numeralStep (Numeral.span ['e', 'E'] false ('.' :: c :: rest))
    else some (.symbol .dot, c :: rest)
  | [] => some (.symbol .dot, [])

/-- What starts with an equals sign. -/
def equalsStep : List Char → Step
  | '=' :: rest => some (.symbol .equal, rest)
  | rest => some (.symbol .assign, rest)

/-- What starts with a tilde. -/
def tildeStep : List Char → Step
  | '=' :: rest => some (.symbol .notEqual, rest)
  | _ => none

/-- The token that starts with `c` and goes on in `rest`. -/
def step (c : Char) (rest : List Char) : Step :=
  if startsName c then
    let (taken, left) := (c :: rest).span continuesName
    some (ofWord (String.ofList taken), left)
  else if c.isDigit then numeralStep (Numeral.spanFirst (c :: rest))
  else if c = '"' ∨ c = '\'' then
    (Literal.short c (rest.length + 1) rest).map fun (bytes, rest) => (.string bytes, rest)
  else if c = '[' then bracketStep rest
  else if c = '.' then dotStep rest
  else if c = '=' then equalsStep rest
  else if c = '~' then tildeStep rest
  else (singleSymbols.lookup c).map fun value => (.symbol value, rest)

/-! ## Whole scripts -/

/-- The text after a comment whose dashes were read, if the comment ends. -/
def afterComment (s : List Char) : Option (List Char) :=
  let line := some (s.dropWhile (· ≠ '\n'))
  match s with
  | '[' :: rest =>
    match Literal.opening rest with
    | some (level, rest) => (Literal.long level rest).map (·.2)
    | none => line
  | _ => line

/-- The tokens of a text. The fuel bounds the number of tokens, blanks and comments. -/
def tokensFrom : Nat → List Char → List Token
  | 0, _ => [.bad]
  | _ + 1, [] => []
  | fuel + 1, c :: rest =>
    if isSpace c then tokensFrom fuel rest
    else if c = '-' ∧ rest.head? = some '-' then
      match afterComment rest.tail with
      | some rest => tokensFrom fuel rest
      | none => [.bad]
    else
      match step c rest with
      | some (token, rest) => token :: tokensFrom fuel rest
      | none => [.bad]

end Token

/-- The tokens of a script. -/
def tokens (source : List Char) : List Token :=
  let s := oneNewline source
  Token.tokensFrom (s.length + 1) s

end CrossShell.Script
