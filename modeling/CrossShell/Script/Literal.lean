import CrossShell.Text.Hex
import CrossShell.Text.Search

/-!
String literals of config scripts.

The value of a literal is a sequence of bytes. A short literal stands between two equal quotes and
has escapes; a long one stands between brackets of some level and has none. Line ends are the single
character `\n` here; `oneNewline` makes them so.
-/

set_option autoImplicit false

namespace CrossShell.Script

/-- The text with every line end written as one character. -/
def oneNewline : List Char → List Char
  | [] => []
  | '\r' :: '\n' :: rest => '\n' :: oneNewline rest
  | '\n' :: '\r' :: rest => '\n' :: oneNewline rest
  | '\r' :: rest => '\n' :: oneNewline rest
  | c :: rest => c :: oneNewline rest

/-- The blanks of a script. -/
def isSpace (c : Char) : Bool :=
  c == ' ' || c == '\t' || c == '\n' || c == '\r' || c == '\x0b' || c == '\x0c'

namespace Literal

/-! ## Bytes -/

/-- The bytes of a text. -/
def bytesOf (s : List Char) : List UInt8 :=
  s.flatMap String.utf8EncodeChar

/-- The last bytes of an encoded number, six bits each. -/
def trailing : Nat → Nat → List UInt8
  | 0, _ => []
  | count + 1, n => trailing count (n / 64) ++ [UInt8.ofNat (0x80 + n % 64)]

/-- A number below `2 ^ 31` in the manner of UTF-8, with up to six bytes. -/
def encodeNumber (n : Nat) : List UInt8 :=
  let withLead := fun (lead count : Nat) =>
    UInt8.ofNat (lead + n / Nat.pow 64 count) :: trailing count n
  if n < 0x80 then [UInt8.ofNat n]
  else if n < 0x800 then withLead 0xC0 1
  else if n < 0x10000 then withLead 0xE0 2
  else if n < 0x200000 then withLead 0xF0 3
  else if n < 0x4000000 then withLead 0xF8 4
  else withLead 0xFC 5

/-! ## Escapes -/

/-- Whether a character is a hexadecimal digit. -/
def isHexDigit (c : Char) : Bool :=
  (Text.hexValue? c).isSome

/-- The number of a braced escape, and the text after its brace. -/
def braced (s : List Char) : Option (List UInt8 × List Char) :=
  match s.span isHexDigit with
  | (digits, '\x7d' :: rest) =>
    if digits ≠ [] ∧ Text.ofDigits 16 digits < Nat.pow 2 31 then
      some (encodeNumber (Text.ofDigits 16 digits), rest)
    else none
  | _ => none

/-- The byte that up to three decimal digits write, and the text after them. -/
def decimal (s : List Char) : Option (List UInt8 × List Char) :=
  let digits := (s.take 3).takeWhile Char.isDigit
  let value := Text.ofDigits 10 digits
  if digits ≠ [] ∧ value < 256 then some ([UInt8.ofNat value], s.drop digits.length) else none

/-- The characters that stand for one byte after a backslash, and that byte. -/
def simpleEscapes : List (Char × UInt8) :=
  [('a', 7), ('b', 8), ('t', 9), ('n', 10), ('v', 11), ('f', 12), ('r', 13), ('\n', 10),
   ('\\', 92), ('"', 34), ('\'', 39)]

/-- What an escape after its backslash stands for, and the text after it. -/
def escape : List Char → Option (List UInt8 × List Char)
  | [] => none
  | 'z' :: rest => some ([], rest.dropWhile isSpace)
  | 'x' :: a :: b :: rest =>
    if isHexDigit a ∧ isHexDigit b then some ([UInt8.ofNat (Text.ofDigits 16 [a, b])], rest)
    else none
  | 'u' :: '\x7b' :: rest => braced rest
  | c :: rest =>
    match simpleEscapes.lookup c with
    | some byte => some ([byte], rest)
    | none => decimal (c :: rest)

/-! ## Short literals -/

/-- The value of a short literal up to its closing quote, and the text after that. The fuel bounds
the number of characters and escapes. -/
def short (quote : Char) : Nat → List Char → Option (List UInt8 × List Char)
  | 0, _ => none
  | _ + 1, [] => none
  | fuel + 1, c :: rest =>
    if c = quote then some ([], rest)
    else if c = '\n' then none
    else do
      let (bytes, rest) ← if c = '\\' then escape rest else some (bytesOf [c], rest)
      let (more, rest) ← short quote fuel rest
      return (bytes ++ more, rest)

/-! ## Long literals -/

/-- The level of an opening bracket whose first character was read, and the text after it. -/
def opening (s : List Char) : Option (Nat × List Char) :=
  match s.span (· == '=') with
  | (signs, '[' :: rest) => some (signs.length, rest)
  | _ => none

/-- The closing bracket of a level. -/
def closing (level : Nat) : List Char :=
  ']' :: List.replicate level '=' ++ [']']

/-- The text of a long literal after its opening bracket, and the text after it. A line end right
after the bracket does not count. -/
def long (level : Nat) (s : List Char) : Option (List Char × List Char) :=
  Text.cut (closing level) (match s with
    | '\n' :: rest => rest
    | s => s)

end Literal

end CrossShell.Script
