import CrossShell.SortedMap
import CrossShell.Text.Hex

/-!
JSON values and their two texts.

`compact` writes a value without blanks, `pretty` writes one member a line. A string escapes the
quote, the backslash and the controls below the space, and shows every other character as itself.
No document of this library holds a number, so the values have none.
-/

set_option autoImplicit false

namespace CrossShell

/-- A JSON value. The fields of an object keep their order. -/
inductive Json where
  | null
  | bool (value : Bool)
  | string (text : String)
  | array (items : List Json)
  | object (fields : List (String × Json))

namespace Json

/-! ## Strings -/

/-- How a character stands in a JSON string. -/
def escapeChar (c : Char) : List Char :=
  if c = '"' then ['\\', '"']
  else if c = '\\' then ['\\', '\\']
  else if c = '\x08' then ['\\', 'b']
  else if c = '\x0c' then ['\\', 'f']
  else if c = '\n' then ['\\', 'n']
  else if c = '\r' then ['\\', 'r']
  else if c = '\t' then ['\\', 't']
  else if c.toNat < 0x20 then ['\\', 'u', '0', '0'] ++ Text.hexPair c.toNat
  else [c]

/-- A text as a JSON string. -/
def quote (text : List Char) : List Char :=
  '"' :: text.flatMap escapeChar ++ ['"']

/-! ## The compact text -/

mutual

/-- The compact text of a value. -/
def compactChars : Json → List Char
  | .null => ['n', 'u', 'l', 'l']
  | .bool true => ['t', 'r', 'u', 'e']
  | .bool false => ['f', 'a', 'l', 's', 'e']
  | .string text => quote text.toList
  | .array items => '[' :: compactItems items ++ [']']
  | .object fields => '\x7b' :: compactFields fields ++ ['\x7d']
  termination_by structural value => value

/-- The items of an array, with commas between them. -/
def compactItems : List Json → List Char
  | [] => []
  | item :: rest => compactChars item ++ compactMoreItems rest
  termination_by structural items => items

/-- The items of an array after the first one. -/
def compactMoreItems : List Json → List Char
  | [] => []
  | item :: rest => ',' :: compactChars item ++ compactMoreItems rest
  termination_by structural items => items

/-- The fields of an object, with commas between them. -/
def compactFields : List (String × Json) → List Char
  | [] => []
  | field :: rest => compactField field ++ compactMoreFields rest
  termination_by structural fields => fields

/-- The fields of an object after the first one. -/
def compactMoreFields : List (String × Json) → List Char
  | [] => []
  | field :: rest => ',' :: compactField field ++ compactMoreFields rest
  termination_by structural fields => fields

/-- One field of an object. -/
def compactField : String × Json → List Char
  | (key, value) => quote key.toList ++ ':' :: compactChars value
  termination_by structural field => field

end

/-- The compact text of a value. -/
def compact (value : Json) : String :=
  String.ofList value.compactChars

/-! ## The indented text -/

/-- The start of a line at a depth of nesting. -/
def newline (depth : Nat) : List Char :=
  '\n' :: List.replicate (2 * depth) ' '

mutual

/-- The indented text of a value at a depth of nesting. -/
def prettyChars (depth : Nat) : Json → List Char
  | .null => ['n', 'u', 'l', 'l']
  | .bool true => ['t', 'r', 'u', 'e']
  | .bool false => ['f', 'a', 'l', 's', 'e']
  | .string text => quote text.toList
  | .array [] => ['[', ']']
  | .array (item :: rest) =>
    '[' :: newline (depth + 1) ++ prettyChars (depth + 1) item ++ prettyItems (depth + 1) rest
      ++ newline depth ++ [']']
  | .object [] => ['\x7b', '\x7d']
  | .object (field :: rest) =>
    '\x7b' :: newline (depth + 1) ++ prettyField (depth + 1) field ++ prettyFields (depth + 1) rest
      ++ newline depth ++ ['\x7d']
  termination_by structural value => value

/-- The items of an array after the first one, a line each. -/
def prettyItems (depth : Nat) : List Json → List Char
  | [] => []
  | item :: rest =>
    ',' :: newline depth ++ prettyChars depth item ++ prettyItems depth rest
  termination_by structural items => items

/-- The fields of an object after the first one, a line each. -/
def prettyFields (depth : Nat) : List (String × Json) → List Char
  | [] => []
  | field :: rest =>
    ',' :: newline depth ++ prettyField depth field ++ prettyFields depth rest
  termination_by structural fields => fields

/-- One field of an object. -/
def prettyField (depth : Nat) : String × Json → List Char
  | (key, value) => quote key.toList ++ ':' :: ' ' :: prettyChars depth value
  termination_by structural field => field

end

/-- The indented text of a value. -/
def pretty (value : Json) : String :=
  String.ofList (prettyChars 0 value)

/-! ## Order of fields -/

mutual

/-- The value with the fields of every object in ascending order of their keys. -/
def sortFields : Json → Json
  | .array items => .array (sortItems items)
  | .object fields => .object (SortedMap.ofList (sortEach fields)).entries
  | value => value
  termination_by structural value => value

/-- The items with their fields in order. -/
def sortItems : List Json → List Json
  | [] => []
  | item :: rest => sortFields item :: sortItems rest
  termination_by structural items => items

/-- The fields with the fields of their values in order. -/
def sortEach : List (String × Json) → List (String × Json)
  | [] => []
  | field :: rest => sortField field :: sortEach rest
  termination_by structural fields => fields

/-- One field with the fields of its value in order. -/
def sortField : String × Json → String × Json
  | (key, value) => (key, sortFields value)
  termination_by structural field => field

end

end Json

end CrossShell
