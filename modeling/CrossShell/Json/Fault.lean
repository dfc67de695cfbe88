import CrossShell.Number.Decimal
import CrossShell.Text.Quoted

/-!
What can be wrong with a JSON text that is read as a value of some type.

A `SyntaxFault` is a text that is no JSON; a `DataFault` is JSON of another shape than the type has.
Each fault has one text. A fault that was found while reading knows where the reading stood, as the
number of bytes that were still unread.
-/

set_option autoImplicit false

namespace CrossShell.Json

/-! ## Causes -/

/-- A text that is no JSON. -/
inductive SyntaxFault where
  | endInList
  | endInObject
  | endInString
  | endInValue
  | expectedColon
  | expectedListComma
  | expectedObjectComma
  | expectedIdent
  | expectedValue
  | invalidEscape
  | invalidNumber
  | numberOutOfRange
  | controlInString
  | keyNotString
  | loneSurrogate
  | trailingComma
  | trailingCharacters
  | brokenSurrogatePair
  deriving DecidableEq, Repr

/-- The kinds of fault that a caller may want to tell apart. -/
inductive Category where
  /-- The value has another shape. -/
  | data
  /-- The text is malformed. -/
  | malformed
  /-- The text ends too early. -/
  | truncated
  deriving DecidableEq, Repr

/-- What a value turned out to be. -/
inductive Found where
  | null
  | bool (value : Bool)
  | integer (value : Int)
  | number (value : Number.Binary64)
  | string (text : String)
  | sequence
  | map

/-- A value of another shape. -/
inductive DataFault where
  /-- The value is of another type. -/
  | invalidType (found : Found) (expected : String)
  /-- A list stands for a record and is too short. -/
  | invalidLength (length : Nat) (expected : String)
  /-- A field that has no default is not there. -/
  | missingField (name : String)
  /-- A field is there twice. -/
  | duplicateField (name : String)
  /-- A word that is none of those known. -/
  | unknownVariant (name : String) (known : List String)
  /-- A value of the right type that means nothing. -/
  | rejected (reason : String)

/-- Why a text was refused. -/
inductive Cause where
  | malformed (fault : SyntaxFault)
  | data (fault : DataFault)

/-- A refusal while reading: why, and how many bytes were unread where it counts. -/
structure Failure where
  cause : Cause
  unread : Option Nat

/-! ## Texts -/

/-- Whether the text ended too early or is malformed. -/
def SyntaxFault.category : SyntaxFault → Category
  | .endInList | .endInObject | .endInString | .endInValue => .truncated
  | _ => .malformed

/-- The text of a syntax fault. -/
def SyntaxFault.message : SyntaxFault → String
  | .endInList => "EOF while parsing a list"
  | .endInObject => "EOF while parsing an object"
  | .endInString => "EOF while parsing a string"
  | .endInValue => "EOF while parsing a value"
  | .expectedColon => "expected `:`"
  | .expectedListComma => "expected `,` or `]`"
  | .expectedObjectComma => "expected `,` or `\x7d`"
  | .expectedIdent => "expected ident"
  | .expectedValue => "expected value"
  | .invalidEscape => "invalid escape"
  | .invalidNumber => "invalid number"
  | .numberOutOfRange => "number out of range"
  | .controlInString =>
    "control character (\\u0000-\\u001F) found while parsing a string"
  | .keyNotString => "key must be a string"
  | .loneSurrogate => "lone leading surrogate in hex escape"
  | .trailingComma => "trailing comma"
  | .trailingCharacters => "trailing characters"
  | .brokenSurrogatePair => "unexpected end of hex escape"

/-- How a message names what a value turned out to be. -/
def Found.message : Found → String
  | .null => "null"
  | .bool value => "boolean `" ++ (if value then "true" else "false") ++ "`"
  | .integer value => "integer `" ++ toString value ++ "`"
  | .number value => "floating point `" ++ Number.DecimalFormat.scientific.render value ++ "`"
  | .string text => "string " ++ Text.quoted text
  | .sequence => "sequence"
  | .map => "map"

/-- The known words of a message: two with `or`, more as a list. -/
def knownWords (known : List String) : String :=
  match known with
  | [a] => "`" ++ a ++ "`"
  | [a, b] => "`" ++ a ++ "` or `" ++ b ++ "`"
  | known => "one of " ++ ", ".intercalate (known.map fun w => "`" ++ w ++ "`")

/-- The text of a data fault. -/
def DataFault.message : DataFault → String
  | .invalidType found expected => "invalid type: " ++ found.message ++ ", expected " ++ expected
  | .invalidLength length expected =>
    "invalid length " ++ toString length ++ ", expected " ++ expected
  | .missingField name => "missing field `" ++ name ++ "`"
  | .duplicateField name => "duplicate field `" ++ name ++ "`"
  | .unknownVariant name known =>
    "unknown variant `" ++ name ++ "`, expected " ++ knownWords known
  | .rejected reason => reason

/-- The text of a cause. -/
def Cause.message : Cause → String
  | .malformed fault => fault.message
  | .data fault => fault.message

/-- The kind of a cause. -/
def Cause.category : Cause → Category
  | .malformed fault => fault.category
  | .data _ => .data

/-! ## Errors with a position -/

/-- A place in a text: a line, counted from one, and the bytes of it that were read. -/
structure Position where
  line : Nat
  column : Nat
  deriving DecidableEq, Repr

/-- The place after the first `count` bytes of a text. -/
def Position.after (count : Nat) (text : String) : Position :=
  let read := text.toUTF8.toList.take count
  let lastLine := read.reverse.takeWhile (· ≠ 10)
  ⟨1 + read.countP (· = 10), lastLine.length⟩

/-- A refused text. Some refusals concern the text as a whole and have no place. -/
structure ReadError where
  cause : Cause
  position : Option Position

/-- The text of a refusal without its place. -/
def ReadError.reason (e : ReadError) : String :=
  e.cause.message

/-- The text of a refusal. -/
def ReadError.message (e : ReadError) : String :=
  match e.position with
  | none => e.reason
  | some p => e.reason ++ " at line " ++ toString p.line ++ " column " ++ toString p.column

end CrossShell.Json
