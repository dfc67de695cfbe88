import CrossShell.Number.Binary64
import CrossShell.Script.Literal

/-!
The values of config scripts.

Tables have an identity, so a value holds only the address of a table. Functions are known by what
they do, or by their name, and open files by the order in which they were opened.
-/

set_option autoImplicit false

namespace CrossShell.Script

open Number (Binary64)

/-- A function of the language. -/
inductive Function where
  /-- Puts a value at the end of a table. -/
  | insert
  /-- Ends the script with an error. -/
  | raise
  /-- Prints its arguments. -/
  | print
  /-- Ends the program that runs the script. -/
  | exit
  /-- Opens a file. -/
  | openFile
  /-- A function that the script wrote, which does nothing; each time it is written it is another
  function. -/
  | idle (serial : Nat)
  /-- Another function of the standard library. It can be named and compared. -/
  | library (name : String)
  deriving DecidableEq, Repr

/-- A value. -/
inductive Value where
  | nil
  | bool (value : Bool)
  | integer (value : Int64)
  | number (value : Binary64)
  | string (bytes : List UInt8)
  | table (address : Nat)
  | function (value : Function)
  /-- An open file. -/
  | file (serial : Nat)
  deriving DecidableEq

namespace Value

/-- A text as a value. -/
def ofText (text : String) : Value :=
  .string (Literal.bytesOf text.toList)

/-- The name of a value's type. -/
def typeName : Value → String
  | .nil => "nil"
  | .bool _ => "boolean"
  | .integer _ => "integer"
  | .number _ => "number"
  | .string _ => "string"
  | .table _ => "table"
  | .function _ => "function"
  | .file _ => "userdata"

/-- Whether a value counts as true. -/
def isTrue : Value → Bool
  | .nil | .bool false => false
  | _ => true

/-- The integer of 64 bits that a number is, if it is one. -/
def integerOf? (x : Binary64) : Option Int64 :=
  match x.toInt? with
  | some n =>
    if Int64.minValue.toInt ≤ n ∧ n ≤ Int64.maxValue.toInt then some (Int64.ofInt n) else none
  | none => none

/-- A value as a key. A number that is an integer is the same key as that integer. -/
def asKey : Value → Value
  | .number x =>
    match integerOf? x with
    | some n => .integer n
    | none => .number x
  | v => v

/-- Whether two values are equal. Numbers are compared by value. -/
def same : Value → Value → Bool
  | .number x, .number y => x.same y
  | .integer n, .number y => integerOf? y == some n
  | .number x, .integer n => integerOf? x == some n
  | v, w => v == w

end Value

end CrossShell.Script
