import CrossShell.Number.Binary64

/-!
The syntax trees of config scripts.

A script is a block of statements. Loops and functions with a body are not part of the language, so
every script ends.
-/

set_option autoImplicit false

namespace CrossShell.Script

/-- Operators before one operand. -/
inductive Unary where
  | minus
  | not
  | length
  deriving DecidableEq, Repr

/-- Operators between two operands. -/
inductive Binary where
  | or
  | and
  | equal
  | notEqual
  | concat
  deriving DecidableEq, Repr

/-- An expression. -/
inductive Expr where
  | nil
  | bool (value : Bool)
  | integer (value : Int64)
  | number (value : Number.Binary64)
  | string (bytes : List UInt8)
  /-- A variable. -/
  | name (text : String)
  /-- What a value holds under a key. -/
  | index (whole key : Expr)
  | call (callee : Expr) (arguments : List Expr)
  /-- An expression in parentheses, which is one value. -/
  | group (inner : Expr)
  /-- A function that does nothing. -/
  | function
  /-- A table of entries; an entry without a key gets the next number. -/
  | table (entries : List (Option Expr × Expr))
  | unary (op : Unary) (operand : Expr)
  | binary (op : Binary) (left right : Expr)

namespace Expr

/-- Whether an expression is one of the literals that count as false. -/
def isFalse : Expr → Bool
  | .nil | .bool false => true
  | _ => false

/-- Whether an expression is a literal that can be a key without being in a place: a short string or
a small number. -/
def isShortKey : Expr → Bool
  | .string bytes => bytes.length ≤ 40
  | .integer n => 0 ≤ n.toInt && n.toInt ≤ 255
  | _ => false

/-- The literal that an operator makes of a literal, if it is found before the script runs. -/
def folded? : Unary → Expr → Option Expr
  | .minus, .integer n => some (.integer (-n))
  | .minus, .number x => if x.isZero then none else some (.number x.neg)
  | .not, .nil | .not, .bool false => some (.bool true)
  | .not, .bool true | .not, .integer _ | .not, .number _ | .not, .string _ => some (.bool false)
  | _, _ => none

end Expr

/-- So many items of a table are gathered before they are put into it. -/
def itemBatch : Nat := 50

/-- What can be assigned to. -/
inductive Place where
  | name (text : String)
  | index (whole key : Expr)

/-- A statement. -/
inductive Statement where
  /-- New variables for the rest of the block. -/
  | declare (names : List String) (values : List Expr)
  | assign (place : Place) (value : Expr)
  /-- A call for what it does. -/
  | perform (callee : Expr) (arguments : List Expr)
  | branch (condition : Expr) (yes no : List Statement)
  /-- The end of the script, with its answer. -/
  | answer (values : List Expr)

end CrossShell.Script
