import CrossShell.Script.Table

/-!
The memory of a running script: its tables, by address, and its variables.

Global variables are the fields of a table.
-/

set_option autoImplicit false

namespace CrossShell.Script

/-- The memory of a running script. -/
structure Store where
  tables : Array Table
  /-- The address of the table of global variables. -/
  globals : Nat
  /-- The local variables, innermost first. -/
  locals : List (String × Value)
  /-- How many functions the script has written so far. -/
  functions : Nat
  /-- How many files the script has opened so far. -/
  opened : Nat

namespace Store

/-! ## Tables -/

/-- The table at an address. -/
def tableAt (s : Store) (address : Nat) : Table :=
  s.tables.getD address .empty

/-- The store with another table at an address. -/
def setTable (s : Store) (address : Nat) (t : Table) : Store :=
  { s with tables := s.tables.setIfInBounds address t }

/-- The store with one more table, and its address. -/
def newTable (s : Store) (t : Table) : Nat × Store :=
  (s.tables.size, { s with tables := s.tables.push t })

/-! ## Variables -/

/-- The store with another value for a global variable. -/
def setGlobal (s : Store) (name : String) (v : Value) : Store :=
  s.setTable s.globals ((s.tableAt s.globals).setField name v)

/-- The value of a variable. One that was never set is nil. -/
def valueOf (s : Store) (name : String) : Value :=
  match s.locals.lookup name with
  | some v => v
  | none => (s.tableAt s.globals).get (.ofText name)

/-- A list of variables with another value for the first one of a name. -/
def update (name : String) (v : Value) : List (String × Value) → List (String × Value)
  | [] => []
  | entry :: rest => if entry.1 = name then (name, v) :: rest else entry :: update name v rest

/-- The store with another value for a variable. One that is not local is global. -/
def setVariable (s : Store) (name : String) (v : Value) : Store :=
  if (s.locals.lookup name).isSome then { s with locals := update name v s.locals }
  else s.setGlobal name v

end Store

end CrossShell.Script
