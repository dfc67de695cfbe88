import CrossShell.Script.Token
import CrossShell.Script.Tree

/-!
The state of reading a script: the tokens that are left, and what is under way.

Two things are limited. Statements and expressions can only be so deep inside each other; a script
that goes deeper fails as if it had run. And the values of which an expression is made up are kept
in places, of which there are not many. Every local variable has a place; the others are taken when
a value is needed and given back after its use. A script that needs more places is malformed.
-/

set_option autoImplicit false

namespace CrossShell.Script

/-- Why a script has no answer. -/
inductive Failure where
  /-- The text is no script, or none that is described. -/
  | malformed
  /-- The script failed. -/
  | failed
  /-- The script ended the program that runs it, with an exit code. -/
  | exited (code : Nat)
  /-- The script did something that is not described. -/
  | beyond
  deriving DecidableEq, Repr

/-- The text of a failure. -/
def Failure.message : Failure → String
  | .malformed => "syntax error"
  | .failed => "runtime error"
  | .exited code => "exit with " ++ toString code
  | .beyond => "not described"

/-- What is left of a script and what is under way. -/
structure Reading where
  tokens : List Token
  /-- How many statements and expressions are open. -/
  depth : Nat
  /-- How many places are in use. -/
  places : Nat
  /-- The local variables, innermost first. -/
  locals : List String

/-- A part of the reading of a script. -/
abbrev Parser (α : Type) : Type :=
  StateT Reading (Except Failure) α

namespace Parser

/-- Gives up, since the text is no script. -/
def refuse {α : Type} : Parser α :=
  throw .malformed

/-! ## Tokens -/

/-- The next token. -/
def peek : Parser (Option Token) := do
  return (← get).tokens.head?

/-- Takes the next token. The one after it has to be a token too. -/
def advance : Parser Unit := do
  modify fun r => { r with tokens := r.tokens.tail }
  if (← peek) = some .bad then refuse

/-- Takes the next token if it is a given one, and says whether it is. -/
def accept (t : Token) : Parser Bool := do
  if (← peek) = some t then
    advance
    return true
  else return false

/-- Takes the next token, which has to be a given one. -/
def expect (t : Token) : Parser Unit := do
  if !(← accept t) then refuse

/-- Takes a name. -/
def anyName : Parser String := do
  match ← peek with
  | some (.name text) => do
    advance
    return text
  | _ => refuse

/-! ## Depth -/

/-- At this depth a script fails. -/
def depthLimit : Nat := 200

/-- Reads something that is inside what is open. -/
def nested {α : Type} (p : Parser α) : Parser α := do
  let depth := (← get).depth
  if depthLimit ≤ depth + 1 then throw .failed
  modify fun r => { r with depth := depth + 1 }
  let a ← p
  modify fun r => { r with depth := depth }
  return a

/-! ## Places -/

/-- So many places are too many. -/
def placeLimit : Nat := 255

/-- Takes places. -/
def take (count : Nat) : Parser Unit := do
  let places := (← get).places + count
  if placeLimit ≤ places then refuse
  modify fun r => { r with places := places }

/-- Gives places back. -/
def release (count : Nat) : Parser Unit :=
  modify fun r => { r with places := r.places - count }

/-- Gives back all but a number of places. -/
def keep (count : Nat) : Parser Unit :=
  modify fun r => { r with places := count }

end Parser

/-! ## Operands -/

/-- How a value that was read is kept until its use. -/
inductive Holding where
  /-- It is a literal, which needs no place. -/
  | literal
  /-- It is in the place of a local variable. -/
  | named
  /-- It is in a place of its own. -/
  | place
  /-- It has still to be fetched, by means of what is in so many places. -/
  | fetch (count : Nat)
  /-- It is the first result of a call, in a place of its own. -/
  | call
  /-- It is the result of an operation that has still to be given a place. -/
  | operation
  /-- It is the outcome of a comparison. -/
  | outcome
  deriving DecidableEq, Repr

/-- How many places a value takes as it is kept. -/
def Holding.places : Holding → Nat
  | .place | .call => 1
  | .fetch count => count
  | _ => 0

/-- An expression that was read, with its value as it is kept. -/
structure Operand where
  expr : Expr
  holding : Holding

namespace Parser

/-- Fetches a value. -/
def fetch (h : Holding) : Parser Holding := do
  match h with
  | .fetch count => do
    release count
    return .operation
  | .call => return .place
  | h => return h

/-- Puts a value into the next place. -/
def toNext (h : Holding) : Parser Unit := do
  let h ← fetch h
  release h.places
  take 1

/-- Puts a value into a place, if it is in none. -/
def toPlace (h : Holding) : Parser Holding := do
  match ← fetch h with
  | .named => return .named
  | .place => return .place
  | _ => do
    take 1
    return .place

/-- Puts a value into a place, if it is in none and is no literal. -/
def toOperand (h : Holding) : Parser Holding := do
  match h with
  | .literal => return .literal
  | h => toPlace h

/-- Puts a value into a place and takes it out again. -/
def spend (h : Holding) : Parser Unit := do
  release (← toPlace h).places

/-- Uses a value as a condition. A literal that equals `passing` as a condition is not looked at. -/
def test (passing : Bool) (e : Operand) : Parser Unit := do
  match ← fetch e.holding with
  | .outcome => return
  | .literal => if e.expr.isFalse = passing then spend .literal
  | h => spend h

end Parser

end CrossShell.Script
