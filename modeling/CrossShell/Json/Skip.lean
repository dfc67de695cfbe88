import CrossShell.Json.Number

/-!
Passing over a JSON value of any shape and depth.

The brackets that are open are kept in a list, so nesting costs no recursion. Only the form of the
value is checked.
-/

set_option autoImplicit false

namespace CrossShell.Json.Reader

/-- What an open bracket holds. -/
inductive Bracket where
  | list
  | object
  deriving DecidableEq, Repr

/-- The character that closes a bracket. -/
def Bracket.closing : Bracket → Char
  | .list => ']'
  | .object => '\x7d'

/-- The fault of a text that ends inside a bracket. -/
def Bracket.endFault : Bracket → SyntaxFault
  | .list => .endInList
  | .object => .endInObject

/-- The fault of a member without a comma after it. -/
def Bracket.commaFault : Bracket → SyntaxFault
  | .list => .expectedListComma
  | .object => .expectedObjectComma

/-- Passes over a value that is no list and no object. -/
def skipScalar (c : Char) : Reader Unit :=
  if c = 'n' then do advance; word ['u', 'l', 'l']
  else if c = 't' then do advance; word ['r', 'u', 'e']
  else if c = 'f' then do advance; word ['a', 'l', 's', 'e']
  else if c = '-' then do advance; skipNumber
  else if c.isDigit then skipNumber
  else if c = '"' then do advance; skipStringBody
  else failPeek .expectedValue

/-- Passes over the key of a field and its colon. -/
def skipKey : Reader Unit := do
  match ← peek with
  | none => failPeek .endInObject
  | some c => if c = '"' then advance else failPeek .keyNotString
  skipStringBody
  colon

mutual

/-- Passes over a value that starts here, and over what the open brackets still hold. -/
def skipFrom : Nat → List Bracket → Reader Unit
  | 0, _ => fail .endInValue
  | fuel + 1, stack => do
    match ← peek with
    | none => failPeek .endInValue
    | some c =>
      if c = '[' then
        advance
        skipRest fuel false (.list :: stack)
      else if c = '\x7b' then
        advance
        skipRest fuel false (.object :: stack)
      else
        skipScalar c
        skipRest fuel true stack

/-- Passes over what the open brackets still hold, after a bracket was opened or a value ended. -/
def skipRest : Nat → Bool → List Bracket → Reader Unit
  | _, _, [] => return ()
  | 0, _, _ => fail .endInValue
  | fuel + 1, afterValue, bracket :: stack => do
    match ← peek with
    | none => failPeek bracket.endFault
    | some c =>
      if c = ',' ∧ afterValue then
        advance
        skipMember fuel bracket stack
      else if c = bracket.closing then
        advance
        skipRest fuel true stack
      else if afterValue then failPeek bracket.commaFault
      else skipMember fuel bracket stack

/-- Passes over one member of the innermost bracket, and over what is open after it. -/
def skipMember : Nat → Bracket → List Bracket → Reader Unit
  | 0, _, _ => fail .endInValue
  | fuel + 1, .list, stack => skipFrom fuel (.list :: stack)
  | fuel + 1, .object, stack => do
    skipKey
    skipFrom fuel (.object :: stack)

end

/-- Passes over a value. Between two characters there are at most three steps. -/
def skipValue : Reader Unit := fun s =>
  skipFrom (3 * s.length + 3) [] s

end CrossShell.Json.Reader
