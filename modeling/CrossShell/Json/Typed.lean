import CrossShell.Json.Skip
import CrossShell.SortedMap

/-!
Reading JSON as values of given types.

There is one reader per shape: a text, a truth value, an optional value, a list, a map, a word of a
fixed set, and a record. A record is an object whose other fields are passed over, or a list of its
fields in order. Whatever stands in the place of another shape is read far enough to be named.
-/

set_option autoImplicit false

namespace CrossShell.Json.Reader

variable {α : Type}

/-! ## Scalars -/

/-- Refuses a value that starts with `c` for its type. -/
def wrongType (c : Char) (expected : String) : Reader α :=
  let found : Reader Found :=
    if c = 'n' then do advance; word ['u', 'l', 'l']; return .null
    else if c = 't' then do advance; word ['r', 'u', 'e']; return .bool true
    else if c = 'f' then do advance; word ['a', 'l', 's', 'e']; return .bool false
    else if c = '-' then do advance; number true
    else if c.isDigit then number false
    else if c = '"' then do advance; return .string (← stringBody)
    else if c = '[' then return .sequence
    else if c = '\x7b' then return .map
    else failPeek .expectedValue
  placed do
    reject (.invalidType (← found) expected)

/-- A text, where `expected` is wanted. -/
def textAs (expected : String) : Reader String := do
  match ← peek with
  | none => failPeek .endInValue
  | some c =>
    if c = '"' then
      advance
      stringBody
    else wrongType c expected

/-- A text. -/
def text : Reader String :=
  textAs "a string"

/-- A truth value. -/
def bool : Reader Bool := do
  match ← peek with
  | none => failPeek .endInValue
  | some c =>
    if c = 't' then do advance; word ['r', 'u', 'e']; return true
    else if c = 'f' then do advance; word ['a', 'l', 's', 'e']; return false
    else wrongType c "a boolean"

/-- Nothing, written as null. -/
def unit : Reader Unit := do
  match ← peek with
  | none => failPeek .endInValue
  | some c =>
    if c = 'n' then do advance; word ['u', 'l', 'l']
    else wrongType c "unit"

/-- A value, or null. -/
def optional (value : Reader α) : Reader (Option α) := do
  match ← peek with
  | some 'n' => do advance; word ['u', 'l', 'l']; return none
  | _ => return some (← value)

/-! ## Lists and maps -/

/-- The items of a list up to its bracket; `fuel` bounds their number. -/
def items (item : Reader α) : Nat → Bool → Reader (List α)
  | 0, _ => return []
  | fuel + 1, first => do
    if ← nextItem first then
      let a ← item
      return a :: (← items item fuel false)
    else return []

/-- A list. No list has more items than its text has characters. -/
def list (item : Reader α) : Reader (List α) := do
  match ← peek with
  | none => failPeek .endInValue
  | some c =>
    if c = '[' then
      advance
      enclosed (fun s => items item (s.length + 1) true s) closeList
    else wrongType c "a sequence"

/-- The entries of a map up to its brace, written over those read before. -/
def entries (value : Reader α) : Nat → Bool → SortedMap α → Reader (SortedMap α)
  | 0, _, m => return m
  | fuel + 1, first, m => do
    match ← nextKey first with
    | none => return m
    | some key =>
      colon
      let a ← value
      entries value fuel false (m.insert key a)

/-- A map. Of entries with one key the last one counts. -/
def map (value : Reader α) : Reader (SortedMap α) := do
  match ← peek with
  | none => failPeek .endInValue
  | some c =>
    if c = '\x7b' then
      advance
      enclosed (fun s => entries value (s.length + 1) true SortedMap.empty s) closeObject
    else wrongType c "a map"

/-! ## Words -/

/-- The value of a word, which a string writes. -/
def variantName (known : List (String × α)) : Reader α :=
  placed do
    let name ← textAs "variant identifier"
    match known.lookup name with
    | some a => return a
    | none => reject (.unknownVariant name (known.map Prod.fst))

/-- One of the known words: a string, or an object with the word as its key and null in it. -/
def variant (known : List (String × α)) : Reader α := do
  match ← peek with
  | none => failPeek .endInValue
  | some c =>
    if c = '"' then variantName known
    else if c = '\x7b' then
      advance
      match ← peek with
      | none => failPeek .endInObject
      | some d => if d ≠ '"' then failPeek .keyNotString
      let a ← variantName known
      colon
      unit
      match ← peek with
      | none => fail .endInObject
      | some d => if d = '\x7d' then do advance; return a else fail .expectedValue
    else failPeek .expectedValue

/-! ## Records -/

/-- How the fields of a record are gathered. `σ` is what was read of them so far. -/
structure Fields (σ : Type) where
  /-- The reader of a field's value, if the record has that field. One read before is refused. -/
  field? : String → σ → Option (Reader σ)
  /-- What is known before any field was read. -/
  start : σ

/-- The fields of an object up to its brace. -/
def fieldsFrom {σ : Type} (fields : Fields σ) : Nat → Bool → σ → Reader σ
  | 0, _, state => return state
  | fuel + 1, first, state => do
    match ← nextKey first with
    | none => return state
    | some key =>
      match fields.field? key state with
      | some readField =>
        let state' ← readField
        fieldsFrom fields fuel false state'
      | none =>
        colon
        skipValue
        fieldsFrom fields fuel false state

/-- A record: an object with its fields, finished by `finish`, or a list read by `fromList`. -/
def record {σ : Type} (expected : String) (fields : Fields σ) (finish : σ → Reader α)
    (fromList : Reader α) : Reader α := do
  match ← peek with
  | none => failPeek .endInValue
  | some c =>
    if c = '[' then
      advance
      enclosed fromList closeList
    else if c = '\x7b' then
      advance
      enclosed (do
        let state ← fun s => fieldsFrom fields (s.length + 1) true fields.start s
        finish state) closeObject
    else wrongType c expected

/-- The value of a field that was not read before. -/
def fresh {σ β : Type} (name : String) (old : Option β) (value : Reader β) (store : β → σ) :
    Reader σ := do
  if old.isSome then reject (.duplicateField name)
  colon
  return store (← value)

/-- A field that has to be there. -/
def need (name : String) : Option α → Reader α
  | some a => return a
  | none => reject (.missingField name)

/-- The item of a list that stands for a record, at an index, if the list goes on. -/
def itemAt? (index : Nat) (value : Reader α) : Reader (Option α) := do
  if ← nextItem (index == 0) then return some (← value) else return none

/-- The item of a list that stands for a record, at an index, where it has to be. -/
def itemAt (index : Nat) (expected : String) (value : Reader α) : Reader α := do
  match ← itemAt? index value with
  | some a => return a
  | none => reject (.invalidLength index expected)

end CrossShell.Json.Reader
