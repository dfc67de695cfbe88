import CrossShell.Machine
import CrossShell.Number.Decimal
import CrossShell.Script.Grammar
import CrossShell.Script.Library

/-!
What config scripts do.

An expression has a list of results, which is one value for all but calls; where a single value is
wanted, it is the first result or nil. Evaluation follows the syntax tree. A script works on its own
memory and on the machine, and what it did to the machine before it failed stays done.

Scripts have more to them than is described here: other constructs, which `Grammar` refuses, and a
library of which most is `beyond`. So whoever runs scripts does so by means of an `Interpreter`, of
which nothing is known, and what holds of every interpreter holds of every script. `interpreter` is
the one for what is described.
-/

set_option autoImplicit false

namespace CrossShell.Script

open Machine (Action Fault)

/-- A part of a script's run. It fails if the script does. -/
abbrev Run (α : Type) : Type :=
  StateT Store (Action Failure) α

/-! ## Tables as they are written -/

/-- What a table is written with: values under keys, and items, which get the next numbers. Only the
last item may be several values. -/
abbrev Contents : Type :=
  List (Option Value × List Value)

namespace Table

/-- Puts contents into a table into which `start` items were put, when `waiting` are gathered. -/
def fill (t : Table) (start : Nat) (waiting : List Value) : Contents → Table
  | [] => t.storeItems start waiting
  | (key, values) :: rest =>
    let isFull := waiting.length = itemBatch
    let t := if isFull then t.storeItems start waiting else t
    let start := if isFull then start + itemBatch else start
    let waiting := if isFull then [] else waiting
    match key with
    | some key => fill (t.set key (values.headD .nil)) start waiting rest
    | none => fill t start (waiting ++ values) rest

/-- The table of some contents. It starts with slots for `count` items and with nodes for all keys.
-/
def ofContents (count : Nat) (contents : Contents) : Table :=
  fill (empty.resize count (contents.countP fun entry => entry.1.isSome)) 0 [] contents

end Table

namespace Run

/-- The script fails. -/
def fail {α : Type} : Run α :=
  throw .failed

/-- The first of the results. -/
def first (r : Run (List Value)) : Run Value := do
  return (← r).headD .nil

/-! ## Values -/

/-- What a value holds under a key. The fields of a string are those of all strings. What an open
file has for fields is not described. -/
def index (whole key : Value) : Run Value := do
  match whole with
  | .table address => do
    let t := (← get).tableAt address
    modify fun s => s.setTable address (t.touch key)
    return t.get key
  | .string _ => return ((← get).tableAt Library.stringFields).get key
  | .file _ => throw .beyond
  | _ => fail

/-- Puts a value under a key of a table. -/
def assignIndex (whole key value : Value) : Run Unit := do
  match whole with
  | .table address =>
    if key = .nil then fail
    else modify fun s => s.setTable address ((s.tableAt address).set key value)
  | _ => fail

/-- The length of a table. -/
def lengthAt (address : Nat) : Run Nat := do
  let t := (← get).tableAt address
  modify fun s => s.setTable address t.measured
  return t.length

/-- The bytes that a value has as part of a longer text. -/
def textOf? : Value → Option (List UInt8)
  | .string bytes => some bytes
  | .integer n => some (Literal.bytesOf (toString n.toInt).toList)
  | .number x => some (Literal.bytesOf (Number.DecimalFormat.brief.render x).toList)
  | _ => none

/-- The number that the bytes of a string write. -/
def numeralOf? (bytes : List UInt8) : Option Numeral :=
  Numeral.ofText? (bytes.map fun b => Char.ofNat b.toNat)

/-- The integer that a value is, or writes. -/
def integerOf? : Value → Option Int64
  | .integer n => some n
  | .number x => Value.integerOf? x
  | .string bytes =>
    match numeralOf? bytes with
    | some (.integer n) => some n
    | some (.number x) => Value.integerOf? x
    | none => none
  | _ => none

/-! ## Calls -/

/-- The bytes that are shown of a value. What is known by its place in memory is not described. -/
def shownAs? : Value → Option (List UInt8)
  | .nil => some (Literal.bytesOf "nil".toList)
  | .bool value => some (Literal.bytesOf (toString value).toList)
  | v => textOf? v

/-- Prints a line that shows values. -/
def printLine (vs : List Value) : Run Unit :=
  match vs.mapM shownAs? with
  | some shown =>
    let bytes := (Literal.bytesOf ['\t']).intercalate shown ++ Literal.bytesOf ['\n']
    liftM (Machine.print bytes : Action Failure Unit)
  | none => throw .beyond

/-- The exit code that the arguments of a call for the program's end stand for. -/
def exitCode? : List Value → Option Nat
  | [] | .nil :: _ => some 0
  | .bool success :: _ => some (if success then 0 else 1)
  | v :: _ => (integerOf? v).map fun n => (n.toInt % 256).toNat

/-- What an action on the machine answers, or why it was refused. -/
def attempt {α : Type} (action : Action Fault α) : Run (Except Fault α) := fun s m =>
  match action m with
  | .ok a m' => .ok (.ok a, s) m'
  | .error fault m' => .ok (.error fault, s) m'

/-- Opens a file for writing, which makes or empties it. A refusal is answered with its reason. -/
def openFile (path : String) : Run (List Value) := do
  match ← attempt (Machine.writeText path "") with
  | .ok () => modifyGet fun s => ([.file s.opened], { s with opened := s.opened + 1 })
  | .error fault =>
    match fault.description with
    | (text, some number) =>
      return [.nil, .ofText (path ++ ": " ++ text), .integer (Int64.ofNat number)]
    | (_, none) => throw .beyond

/-- What a call results in. -/
def apply (callee : Value) (arguments : List Value) : Run (List Value) := do
  match callee, arguments with
  | .function .insert, [.table address, value] =>
    let length ← lengthAt address
    assignIndex (.table address) (.integer (Int64.ofNat (length + 1))) value
    return []
  | .function (.idle _), _ => return []
  | .function .print, vs =>
    printLine vs
    return []
  | .function .exit, vs =>
    match exitCode? vs with
    | some code => throw (.exited code)
    | none => fail
  | .function .openFile, [.string path, .string mode] =>
    match Text.decode? (ByteArray.mk path.toArray) with
    | some path =>
      if mode = Literal.bytesOf ['w'] ∧ !Machine.hasNul path then openFile path
      else throw .beyond
    | none => throw .beyond
  | .function .insert, [.table _, _, _] | .function .openFile, _ | .function (.library _), _ =>
    throw .beyond
  | _, _ => fail

/-! ## Operators -/

/-- What an operator before one operand results in. -/
def unary (op : Unary) (v : Value) : Run Value := do
  match op, v with
  | .not, v => return .bool (!v.isTrue)
  | .minus, .integer n => return .integer (-n)
  | .minus, .number x => return .number x.neg
  | .minus, .string bytes =>
    match numeralOf? bytes with
    | some (.integer n) => return .integer (-n)
    | some (.number x) => return .number x.neg
    | none => fail
  | .length, .string bytes => return .integer (Int64.ofNat bytes.length)
  | .length, .table address => return .integer (Int64.ofNat (← lengthAt address))
  | _, _ => fail

/-- What an operator results in that takes the values of both operands. -/
def binary (op : Binary) (left right : Value) : Run Value := do
  match op with
  | .equal => return .bool (left.same right)
  | .notEqual => return .bool (!left.same right)
  | .and => return if left.isTrue then right else left
  | .or => return if left.isTrue then left else right
  | .concat =>
    match textOf? left, textOf? right with
    | some a, some b => return .string (a ++ b)
    | _, _ => fail

/-- Whether an operator is decided by its left operand alone. -/
def isDecided : Binary → Value → Bool
  | .and, left => !left.isTrue
  | .or, left => left.isTrue
  | _, _ => false

/-! ## Expressions -/

/-- How many items a table is known to have before it is filled. A call at the end does not count,
since it may have any number of results. -/
def itemCount : List (Option Expr × Expr) → Nat
  | [] => 0
  | [(none, .call _ _)] => 0
  | (key, _) :: rest => (if key.isNone then 1 else 0) + itemCount rest

mutual

/-- The results of an expression. -/
def results : Expr → Run (List Value)
  | .nil => return [.nil]
  | .bool value => return [.bool value]
  | .integer value => return [.integer value]
  | .number value => return [.number value]
  | .string bytes => return [.string bytes]
  | .name text => return [(← get).valueOf text]
  | .index whole key => do
    let whole ← first (results whole)
    let key ← first (results key)
    return [← index whole key]
  | .call callee arguments => do
    let callee ← first (results callee)
    let arguments ← values arguments
    apply callee arguments
  | .group inner => return [← first (results inner)]
  | .function => modifyGet fun s =>
    ([.function (.idle s.functions)], { s with functions := s.functions + 1 })
  | .table entries => do
    let t := Table.ofContents (itemCount entries) (← contents entries)
    return [← modifyGet fun s =>
      let (address, s) := s.newTable t
      (.table address, s)]
  | .unary op operand => return [← unary op (← first (results operand))]
  | .binary op left right => do
    let left ← first (results left)
    if isDecided op left then return [left]
    else return [← binary op left (← first (results right))]
  termination_by structural e => e

/-- The values of a list of expressions: one for each, and all results of the last. -/
def values : List Expr → Run (List Value)
  | [] => return []
  | e :: rest => do
    let own ← results e
    if rest.isEmpty then return own
    else return own.headD .nil :: (← values rest)
  termination_by structural es => es

/-- The contents of a table. A last item has all its results. -/
def contents : List (Option Expr × Expr) → Run Contents
  | [] => return []
  | entry :: rest => do
    let (key, own) ← entryValue entry
    let own := if rest.isEmpty then own else [own.headD .nil]
    return (key, own) :: (← contents rest)
  termination_by structural entries => entries

/-- The key of an entry, if it has one, and the results of its value. -/
def entryValue : Option Expr × Expr → Run (Option Value × List Value)
  | (key, e) => do
    let key ← keyValue key
    return (key, ← results e)
  termination_by structural entry => entry

/-- The value of a key, which must not be nil. -/
def keyValue : Option Expr → Run (Option Value)
  | none => return none
  | some e => do
    let key ← first (results e)
    if key = .nil then fail else return some key
  termination_by structural key => key

end

/-! ## Statements -/

/-- Runs a block and forgets the variables that it declared. -/
def inScope {α : Type} (r : Run α) : Run α := do
  let depth := (← get).locals.length
  let a ← r
  modify fun s => { s with locals := s.locals.drop (s.locals.length - depth) }
  return a

/-- Declares variables. A variable without a value is nil. -/
def declare (names : List String) (vs : List Value) : Run Unit :=
  let entries := names.zipIdx.map fun (name, i) => (name, vs.getD i .nil)
  modify fun s => { s with locals := entries.reverse ++ s.locals }

/-- Assigns to a variable, or under a key. -/
def assign (place : Place) (e : Expr) : Run Unit := do
  match place with
  | .name text =>
    let value ← first (results e)
    modify fun s => s.setVariable text value
  | .index whole key =>
    let whole ← first (results whole)
    let key ← first (results key)
    let value ← first (results e)
    assignIndex whole key value

mutual

/-- Runs a statement, which may answer for the script. -/
def statement : Statement → Run (Option (List Value))
  | .declare names es => do
    declare names (← values es)
    return none
  | .assign place e => do
    assign place e
    return none
  | .perform callee arguments => do
    let callee ← first (results callee)
    let _ ← apply callee (← values arguments)
    return none
  | .branch condition yes no => do
    let c ← first (results condition)
    if c.isTrue then inScope (block yes) else inScope (block no)
  | .answer es => return some (← values es)
  termination_by structural s => s

/-- Runs statements until one of them answers. -/
def block : List Statement → Run (Option (List Value))
  | [] => return none
  | s :: rest => do
    match ← statement s with
    | some answer => return some answer
    | none => block rest
  termination_by structural ss => ss

end

end Run

/-! ## Scripts -/

/-- The first value that a script answers, and the store then. -/
def evaluate (source : String) (s : Store) : Action Failure (Value × Store) := do
  let statements ← Machine.answer (program source.toList)
  let (answer, s) ← Run.block statements s
  return ((answer.getD []).headD .nil, s)

/-- What runs scripts. A script has a name and starts with a store; what it comes to is as in
`evaluate`. It may do anything to the machine, but it comes to an end, and does the same whenever it
is run on the same machine. -/
abbrev Interpreter : Type :=
  String → String → Store → Action Failure (Value × Store)

/-- The interpreter for what is described of scripts. A script's name changes nothing there. -/
def interpreter : Interpreter :=
  fun _ source s => evaluate source s

end CrossShell.Script
