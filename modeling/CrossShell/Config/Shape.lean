import CrossShell.Config
import CrossShell.Text.Utf8

/-!
Configs as tables of a script.

A config is a table with the fields of `Config.fieldNames`, of which only the target has to be
there. A list has the items from one to the length of its table; what else a table has is not looked
at. No table may be inside itself.
-/

set_option autoImplicit false

namespace CrossShell.Config

open Script (Store Table Value)

/-- What is read off a value, or why it is not what it should be. -/
abbrev Decoded (α : Type) : Type :=
  Except ShapeDefect α

/-! ## Texts -/

/-- A table where none is expected. -/
def tableFound (t : Table) : Found :=
  if 0 < t.length then .sequence else .map

/-- A text, where `expected` is expected; the bytes of a string are handed to `accept`. -/
def decodeString {α : Type} (s : Store) (expected : String) (accept : List UInt8 → Decoded α) :
    Value → Decoded α
  | .string bytes => accept bytes
  | .nil => .error (.wrongType .nil expected)
  | .bool value => .error (.wrongType (.bool value) expected)
  | .integer value => .error (.wrongType (.integer value) expected)
  | .number value => .error (.wrongType (.number value) expected)
  | .table address => .error (.wrongType (tableFound (s.tableAt address)) expected)
  | v => .error (.unsupported v.typeName)

/-- A text. -/
def decodeText (s : Store) : Value → Decoded String :=
  decodeString s "a string" fun bytes =>
    match Text.decode? (ByteArray.mk bytes.toArray) with
    | some text => .ok text
    | none => .error .notText

/-- The name of a field. Bytes that are no text make a name that no field has. -/
def decodeFieldName (s : Store) : Value → Decoded String :=
  decodeString s "field identifier" fun bytes =>
    .ok (Text.decodeLossy (ByteArray.mk bytes.toArray))

/-! ## Tables -/

/-- The table that a value is. -/
def decodeTable (s : Store) : Value → Decoded (Nat × Table)
  | .table address => .ok (address, s.tableAt address)
  | v => .error (.noTable v.typeName)

/-- Refuses a table inside itself, when it is met inside the tables of `around`. -/
def refuseRecursion (around : List Nat) (v : Value) : Decoded Unit :=
  match v with
  | .table address => if around.contains address then .error .recursive else .ok ()
  | _ => .ok ()

/-- A list of texts. -/
def decodeList (s : Store) (around : List Nat) (v : Value) : Decoded (List String) := do
  let (address, t) ← decodeTable s v
  (List.range t.length).mapM fun i => do
    let item := t.get (.integer (Int64.ofNat (i + 1)))
    refuseRecursion (address :: around) item
    decodeText s item

/-- Texts by name. -/
def decodeMap (s : Store) (around : List Nat) (v : Value) : Decoded (SortedMap String) := do
  let (address, t) ← decodeTable s v
  let entries ← t.entries.mapM fun (key, value) => do
    refuseRecursion (address :: around) key
    refuseRecursion (address :: around) value
    return (← decodeText s key, ← decodeText s value)
  return SortedMap.ofList entries

/-! ## The config -/

/-- The fields that were read so far. -/
structure Draft where
  target : Option String
  nativeBuildInputs : List String
  buildInputs : List String
  env : SortedMap String
  nixpkgs : Option String

/-- The fields before any was read. -/
def Draft.start : Draft :=
  ⟨none, [], [], SortedMap.empty, none⟩

/-- Reads one field of the table at an address. -/
def decodeField (s : Store) (address : Nat) (draft : Draft) : Value × Value → Decoded Draft
  | (key, value) => do
    refuseRecursion [address] key
    refuseRecursion [address] value
    match ← decodeFieldName s key with
    | "target" => return { draft with target := some (← decodeText s value) }
    | "native_build_inputs" =>
      return { draft with nativeBuildInputs := ← decodeList s [address] value }
    | "build_inputs" => return { draft with buildInputs := ← decodeList s [address] value }
    | "env" => return { draft with env := ← decodeMap s [address] value }
    | "nixpkgs" => return { draft with nixpkgs := some (← decodeText s value) }
    | name => throw (.unknownField name)

/-- The config that a table is. -/
def ofTable (s : Store) (address : Nat) : Decoded Config := do
  let draft ← (s.tableAt address).entries.foldlM (decodeField s address) Draft.start
  match draft.target with
  | none => throw .missingTarget
  | some target =>
    return ⟨target, draft.nativeBuildInputs, draft.buildInputs, draft.env, draft.nixpkgs⟩

end CrossShell.Config
