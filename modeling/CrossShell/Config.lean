import CrossShell.Descriptor
import CrossShell.Machine.Fault
import CrossShell.Script.Evaluation

/-!
Configs: what a user writes about an environment.

A config has the fields of a descriptor as plain texts, and may name a package set. `describe` makes
a descriptor of it. The target comes first and then the variables in order of their keys: each has
to be fit for a shell and for the function that makes shells.
-/

set_option autoImplicit false

namespace CrossShell

/-- What a user writes about an environment. -/
structure Config where
  /-- The triple of the target. -/
  target : String
  nativeBuildInputs : List String
  buildInputs : List String
  env : SortedMap String
  nixpkgs : Option String
  deriving DecidableEq

/-! ## Errors -/

/-- Why a variable cannot be set. -/
inductive KeyDefect where
  /-- The key is no name for a shell. -/
  | malformed
  /-- The key is the name of something else that a shell is made of. -/
  | reserved
  deriving DecidableEq, Repr

/-- The text of a defect. -/
def KeyDefect.message : KeyDefect → String
  | .malformed => "must match [A-Za-z_][A-Za-z0-9_]*"
  | .reserved => "clashes with a mkShell attribute"

/-- What a value of a script turned out to be. -/
inductive Found where
  | nil
  | bool (value : Bool)
  | integer (value : Int64)
  | number (value : Number.Binary64)
  | sequence
  | map

/-- The text of what a value turned out to be. -/
def Found.message : Found → String
  | .nil => "unit value"
  | .bool value => "boolean `" ++ (if value then "true" else "false") ++ "`"
  | .integer value => "integer `" ++ toString value.toInt ++ "`"
  | .number value => "floating point `" ++ Number.DecimalFormat.full.render value ++ "`"
  | .sequence => "sequence"
  | .map => "map"

/-- Why a table is no config. -/
inductive ShapeDefect where
  /-- A value stands where something else is expected. -/
  | wrongType (found : Found) (expected : String)
  /-- A value stands where a table is expected. -/
  | noTable (typeName : String)
  /-- Something stands where a value is expected that is none for configs. -/
  | unsupported (typeName : String)
  /-- The bytes of a string are no text. -/
  | notText
  /-- A table has a field that configs do not have. -/
  | unknownField (name : String)
  /-- The target is not there. -/
  | missingTarget
  /-- A table is inside itself. -/
  | recursive

/-- The fields of a config, by name. -/
def Config.fieldNames : List String :=
  ["target", "native_build_inputs", "build_inputs", "env", "nixpkgs"]

/-- The text of a defect. -/
def ShapeDefect.message : ShapeDefect → String
  | .wrongType found expected => "invalid type: " ++ found.message ++ ", expected " ++ expected
  | .noTable typeName => "invalid type: " ++ typeName ++ ", expected table"
  | .unsupported typeName => "unsupported value type `" ++ typeName ++ "`"
  | .notText => "invalid value: byte array, expected a string"
  | .unknownField name =>
    "unknown field `" ++ name ++ "`, expected one of "
      ++ ", ".intercalate (Config.fieldNames.map fun field => "`" ++ field ++ "`")
  | .missingTarget => "missing field `target`"
  | .recursive => "recursive table detected"

/-- Why there is no descriptor. -/
inductive ConfigError where
  /-- The script has no answer. -/
  | script (failure : Script.Failure)
  /-- The answer of the script is no config. -/
  | shape (defect : ShapeDefect)
  /-- The answer of the script is not even a table. -/
  | notATable (typeName : String)
  /-- The script cannot be read. -/
  | unreadable (path : String) (fault : Machine.Fault)
  | target (error : TargetError)
  | invalidKey (key : String) (defect : KeyDefect)

namespace ConfigError

/-- The text of an error. -/
def message : ConfigError → String
  | .script failure => "lua error: " ++ failure.message
  | .shape defect => "lua error: deserialize error: " ++ defect.message
  | .notATable typeName => "config must return a table, got " ++ typeName
  | .unreadable path fault => "cannot read config " ++ path ++ ": " ++ fault.message
  | .target error => error.message
  | .invalidKey key defect => "invalid env variable '" ++ key ++ "': " ++ defect.message

/-- The text of what caused an error, where something else did. -/
def cause? : ConfigError → Option String
  | .script failure => some failure.message
  | .shape defect => some ("deserialize error: " ++ defect.message)
  | .unreadable _ fault => some fault.message
  | _ => none

end ConfigError

/-! ## Validation -/

namespace Config

/-- The keys that mean something else to the function that makes shells. -/
def reservedKeys : List String :=
  ["name", "nativeBuildInputs", "buildInputs", "packages", "inputsFrom", "shellHook", "passthru",
   "meta"]

/-- Whether a text is a name for a shell. -/
def isVariableName (key : String) : Bool :=
  match key.toList with
  | [] => false
  | c :: rest => (c.isAlpha || c == '_') && rest.all fun c => c.isAlphanum || c == '_'

/-- What is wrong with a key, if anything is. -/
def keyDefect? (key : String) : Option KeyDefect :=
  if !isVariableName key then some .malformed
  else if reservedKeys.contains key then some .reserved
  else none

/-- The first key with something wrong, and what that is. -/
def badKey? (env : SortedMap String) : Option (String × KeyDefect) :=
  env.keys.findSome? fun key => (keyDefect? key).map fun defect => (key, defect)

/-- The descriptor of a config. -/
def describe (c : Config) : Except ConfigError (Descriptor × List Warning) :=
  match Target.parse c.target with
  | .error error => .error (.target error)
  | .ok target =>
    match badKey? c.env with
    | some (key, defect) => .error (.invalidKey key defect)
    | none =>
      let (d, warnings) := Descriptor.compose target
        (Dependency.listOf .nativeBuildInput c.nativeBuildInputs)
        (Dependency.listOf .buildInput c.buildInputs)
      .ok (d.withEnv c.env, warnings)

end Config

end CrossShell
