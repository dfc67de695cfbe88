import CrossShell.Dependency
import CrossShell.Digest
import CrossShell.Target

/-!
Descriptors: what an environment is made of.

A descriptor is a target, the packages that run on the building machine, the packages for the target
and variables of the user's own. `compose` makes one and puts every package into the role of the
list that it stands in; what looks like a mistake is answered as a list of warnings. `shellEnv` are
the variables that a shell gets, `digest` names a descriptor by its content.
-/

set_option autoImplicit false

namespace CrossShell

/-- What an environment is made of. -/
structure Descriptor where
  target : Target
  nativeBuildInputs : List Dependency
  buildInputs : List Dependency
  /-- The variables that the user sets. -/
  env : SortedMap String
  deriving DecidableEq

/-- Something in a descriptor's making that looks like a mistake. -/
inductive Warning where
  /-- No package runs on the building machine. -/
  | noNativeInputs (target : Target)
  /-- A package stands in the list of another role than its own. -/
  | roleDiffers (name : String) (declared placed : Role)
  /-- A package stands in one list for a second time. -/
  | repeated (name : String) (role : Role)
  deriving DecidableEq

namespace Warning

/-- The text of a warning. -/
def message : Warning → String
  | .noNativeInputs _ => "no native build inputs declared; the shell will have no cross toolchain"
  | .roleDiffers _ _ _ => "dependency role differs from its list"
  | .repeated _ _ => "dependency listed more than once"

/-- What a warning is about. -/
def fields : Warning → List (String × String)
  | .noNativeInputs target => [("target", target.triple)]
  | .roleDiffers name declared placed =>
    [("name", name), ("declared", declared.name), ("placed", placed.name)]
  | .repeated name role => [("name", name), ("role", role.name)]

end Warning

namespace Descriptor

/-! ## Making a descriptor -/

/-- The warnings about one dependency in the list of a role, after the names in `seen`. -/
def warningsFor (role : Role) (seen : List String) (d : Dependency) : List Warning :=
  (if d.role = role then [] else [.roleDiffers d.name d.role role])
    ++ if d.name ∈ seen then [.repeated d.name role] else []

/-- The warnings about the list of a role, element by element, after the names in `seen`. -/
def listWarnings (role : Role) (seen : List String) : List Dependency → List Warning
  | [] => []
  | d :: rest => warningsFor role seen d ++ listWarnings role (d.name :: seen) rest

/-- The warnings about two lists of dependencies. -/
def warnings (target : Target) (natives builds : List Dependency) : List Warning :=
  (if natives.isEmpty then [.noNativeInputs target] else [])
    ++ listWarnings .nativeBuildInput [] natives ++ listWarnings .buildInput [] builds

/-- The descriptor of a target and two lists. Every dependency gets the role of its list. -/
def compose (target : Target) (natives builds : List Dependency) : Descriptor × List Warning :=
  (⟨target, natives.map (Dependency.inRole .nativeBuildInput),
      builds.map (Dependency.inRole .buildInput), SortedMap.empty⟩,
    warnings target natives builds)

/-- The descriptor of a target's triple and two lists of names. -/
def composeTriple (triple : String) (natives builds : List String) :
    Except TargetError (Descriptor × List Warning) := do
  let target ← Target.parse triple
  return compose target (Dependency.listOf .nativeBuildInput natives)
    (Dependency.listOf .buildInput builds)

/-- The descriptor with other variables of the user's. -/
def withEnv (d : Descriptor) (env : SortedMap String) : Descriptor :=
  { d with env := env }

/-! ## Packages -/

/-- Every dependency, those of the building machine first. -/
def dependencies (d : Descriptor) : List Dependency :=
  d.nativeBuildInputs ++ d.buildInputs

/-- The names of the packages, each where it comes first. -/
def packageNames (d : Descriptor) : List String :=
  (d.dependencies.map (·.name)).eraseDups

/-! ## Variables -/

/-- Whether the target is another machine than the host. An unknown host is another machine. -/
def isCross (d : Descriptor) (host : Option Platform) : Bool :=
  match host with
  | none => true
  | some p => !d.target.isNative p

/-- The variable that names the linker for a target to Cargo. -/
def linkerVariable (t : Target) : String :=
  "CARGO_TARGET_"
    ++ String.ofList (t.rustTriple.toList.map fun c => if c = '-' then '_' else c.toUpper)
    ++ "_LINKER"

/-- The variables that tell build tools of the target. -/
def ownVariables (d : Descriptor) (host : Option Platform) : SortedMap String :=
  let always := SortedMap.ofList
    [("CROSSENV_TARGET", d.target.triple), ("CARGO_BUILD_TARGET", d.target.rustTriple)]
  if d.isCross host then
    always.insertAll
      [("PKG_CONFIG_ALLOW_CROSS", "1"), (linkerVariable d.target, d.target.toolPrefix ++ "cc")]
  else always

/-- The variables of a shell. The user's own win. -/
def shellEnv (d : Descriptor) (host : Option Platform) : SortedMap String :=
  (d.ownVariables host).insertAll d.env.entries

/-! ## JSON and digest -/

/-- Variables as JSON. -/
def envJson (env : SortedMap String) : Json :=
  .object (env.entries.map fun (key, value) => (key, .string value))

/-- The descriptor as JSON. No variables are no field. -/
def toJson (d : Descriptor) : Json :=
  .object
    ([("target", d.target.toJson),
      ("native_build_inputs", .array (d.nativeBuildInputs.map Dependency.toJson)),
      ("build_inputs", .array (d.buildInputs.map Dependency.toJson))]
      ++ if d.env.isEmpty then [] else [("env", envJson d.env)])

/-- The digest of the descriptor's compact JSON. -/
def digest (d : Descriptor) : Digest :=
  Digest.ofText d.toJson.compact

/-- The fields of a descriptor that were read so far. -/
structure Draft where
  target : Option Target
  nativeBuildInputs : Option (List Dependency)
  buildInputs : Option (List Dependency)
  env : Option (SortedMap String)

/-- A list of dependencies in JSON. -/
def dependencyList : Json.Reader (List Dependency) :=
  Json.Reader.list Dependency.reader

/-- Variables in JSON. -/
def envReader : Json.Reader (SortedMap String) :=
  Json.Reader.map Json.Reader.text

/-- How the fields of a descriptor are gathered. -/
def fields : Json.Reader.Fields Draft where
  start := ⟨none, none, none, none⟩
  field? := fun key draft =>
    if key = "target" then
      some (Json.Reader.fresh key draft.target Target.reader
        fun target => { draft with target := some target })
    else if key = "native_build_inputs" then
      some (Json.Reader.fresh key draft.nativeBuildInputs dependencyList
        fun natives => { draft with nativeBuildInputs := some natives })
    else if key = "build_inputs" then
      some (Json.Reader.fresh key draft.buildInputs dependencyList
        fun builds => { draft with buildInputs := some builds })
    else if key = "env" then
      some (Json.Reader.fresh key draft.env envReader
        fun env => { draft with env := some env })
    else none

/-- A descriptor from its gathered fields. -/
def finish (draft : Draft) : Json.Reader Descriptor := do
  let target ← Json.Reader.need "target" draft.target
  let natives ← Json.Reader.need "native_build_inputs" draft.nativeBuildInputs
  let builds ← Json.Reader.need "build_inputs" draft.buildInputs
  return ⟨target, natives, builds, draft.env.getD SortedMap.empty⟩

/-- A descriptor from the list of its fields. -/
def fromList : Json.Reader Descriptor := do
  let whole := "struct EnvironmentDescriptor with 4 elements"
  let target ← Json.Reader.itemAt 0 whole Target.reader
  let natives ← Json.Reader.itemAt 1 whole dependencyList
  let builds ← Json.Reader.itemAt 2 whole dependencyList
  let env ← Json.Reader.itemAt? 3 envReader
  return ⟨target, natives, builds, env.getD SortedMap.empty⟩

/-- A descriptor in JSON. -/
def reader : Json.Reader Descriptor :=
  Json.Reader.record "struct EnvironmentDescriptor" fields finish fromList

end Descriptor

end CrossShell
