import CrossShell.Json.Typed
import CrossShell.Json.Value

/-!
Dependencies: the packages that an environment asks for.

A dependency is the name of a package and the role that it has. The role says whether the package
runs on the machine that builds or belongs to the machine that is built for.
-/

set_option autoImplicit false

namespace CrossShell

/-! ## Roles -/

/-- What a package is for. -/
inductive Role where
  /-- The package runs on the machine that builds. -/
  | nativeBuildInput
  /-- The package is for the target. -/
  | buildInput
  deriving DecidableEq, Repr

namespace Role

/-- Both roles. -/
def all : List Role :=
  [.nativeBuildInput, .buildInput]

theorem mem_all (r : Role) : r ∈ all := by
  cases r <;> decide

/-- The name of a role. -/
def name : Role → String
  | .nativeBuildInput => "native_build_input"
  | .buildInput => "build_input"

/-- A role in JSON. -/
def reader : Json.Reader Role :=
  Json.Reader.variant (all.map fun r => (r.name, r))

end Role

/-! ## Dependencies -/

/-- A package that an environment asks for. -/
structure Dependency where
  name : String
  role : Role
  deriving DecidableEq, Repr

namespace Dependency

/-- The dependencies that have the given names and one role. -/
def listOf (role : Role) (names : List String) : List Dependency :=
  names.map fun name => ⟨name, role⟩

/-- The dependency with another role. -/
def inRole (role : Role) (d : Dependency) : Dependency :=
  { d with role := role }

@[simp]
theorem map_name_listOf (role : Role) (names : List String) :
    (listOf role names).map (·.name) = names := by
  simp [listOf, Function.comp_def]

/-! ## JSON -/

/-- The dependency as JSON. -/
def toJson (d : Dependency) : Json :=
  .object [("name", .string d.name), ("role", .string d.role.name)]

/-- The fields of a dependency that were read so far. -/
structure Draft where
  name : Option String
  role : Option Role

/-- How the fields of a dependency are gathered. -/
def fields : Json.Reader.Fields Draft where
  start := ⟨none, none⟩
  field? := fun key draft =>
    if key = "name" then
      some (Json.Reader.fresh "name" draft.name Json.Reader.text
        fun name => { draft with name := some name })
    else if key = "role" then
      some (Json.Reader.fresh "role" draft.role Role.reader
        fun role => { draft with role := some role })
    else none

/-- A dependency from its gathered fields. -/
def finish (draft : Draft) : Json.Reader Dependency := do
  let name ← Json.Reader.need "name" draft.name
  let role ← Json.Reader.need "role" draft.role
  return ⟨name, role⟩

/-- A dependency from the list of its fields. -/
def fromList : Json.Reader Dependency := do
  let whole := "struct Dependency with 2 elements"
  let name ← Json.Reader.itemAt 0 whole Json.Reader.text
  let role ← Json.Reader.itemAt 1 whole Role.reader
  return ⟨name, role⟩

/-- A dependency in JSON. -/
def reader : Json.Reader Dependency :=
  Json.Reader.record "struct Dependency" fields finish fromList

end Dependency

end CrossShell
