import CrossShell.Resolution

/-!
Catalogs: what is known of packages without asking a package manager.

A catalog may list the targets that it covers, and says of each package which targets it is built
for and whether it is broken. `check` resolves a descriptor against a catalog: the first thing that
is wrong is the answer, the target before the packages and the packages in the order of the
descriptor.
-/

set_option autoImplicit false

namespace CrossShell

/-- What a catalog says of a package. -/
structure CatalogEntry where
  /-- The targets that the package is built for; without a list, all of them. -/
  platforms : Option (List Target)
  broken : Bool
  /-- Why the package is broken. -/
  reason : Option String
  deriving DecidableEq

/-- What is known of packages. -/
structure Catalog where
  /-- The targets that the catalog covers; without a list, all of them. -/
  targets : Option (List Target)
  packages : SortedMap CatalogEntry
  deriving DecidableEq

/-- A package that is built for every target and is not broken. -/
def CatalogEntry.plain : CatalogEntry :=
  ⟨none, false, none⟩

namespace Catalog

/-! ## Making a catalog -/

/-- The catalog that covers every target and has no package. -/
def empty : Catalog :=
  ⟨none, SortedMap.empty⟩

/-- The catalog with another list of targets. -/
def withTargets (c : Catalog) (targets : List Target) : Catalog :=
  { c with targets := some targets }

/-- The catalog with an entry for a package. -/
def withPackage (c : Catalog) (name : String) (entry : CatalogEntry) : Catalog :=
  { c with packages := c.packages.insert name entry }

/-! ## Checking a descriptor -/

/-- Whether an optional list covers a target. No list covers every target. -/
def covers (list : Option (List Target)) (target : Target) : Bool :=
  match list with
  | none => true
  | some targets => targets.contains target

/-- What is wrong with a target, if anything is. -/
def targetDefect? (c : Catalog) (target : Target) : Option ResolveError :=
  if covers c.targets target then none
  else some (.unsupportedTarget ⟨target.triple, "not listed in the catalog"⟩)

/-- What is wrong with a package's entry, if anything is. Only what is built for the target has to
be available on it. -/
def entryDefect? (entry : CatalogEntry) (target : Target) (d : Dependency) : Option ResolveError :=
  if d.role = .buildInput ∧ covers entry.platforms target = false then
    let listed := ", ".intercalate ((entry.platforms.getD []).map Target.triple)
    some (.crossUnsupported (some d.name) target.triple ("available on: " ++ listed))
  else if entry.broken then
    let reason := entry.reason.getD "no reason given"
    some (.buildFailure ("package '" ++ d.name ++ "' is marked broken: " ++ reason))
  else none

/-- What is wrong with a dependency, if anything is. -/
def dependencyDefect? (c : Catalog) (target : Target) (d : Dependency) : Option ResolveError :=
  match c.packages.get? d.name with
  | none => some (.packageNotFound d.name)
  | some entry => entryDefect? entry target d

/-- The first thing that is wrong with a descriptor, if anything is. -/
def defect? (c : Catalog) (d : Descriptor) : Option ResolveError :=
  c.targetDefect? d.target <|> d.dependencies.findSome? (c.dependencyDefect? d.target)

/-- Resolves a descriptor. -/
def check (c : Catalog) (d : Descriptor) : Except ResolveError Handle :=
  match c.defect? d with
  | some error => .error error
  | none => .ok ⟨d.digest, d.target, .catalog (d.dependencies.map (·.name))⟩

end Catalog

/-! ## JSON -/

/-- A list of targets as JSON. -/
def targetListJson (targets : List Target) : Json :=
  .array (targets.map Target.toJson)

/-- A list of targets in JSON, or null. -/
def targetListReader : Json.Reader (Option (List Target)) :=
  Json.Reader.optional (Json.Reader.list Target.reader)

/-- The field of an object for a value that may be missing. -/
def optionalField {α : Type} (name : String) (value : Option α) (toJson : α → Json) :
    List (String × Json) :=
  match value with
  | some a => [(name, toJson a)]
  | none => []

namespace CatalogEntry

/-- The entry as JSON. What is missing is no field. -/
def toJson (entry : CatalogEntry) : Json :=
  .object (optionalField "platforms" entry.platforms targetListJson
    ++ [("broken", .bool entry.broken)]
    ++ optionalField "reason" entry.reason Json.string)

/-- The fields of an entry that were read so far. -/
structure Draft where
  platforms : Option (Option (List Target))
  broken : Option Bool
  reason : Option (Option String)

/-- How the fields of an entry are gathered. -/
def fields : Json.Reader.Fields Draft where
  start := ⟨none, none, none⟩
  field? := fun key draft =>
    if key = "platforms" then
      some (Json.Reader.fresh key draft.platforms targetListReader
        fun platforms => { draft with platforms := some platforms })
    else if key = "broken" then
      some (Json.Reader.fresh key draft.broken Json.Reader.bool
        fun broken => { draft with broken := some broken })
    else if key = "reason" then
      some (Json.Reader.fresh key draft.reason (Json.Reader.optional Json.Reader.text)
        fun reason => { draft with reason := some reason })
    else none

/-- The entry of the fields that were read. What is missing is as in a plain entry. -/
def Draft.entry (draft : Draft) : CatalogEntry :=
  ⟨draft.platforms.getD none, draft.broken.getD false, draft.reason.getD none⟩

/-- An entry from the list of its fields. -/
def fromList : Json.Reader CatalogEntry := do
  let some platforms ← Json.Reader.itemAt? 0 targetListReader | return plain
  let some broken ← Json.Reader.itemAt? 1 Json.Reader.bool | return ⟨platforms, false, none⟩
  let reason ← Json.Reader.itemAt? 2 (Json.Reader.optional Json.Reader.text)
  return ⟨platforms, broken, reason.getD none⟩

/-- An entry in JSON. -/
def reader : Json.Reader CatalogEntry :=
  Json.Reader.record "struct CatalogEntry" fields (fun draft => return draft.entry) fromList

end CatalogEntry

namespace Catalog

/-- The catalog as JSON. -/
def toJson (c : Catalog) : Json :=
  .object (optionalField "targets" c.targets targetListJson
    ++ [("packages", .object (c.packages.entries.map fun (name, entry) => (name, entry.toJson)))])

/-- The fields of a catalog that were read so far. -/
structure Draft where
  targets : Option (Option (List Target))
  packages : Option (SortedMap CatalogEntry)

/-- How the fields of a catalog are gathered. -/
def fields : Json.Reader.Fields Draft where
  start := ⟨none, none⟩
  field? := fun key draft =>
    if key = "targets" then
      some (Json.Reader.fresh key draft.targets targetListReader
        fun targets => { draft with targets := some targets })
    else if key = "packages" then
      some (Json.Reader.fresh key draft.packages (Json.Reader.map CatalogEntry.reader)
        fun packages => { draft with packages := some packages })
    else none

/-- The catalog of the fields that were read. What is missing is as in the empty catalog. -/
def Draft.catalog (draft : Draft) : Catalog :=
  ⟨draft.targets.getD none, draft.packages.getD SortedMap.empty⟩

/-- A catalog from the list of its fields. -/
def fromList : Json.Reader Catalog := do
  let some targets ← Json.Reader.itemAt? 0 targetListReader | return empty
  let packages ← Json.Reader.itemAt? 1 (Json.Reader.map CatalogEntry.reader)
  return ⟨targets, packages.getD SortedMap.empty⟩

/-- A catalog in JSON. -/
def reader : Json.Reader Catalog :=
  Json.Reader.record "struct Catalog" fields (fun draft => return draft.catalog) fromList

end Catalog

end CrossShell
