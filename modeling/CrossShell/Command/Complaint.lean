import CrossShell.Catalog.Load
import CrossShell.Config.Load
import CrossShell.Starter

/-!
Complaints: what the user is told when something failed.

A complaint names what was attempted, then the error, then what caused the error, although an error
mostly says that itself.
-/

set_option autoImplicit false

namespace CrossShell.Command

/-- The parts of a complaint, the outermost first. -/
abbrev Complaint : Type := List String

/-- The text of a complaint. -/
def Complaint.text (c : Complaint) : String :=
  ": ".intercalate c

/-- The error of a config, and its cause. -/
def ofConfigError (e : ConfigError) : Complaint :=
  e.message :: e.cause?.toList

/-- The error of a resolution, and its cause. -/
def ofResolveError (e : ResolveError) : Complaint :=
  e.message :: match e with
    | .system fault => [fault.message]
    | _ => []

/-- The error of a catalog, and its cause. -/
def ofCatalogError (e : CatalogError) : Complaint :=
  e.message :: match e with
    | .unreadable _ fault => [fault.message]
    | .invalid _ error => [error.message]

/-- The error of starter files, and its cause. -/
def ofStarterError (e : Starter.Error) : Complaint :=
  e.message :: match e with
    | .taken _ => []
    | .directory _ fault | .file _ fault => [fault.message]

end CrossShell.Command
