import CrossShell.Catalog
import CrossShell.Json.Reader
import CrossShell.Machine

/-!
Catalogs from files.
-/

set_option autoImplicit false

namespace CrossShell

/-- Why a file gives no catalog. -/
inductive CatalogError where
  /-- The file cannot be read. -/
  | unreadable (path : String) (fault : Machine.Fault)
  /-- The text of the file is no catalog. -/
  | invalid (path : String) (error : Json.ReadError)

/-- The text of an error. -/
def CatalogError.message : CatalogError → String
  | .unreadable path fault => "failed to read catalog " ++ path ++ ": " ++ fault.message
  | .invalid path error => "invalid catalog " ++ path ++ ": " ++ error.message

namespace Catalog

/-- The catalog that a text writes. -/
def ofJson (text : String) : Except Json.ReadError Catalog :=
  Json.decode reader text

/-- Reads a catalog from a file. -/
def load (path : String) : Machine.Action CatalogError Catalog := do
  let text ← Machine.explain (.unreadable path) (Machine.readText path)
  Machine.explain (.invalid path) (Machine.answer (ofJson text))

end Catalog

end CrossShell
