import CrossShell.Text.Split

/-!
Paths as texts, and the routes that they describe.

A path keeps the spelling that it was given with, since that spelling is shown. `join` spells a path
below another one. A `Route` is what a path means: the steps to take from the root or from the
current directory.
-/

set_option autoImplicit false

namespace CrossShell.Machine

/-! ## Spelling -/

/-- The path `rel` as seen from the directory `base`. An absolute path stays what it is. -/
def join (base rel : String) : String :=
  if rel.toList.head? = some '/' then rel
  else if base.toList.getLast?.all (· == '/') then base ++ rel
  else base ++ "/" ++ rel

/-! ## Routes -/

/-- One step through a tree of directories. -/
inductive Step where
  /-- Stay in the directory. -/
  | here
  /-- Go to the directory around it. -/
  | up
  /-- Go to what has a name in it. -/
  | name (text : String)
  deriving DecidableEq, Repr

/-- What a path means. -/
structure Route where
  /-- Whether the steps start at the root. -/
  absolute : Bool
  steps : List Step
  /-- Whether the path ends in a slash after its last step, which asks for a directory there. -/
  closed : Bool
  /-- How long the path is at most, in bytes. -/
  size : Nat
  deriving DecidableEq, Repr

namespace Route

/-- The step that a piece of a path stands for. Between two slashes there is none. -/
def stepOf? (piece : List Char) : Option Step :=
  match piece with
  | [] => none
  | ['.'] => some .here
  | ['.', '.'] => some .up
  | piece => some (.name (String.ofList piece))

/-- The route of a path. -/
def ofText (text : String) : Route :=
  let pieces := Text.fields '/' text.toList
  let steps := pieces.filterMap stepOf?
  { absolute := text.toList.head? = some '/'
    steps := steps
    closed := !steps.isEmpty && pieces.getLast? == some []
    size := text.utf8ByteSize }

/-- Whether a route does not even name the current directory. -/
def isEmpty (r : Route) : Bool :=
  !r.absolute && r.steps.isEmpty

/-- Whether a path holds the character that ends paths. -/
def hasNul (r : Route) : Bool :=
  r.steps.any fun step => match step with
    | .name text => text.toList.contains '\x00'
    | _ => false

/-- The steps without those that stay, apart from a first one that says where the route starts. -/
def properSteps (r : Route) : List Step :=
  match r.absolute, r.steps with
  | false, .here :: rest => .here :: rest.filter (· ≠ .here)
  | _, steps => steps.filter (· ≠ .here)

/-- The route followed by the routes to the directories around its end, nearest first. Their paths
are no longer than its own. -/
def withAncestors (r : Route) : List Route :=
  let steps := r.properSteps
  r :: (List.range steps.length).reverse.map fun count =>
    { r with steps := steps.take count, closed := false }

/-- The name that a route ends with. -/
def lastName? (r : Route) : Option String :=
  match r.properSteps.getLast? with
  | some (.name text) => some text
  | _ => none

end Route

/-- The last name of a path. -/
def fileName? (path : String) : Option String :=
  (Route.ofText path).lastName?

end CrossShell.Machine
