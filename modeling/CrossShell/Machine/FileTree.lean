import CrossShell.Machine.Fault
import CrossShell.Machine.Path
import CrossShell.Text.Utf8

/-!
Trees of files and directories.

A `FileTree` says what stands at a location, which is a list of names from the root: a file or a
directory. There are no links, neither symbolic nor hard, so a file stands at one location. `locate`
walks a route; reading, writing and making directories refuse what the operating system refuses, and
a refused operation changes nothing. Any location may be guarded against changes, as by permissions;
what stands there can be read all the same. Writing is refused when the file is opened or not at
all: a disk that gets full or breaks while a file is written is not described. Only
`makeDirectories` consists of several steps, of which the first may succeed and a later one fail.
-/

set_option autoImplicit false

namespace CrossShell.Machine

/-- The names that lead from the root to a file or directory. -/
abbrev Location : Type := List String

/-- The plain path of a location. -/
def pathOf (l : Location) : String :=
  "/" ++ "/".intercalate l

/-- What stands at a location. -/
inductive Entry where
  | file (content : ByteArray)
  | directory

instance : DecidableEq Entry
  | .file a, .file b =>
    if h : a.data = b.data then .isTrue (congrArg Entry.file (ByteArray.ext h))
    else .isFalse fun e => h (congrArg ByteArray.data (Entry.file.inj e))
  | .directory, .directory => .isTrue rfl
  | .file _, .directory => .isFalse nofun
  | .directory, .file _ => .isFalse nofun

/-- What stands where. The root itself is always a directory. -/
structure FileTree where
  entries : List (Location × Entry)
  /-- Why nothing can be made or written at a location, where that is so. -/
  guarded : Location → Option Fault := fun _ => none

namespace FileTree

/-! ## The view and its changes -/

/-- What stands at a location. -/
def get? (t : FileTree) (l : Location) : Option Entry :=
  if l = [] then some .directory else t.entries.lookup l

/-- The tree with an entry at a location in place of what stood there. -/
def put (t : FileTree) (l : Location) (e : Entry) : FileTree :=
  { t with entries := (l, e) :: t.entries.filter fun entry => entry.1 ≠ l }

/-- The tree without a location and all below it. -/
def remove (t : FileTree) (l : Location) : FileTree :=
  { t with entries := t.entries.filter fun entry => !l.isPrefixOf entry.1 }

/-- The tree with nothing but its root. -/
def empty : FileTree :=
  { entries := [] }

theorem lookup_filter_ne {l l' : Location} (h : l' ≠ l) (entries : List (Location × Entry)) :
    (entries.filter fun entry => entry.1 ≠ l).lookup l' = entries.lookup l' := by
  induction entries with
  | nil => rfl
  | cons entry rest ih =>
    obtain ⟨k, e⟩ := entry
    by_cases hk : k = l
    · have hb : (l' == k) = false := beq_false_of_ne (by rw [hk]; exact h)
      rw [List.filter_cons_of_neg (by simp [hk]), ih, List.lookup_cons, hb]
    · rw [List.filter_cons_of_pos (by simp [hk]), List.lookup_cons, List.lookup_cons, ih]

/-- A change shows at its location and nowhere else. -/
theorem get?_put (t : FileTree) (l l' : Location) (e : Entry) (hl : l ≠ []) :
    (t.put l e).get? l' = if l' = l then some e else t.get? l' := by
  unfold get? put
  by_cases h : l' = l
  · subst h
    simp [hl]
  · have hb : (l' == l) = false := beq_false_of_ne h
    have hf := lookup_filter_ne h t.entries
    simp only [List.lookup_cons, hb, h, if_false, hf]

/-! ## Walking -/

/-- How long a name may be, in bytes. -/
def nameLimit : Nat := 255

/-- How long a path may be, in bytes. -/
def pathLimit : Nat := 4095

/-- Takes a step from a location. It has to be a directory. -/
def step (t : FileTree) (l : Location) (s : Step) : Except Fault Location :=
  match t.get? l with
  | none => .error .notFound
  | some (.file _) => .error .notADirectory
  | some .directory =>
    match s with
    | .here => .ok l
    | .up => .ok l.dropLast
    | .name text =>
      if text.utf8ByteSize ≤ nameLimit then .ok (l ++ [text]) else .error .nameTooLong

/-- Where a list of steps leads. Nothing needs to stand there. -/
def walk (t : FileTree) : Location → List Step → Except Fault Location
  | l, [] => .ok l
  | l, s :: rest =>
    match t.step l s with
    | .ok l' => walk t l' rest
    | .error fault => .error fault

/-- Where the steps of a route start, seen from a directory. -/
def origin (cwd : Location) (r : Route) : Location :=
  if r.absolute then [] else cwd

/-- Refuses the paths that the operating system is never asked for or never answers. -/
def checkSpelling (r : Route) : Except Fault Unit :=
  if r.hasNul then .error .nulInName
  else if r.isEmpty then .error .notFound
  else .ok ()

/-- Refuses also the paths that are too long to be handed over as a whole. -/
def checkPath (r : Route) : Except Fault Unit := do
  checkSpelling r
  if pathLimit < r.size then throw .nameTooLong

/-- What stands at the end of a route that is gone step by step, and where that is. -/
def follow (t : FileTree) (cwd : Location) (r : Route) : Except Fault (Location × Entry) := do
  checkSpelling r
  let l ← t.walk (origin cwd r) (r.steps ++ if r.closed then [.here] else [])
  match t.get? l with
  | some e => return (l, e)
  | none => throw .notFound

/-- What stands at the end of a route, and where that is. -/
def locate (t : FileTree) (cwd : Location) (r : Route) : Except Fault (Location × Entry) := do
  checkPath r
  t.follow cwd r

/-- The location of the name that a route ends with, which need not be there but has to lie in a
directory. A route that ends with no name gives `endless`. -/
def locateName (t : FileTree) (cwd : Location) (r : Route) (endless : Fault) :
    Except Fault Location := do
  checkPath r
  let around ← t.walk (origin cwd r) r.steps.dropLast
  match r.steps.getLast? with
  | some (.name text) => t.step around (.name text)
  | some s => do
    let _ ← t.step around s
    throw endless
  | none => throw endless

/-! ## Reading -/

/-- Whether anything stands at the end of a route. -/
def has (t : FileTree) (cwd : Location) (r : Route) : Bool :=
  (t.locate cwd r).isOk

/-- Whether a directory stands at the end of a route. -/
def hasDirectory (t : FileTree) (cwd : Location) (r : Route) : Bool :=
  match t.locate cwd r with
  | .ok (_, .directory) => true
  | _ => false

/-- The bytes of the file at the end of a route. -/
def read (t : FileTree) (cwd : Location) (r : Route) : Except Fault ByteArray := do
  match ← t.locate cwd r with
  | (_, .file content) => return content
  | (_, .directory) => throw .isADirectory

/-- The text of the file at the end of a route. -/
def readText (t : FileTree) (cwd : Location) (r : Route) : Except Fault String := do
  match Text.decode? (← t.read cwd r) with
  | some text => return text
  | none => throw .notText

/-- The location of what stands at the end of a route. It is found step by step, so the route may
be of any length. -/
def locationOf (t : FileTree) (cwd : Location) (r : Route) : Except Fault Location :=
  (t.follow cwd r).map (·.1)

/-- The locations that the names among some steps lead to. -/
def named : Location → List Step → List Location
  | _, [] => []
  | l, .here :: rest => named l rest
  | l, .up :: rest => named l.dropLast rest
  | l, .name text :: rest => (l ++ [text]) :: named (l ++ [text]) rest

/-- Whether every location that a route names has a plain path that can be handed over. -/
def fits (cwd : Location) (r : Route) : Bool :=
  (named (origin cwd r) r.steps).all fun l => (pathOf l).utf8ByteSize ≤ pathLimit

/-- The location of what stands at the end of a route, if it can be spelt out up to there. -/
def spellOut (t : FileTree) (cwd : Location) (r : Route) : Except Fault Location := do
  let l ← t.locationOf cwd r
  if !fits cwd r then throw .nameTooLong
  return l

/-! ## Writing -/

/-- Refuses a change at a location that is guarded against it. -/
def checkGuard (t : FileTree) (l : Location) : Except Fault Unit :=
  match t.guarded l with
  | some fault => .error fault
  | none => .ok ()

/-- The tree with a directory more, where nothing stood. -/
def makeDirectory (t : FileTree) (cwd : Location) (r : Route) : Except Fault FileTree := do
  let l ← t.locateName cwd r .alreadyExists
  match t.get? l with
  | some _ => throw .alreadyExists
  | none =>
    t.checkGuard l
    return t.put l .directory

/-- The tree with the content of a file, which is made if nothing stood there. -/
def write (t : FileTree) (cwd : Location) (r : Route) (content : ByteArray) :
    Except Fault FileTree := do
  let l ← t.locateName cwd r .isADirectory
  if r.closed then throw .isADirectory
  match t.get? l with
  | some .directory => throw .isADirectory
  | _ =>
    t.checkGuard l
    return t.put l (.file content)

/-- Makes a directory, where one may stand already. -/
def ensureDirectory (t : FileTree) (cwd : Location) (r : Route) : Except Fault FileTree :=
  match t.makeDirectory cwd r with
  | .ok t' => .ok t'
  | .error fault => if t.hasDirectory cwd r then .ok t else .error fault

/-- Makes the first directory of a list, after those that follow it if it cannot be made for lack
of one around it. Answers the fault, if there is one, and what the tree is then. -/
def makeEach (t : FileTree) (cwd : Location) : List Route → Option Fault × FileTree
  | [] => (none, t)
  | r :: around =>
    if r.isEmpty then (none, t)
    else match t.ensureDirectory cwd r with
      | .ok t' => (none, t')
      | .error .notFound =>
        match makeEach t cwd around with
        | (some fault, t') => (some fault, t')
        | (none, t') =>
          match t'.ensureDirectory cwd r with
          | .ok t'' => (none, t'')
          | .error fault => (some fault, t')
      | .error fault => (some fault, t)

/-- Makes a directory and those around it, as far as they are not there. -/
def makeDirectories (t : FileTree) (cwd : Location) (r : Route) : Option Fault × FileTree :=
  t.makeEach cwd r.withAncestors

end FileTree

end CrossShell.Machine
