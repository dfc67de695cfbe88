import CrossShell.Machine.FileTree
import CrossShell.Machine.Variables
import CrossShell.Platform

/-!
The machine that the program runs on, as far as it matters: files, variables, other programs.

An `Action` changes the machine and answers a value or an error; what it did before an error stays
done. The programs that it starts are recorded in `started`. What config scripts print is recorded
in `printed`, and in `buffered` as long as it waits for the end of the program.
-/

set_option autoImplicit false

namespace CrossShell

namespace Machine

/-- How a program ended, and what it wrote. -/
structure Ending where
  /-- The exit code; a program that a signal ended has none. -/
  code : Option Nat
  output : ByteArray
  errors : ByteArray

/-- What becomes of the attempt to start a program. -/
inductive Launch where
  /-- The program could not be started. -/
  | refused (fault : Fault)
  /-- The program ran. -/
  | ran (ending : Ending)

/-- The start of a program that took place. -/
structure Start where
  program : String
  arguments : List String
  deriving DecidableEq, Repr

end Machine

/-- A machine. -/
structure Machine where
  files : Machine.FileTree
  /-- The current directory. -/
  directory : Machine.Location
  env : Machine.Variables
  /-- What the machine is known to be. -/
  host : Option Platform
  /-- What a program does when it is started with arguments. -/
  programs : String → List String → Machine.Launch
  /-- The programs that were started, in order. -/
  started : List Machine.Start
  /-- The bytes that scripts have printed. -/
  printed : List UInt8 := []
  /-- The bytes of scripts that are still to be printed, at the end of the program if not before. -/
  buffered : List UInt8 := []

namespace Machine

variable {ε α : Type}

/-- A change of the machine that answers a value or an error. -/
abbrev Action (ε α : Type) : Type :=
  EStateM ε Machine α

/-- A machine with the given files in whose root one is, where nothing else is known. -/
def ofFiles (files : FileTree) : Machine :=
  { files := files
    directory := []
    env := .unset
    host := none
    programs := fun _ _ => .refused .notFound
    started := [] }

/-! ## Looking -/

/-- Answers what an inspection of the machine finds. -/
def look (find : Machine → Except ε α) : Action ε α := fun m =>
  match find m with
  | .ok a => .ok a m
  | .error e => .error e m

/-- The text of a file. -/
def readText (path : String) : Action Fault String :=
  look fun m => m.files.readText m.directory (Route.ofText path)

/-- Where what stands at a path really is. It is asked for under its full path at every step. -/
def locate (path : String) : Action Fault Location :=
  look fun m => m.files.spellOut m.directory (Route.ofText path)

/-- Whether anything stands at a path. -/
def has (path : String) : Action ε Bool :=
  look fun m => .ok (m.files.has m.directory (Route.ofText path))

/-! ## Changing -/

/-- Writes a text into a file. -/
def writeText (path text : String) : Action Fault Unit := fun m =>
  match m.files.write m.directory (Route.ofText path) (Text.encode text) with
  | .ok files => .ok () { m with files := files }
  | .error fault => .error fault m

/-- Makes a directory and those around it. -/
def makeDirectories (path : String) : Action Fault Unit := fun m =>
  match m.files.makeDirectories m.directory (Route.ofText path) with
  | (none, files) => .ok () { m with files := files }
  | (some fault, files) => .error fault { m with files := files }

/-- Prints bytes after those that were still to be printed. -/
def print (bytes : List UInt8) : Action ε Unit := fun m =>
  .ok () { m with printed := m.printed ++ m.buffered ++ bytes, buffered := [] }

/-- Whether a text holds the character that ends texts for the operating system. -/
def hasNul (text : String) : Bool :=
  text.toList.contains '\x00'

/-- What becomes of the attempt to start a program on a machine. -/
def launch (m : Machine) (program : String) (arguments : List String) : Launch :=
  if (program :: arguments).any hasNul then .refused .nulInArgument
  else m.programs program arguments

/-- Starts a program and waits for its end. -/
def start (program : String) (arguments : List String) : Action Fault Ending := fun m =>
  match m.launch program arguments with
  | .refused fault => .error fault m
  | .ran ending => .ok ending { m with started := m.started ++ [⟨program, arguments⟩] }

/-! ## Errors -/

/-- The action with its error said in other terms. -/
def explain {ε' : Type} (f : ε → ε') (action : Action ε α) : Action ε' α := fun m =>
  match action m with
  | .ok a m' => .ok a m'
  | .error e m' => .error (f e) m'

/-- The answer of an action that does nothing. -/
def answer (result : Except ε α) : Action ε α := fun m =>
  match result with
  | .ok a => .ok a m
  | .error e => .error e m

end Machine

end CrossShell
