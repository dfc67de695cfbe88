import CrossShell.Config.Shape
import CrossShell.Machine

/-!
Configs from scripts and from files.

A script sees the machine that it runs on and the known targets as the table `crossenv`. `loadWith`
reads a script from a file, has an interpreter run it and makes a descriptor of its answer; a
relative package set is meant relative to that file. `load` does so with the interpreter for what is
described of scripts. Everything that changes the machine on the way is done by the script.
-/

set_option autoImplicit false

namespace CrossShell.Config

open Machine (Action)
open Script (Interpreter Store Value)

/-! ## Scripts -/

/-- What scripts know of the machine, by name. The list of targets is at the address `targets`. -/
def machineFields (host : Option Platform) (targets : Nat) : List (String × Value) :=
  let known : List (String × Option Value) :=
    [("host", (host.bind Target.ofPlatform?).map fun t => .ofText t.triple),
     ("os", host.map fun p => .ofText p.os.name),
     ("arch", host.map fun p => .ofText p.arch.name),
     ("targets", some (.table targets))]
  known.filterMap fun (name, value) => value.map fun v => (name, v)

/-- What a script on a machine starts with. -/
def startStore (host : Option Platform) : Store :=
  let (targets, s) :=
    Script.Library.store.newTable (.ofList (Target.supported.map fun t => .ofText t.triple))
  let (machine, s) := s.newTable (.ofFields (machineFields host targets))
  s.setGlobal "crossenv" (.table machine)

/-- The config that a script's answer is. -/
def ofAnswer : Value × Store → Except ConfigError Config
  | (.table address, s) =>
    match ofTable s address with
    | .ok config => .ok config
    | .error defect => .error (.shape defect)
  | (v, _) => .error (.notATable v.typeName)

/-- The config that a script answers when it is run. The script's name must not hold the character
that ends texts. -/
def ofSource (interpret : Interpreter) (name source : String) : Action ConfigError Config := do
  if Machine.hasNul name then throw (.script .failed)
  else do
    let host := (← get).host
    let answer ← Machine.explain .script (interpret name source (startStore host))
    Machine.answer (ofAnswer answer)

/-- The config that a script answers on a machine of which no more than the host is known. -/
def ofScript (host : Option Platform) (name source : String) : Except ConfigError Config :=
  let m := { Machine.ofFiles Machine.FileTree.empty with host := host }
  match ofSource Script.interpreter name source m with
  | .ok config _ => .ok config
  | .error e _ => .error e

/-! ## Files -/

/-- The config that a file's script answers. -/
def ofFileWith (interpret : Interpreter) (path : String) : Action ConfigError Config := do
  let l ← Machine.explain (.unreadable path) (Machine.locate path)
  let source ← Machine.explain (.unreadable path) (Machine.readText (Machine.pathOf l))
  ofSource interpret (Machine.pathOf l) source

/-- The config that a file's script answers, as far as scripts are described. -/
def ofFile : String → Action ConfigError Config :=
  ofFileWith Script.interpreter

/-- A package set as it is seen from anywhere. A relative path was written in the directory. -/
def resolveNixpkgs (nixpkgs directory : String) : String :=
  match nixpkgs.toList with
  | '.' :: '.' :: '/' :: _ => Machine.join directory nixpkgs
  | '.' :: '/' :: rest => Machine.join directory (String.ofList rest)
  | _ => nixpkgs

/-- A config that was read from a file. -/
structure Loaded where
  descriptor : Descriptor
  nixpkgs : Option String
  warnings : List Warning

/-- Reads a config from a file. -/
def loadWith (interpret : Interpreter) (path : String) : Action ConfigError Loaded := do
  let l ← Machine.explain (.unreadable path) (Machine.locate path)
  let config ← ofFileWith interpret (Machine.pathOf l)
  let directory := Machine.pathOf l.dropLast
  let (descriptor, warnings) ← Machine.answer config.describe
  return ⟨descriptor, config.nixpkgs.map fun n => resolveNixpkgs n directory, warnings⟩

/-- Reads a config from a file, as far as scripts are described. -/
def load : String → Action ConfigError Loaded :=
  loadWith Script.interpreter

end CrossShell.Config
