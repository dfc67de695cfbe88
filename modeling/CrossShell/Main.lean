import CrossShell.Command.Reach
import CrossShell.Command.Run

/-!
The program.

It takes a picture of the machine as far as the command line reaches, carries out the command line
there, and then changes the machine's files in the way that the picture has changed. No other
program can be started from here, so each counts as missing.
-/

set_option autoImplicit false

namespace CrossShell.Program

open Machine (Entry FileTree Location Route Variables)

/-! ## The picture -/

/-- What stands at a path in a directory, as far as it can be read. -/
def entryAt? (path : String) : IO (Option Entry) := do
  try
    return some (.file (← IO.FS.readBinFile path))
  catch
    | .inappropriateType .. => return some .directory
    | _ => return none

/-- What stands at the given locations, of which those around another one come before it. -/
def filesAt (locations : List Location) : IO FileTree :=
  locations.foldlM
    (fun files l => do
      if files.get? l.dropLast ≠ some .directory ∨ (files.get? l).isSome then return files
      match ← entryAt? (Machine.pathOf l) with
      | some entry => return files.put l entry
      | none => return files)
    FileTree.empty

/-- The variables that are set. -/
def environment : IO Variables := do
  let known ← Variables.names.mapM fun name => do
    return (name, (← IO.getEnv name).map Text.encode)
  return Variables.ofBytes fun name => (known.lookup name).join

/-- The current directory. -/
def directory : IO Location := do
  let path := (← IO.currentDir).toString
  return (Command.passed [] (Route.ofText path).steps).getLastD []

/-- What Linux says the machine is. -/
def host : IO (Option Platform) := do
  try
    let name ← IO.FS.readFile "/proc/sys/kernel/arch"
    return (Arch.ofName? (String.ofList (name.toList.takeWhile (· ≠ '\n')))).map fun arch =>
      ⟨arch, .linux, some (if arch.isArm32 then .gnueabihf else .gnu)⟩
  catch _ =>
    return none

/-- The machine as far as a command line reaches. -/
def picture (arguments : List String) : IO Machine := do
  let cwd ← directory
  let v ← environment
  let files ← filesAt (Command.reach arguments cwd v)
  return { Machine.ofFiles files with directory := cwd, env := v, host := ← host }

/-! ## Its changes -/

/-- Makes the directories and writes the files that one tree has and another has not. -/
def store (before after : FileTree) : IO Unit :=
  after.entries.reverse.forM fun (l, entry) => do
    if before.get? l ≠ some entry then
      match entry with
      | .directory => IO.FS.createDir (Machine.pathOf l)
      | .file content => IO.FS.writeBinFile (Machine.pathOf l) content

end CrossShell.Program

/-- Carries out a command line and answers the exit code. -/
def main (arguments : List String) : IO UInt32 := do
  let before ← CrossShell.Program.picture arguments
  let (outcome, after) := CrossShell.Command.run arguments before
  CrossShell.Program.store before.files after.files
  IO.print outcome.output
  IO.eprint outcome.errors
  return outcome.code.toUInt32
