import CrossShell.Command.Request
import CrossShell.Machine.FileTree
import CrossShell.Machine.Variables

/-!
How far a request reaches: the paths that it may look at or change, and all that stands on the way
to them. A picture of a machine that is to carry out the request needs to show no more than that,
unless the config's script reaches for files of its own.
-/

set_option autoImplicit false

namespace CrossShell.Command

open Machine (Location Route Step Variables)

/-- The locations that one comes to with steps from a location, in order. -/
def passed (l : Location) : List Step → List Location
  | [] => [l]
  | .here :: rest => passed l rest
  | .up :: rest => l :: passed l.dropLast rest
  | .name text :: rest => l :: passed (l ++ [text]) rest

/-- The paths that a request may look at or change. What is below the directory for shell
expressions is only written. -/
def Request.paths (v : Variables) : Request → List String
  | .info _ => []
  | .start directory _ _ =>
    let files := Starter.filesIn directory
    [directory, files.script, files.settings]
  | .plan config _ | .render config | .exports config _ => [config]
  | .check config catalog _ => config :: v.shellsDirectory :: catalog.toList
  | .enter config _ => [config, v.shellsDirectory]

/-- The locations that a command line reaches from a directory. -/
def reach (arguments : List String) (cwd : Location) (v : Variables) : List Location :=
  match parse arguments with
  | .error _ => []
  | .ok request =>
    passed [] (cwd.map .name) ++ (request.paths v).flatMap fun path =>
      let r := Route.ofText path
      passed (Machine.FileTree.origin cwd r) r.steps

end CrossShell.Command
