import CrossShell.Command.Arguments
import CrossShell.Starter

/-!
Requests: what a user can ask for on the command line.

The first argument that is no flag names the command; the arguments after it are its own. Every
command that works on a config takes its path as the one positional argument.
-/

set_option autoImplicit false

namespace CrossShell.Command

/-- What a user asks for. -/
inductive Request where
  /-- The host and the targets. -/
  | info (json : Bool)
  /-- Starter files. -/
  | start (directory target : String) (force : Bool)
  /-- The descriptor of a config. -/
  | plan (config : String) (json : Bool)
  /-- The shell expression of a config. -/
  | render (config : String)
  /-- A script with the variables of a config. -/
  | exports (config : String) (shell : Option String)
  /-- Whether the environment of a config can be had, by a catalog or by Nix. -/
  | check (config : String) (catalog : Option String) (json : Bool)
  /-- A shell in the environment of a config, or a command in one. -/
  | enter (config : String) (command : Option String)
  deriving DecidableEq, Repr

/-! ## What is known -/

/-- The flag for more output. -/
def verbose : Known := ⟨"verbose", some 'v', .flag⟩

/-- The flag for help. -/
def help : Known := ⟨"help", some 'h', .flag⟩

/-- The flag for the version. -/
def version : Known := ⟨"version", some 'V', .flag⟩

/-- The flag for JSON output. -/
def json : Known := ⟨"json", none, .flag⟩

/-- The flags and options of a command besides those of all commands. -/
def ownKnown : String → Option (List Known)
  | "info" => some [json]
  | "init" => some [⟨"target", some 't', .option⟩, ⟨"force", some 'f', .flag⟩]
  | "plan" => some [json]
  | "render" => some []
  | "env" => some [⟨"shell", some 's', .option⟩]
  | "check" => some [⟨"catalog", none, .pathOption⟩, json]
  | "shell" => some [⟨"command", some 'c', .option⟩]
  | _ => none

/-- The target of starter files where none is given. -/
def defaultTarget : String := "aarch64-unknown-linux-gnu"

/-- The request of a command with its arguments. -/
def ofGiven (command : String) (g : Given) : Except Stop Request :=
  let config := g.positional.headD Starter.scriptName
  match command with
  | "info" => .ok (.info (g.hasFlag "json"))
  | "init" =>
    .ok (.start (g.positional.headD ".") ((g.option? "target").getD defaultTarget)
      (g.hasFlag "force"))
  | "plan" => .ok (.plan config (g.hasFlag "json"))
  | "render" => .ok (.render config)
  | "env" => .ok (.exports config (g.option? "shell"))
  | "check" => .ok (.check config (g.option? "catalog") (g.hasFlag "json"))
  | "shell" => .ok (.enter config (g.option? "command"))
  | _ => .error .wrongUse

/-- How many positional arguments a command takes. -/
def positionalLimit (command : String) : Nat :=
  if command = "info" then 0 else 1

/-- What a user who asks for help on a topic gets. A topic is a command, if one is given. -/
def ofHelp : List String → Stop
  | [] => .help
  | [topic] => if topic = "help" ∨ (ownKnown topic).isSome then .help else .wrongUse
  | _ => .wrongUse

/-- The request of a command's name and the arguments after it. -/
def ofCommand (command : String) (arguments : List String) : Except Stop Request :=
  if command = "help" then .error (ofHelp arguments)
  else match ownKnown command with
    | none => .error .wrongUse
    | some own => do
      ofGiven command (← read (verbose :: help :: own) (positionalLimit command) arguments)

/-- Reads the arguments after those that were given before the name of a command. -/
def afterFlags (g : Given) : List String → Except Stop Request
  | [] => .error .wrongUse
  | argument :: rest =>
    match argument.toList with
    | ['-', '-'] => .error .wrongUse
    | '-' :: _ :: _ =>
      match g.take [verbose, help, version] 0 argument with
      | .ok g' => afterFlags g' rest
      | .error stop => .error stop
    | _ => ofCommand argument rest

/-- The request of a command line. -/
def parse (arguments : List String) : Except Stop Request :=
  afterFlags Given.nothing arguments

end CrossShell.Command
