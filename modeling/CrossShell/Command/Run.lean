import CrossShell.Command.Complaint
import CrossShell.Command.Request
import CrossShell.Nix.Resolver
import CrossShell.Shell

/-!
Carrying out requests.

`runWith` takes the arguments of a command line and a machine, and says what the command prints,
what it exits with and what the machine is afterwards; `run` does so with the interpreter for what
is described of scripts. Every command that works on a config loads it the same way, and every one
that works with Nix sets it up the same way from that config. The config's script may print
something of its own, which stands before the command's output and after it, and it may end the
program before the command has done anything.
-/

set_option autoImplicit false

namespace CrossShell.Command

open Machine (Action)
open Script (Interpreter)

/-- What a command comes to. -/
structure Outcome where
  code : Nat
  output : String
  /-- What the command, and no script, says on the channel for errors. -/
  errors : String
  deriving DecidableEq, Repr

namespace Outcome

/-- Success with an output. -/
def success (output : String) : Outcome :=
  ⟨0, output, ""⟩

/-- Failure with a complaint, after an output. -/
def failure (output : String) (c : Complaint) : Outcome :=
  ⟨1, output, "✗ " ++ c.text ++ "\n"⟩

end Outcome

/-- A command on a machine. When it breaks off, the outcome is its error. -/
abbrev Task (α : Type) : Type :=
  Action Outcome α

/-! ## Parts of an output -/

/-- A line. -/
def line (text : String) : String :=
  text ++ "\n"

/-- A line that reports success. -/
def successLine (text : String) : String :=
  line ("✓ " ++ text)

/-- A line that tells something. -/
def infoLine (text : String) : String :=
  line ("• " ++ text)

/-- A line with a label. -/
def labelled (label value : String) : String :=
  line ("  " ++ label ++ ": " ++ value)

/-- A list under a title. -/
def titled (title : String) (items : List String) : String :=
  line (title ++ ":")
    ++ if items.isEmpty then line "  (none)"
      else String.join (items.map fun item => line ("  + " ++ item))

/-! ## Steps that commands share -/

/-- Breaks off with a complaint about an attempt. -/
def about {ε : Type} (attempt : String) (complain : ε → Complaint) (e : ε) : Outcome :=
  .failure "" (attempt :: complain e)

/-- What becomes of a command whose config cannot be read. If the script has ended the program,
nothing is said. -/
def ofUnloaded (path : String) : ConfigError → Outcome
  | .script (.exited code) => ⟨code, "", ""⟩
  | e => about ("Failed to evaluate config: " ++ path) ofConfigError e

/-- Reads a config. -/
def loadConfig (interpret : Interpreter) (path : String) : Task Config.Loaded :=
  Machine.explain (ofUnloaded path) (Config.loadWith interpret path)

/-- How Nix is used for a config. -/
def nixFor (m : Machine) (loaded : Config.Loaded) : Nix.Resolver :=
  .ofVariables m.env loaded.nixpkgs m.host

/-! ## Commands -/

/-- The version of the program. -/
def versionText : String := "0.1.0"

/-- The triples of all targets. -/
def supportedTriples : List String :=
  Target.supported.map Target.triple

/-- What is known of the host, and the targets, as JSON. -/
def infoJson (host : Option Platform) : Json :=
  let optional : Option String → Json := fun text => (text.map Json.string).getD .null
  .object
    [("version", .string versionText),
     ("host_system", optional (host.map Platform.system)),
     ("host_target", optional ((host.bind Target.ofPlatform?).map Target.triple)),
     ("targets", .array (supportedTriples.map Json.string))]

/-- The lines that say what is known of the host. -/
def hostLines (host : Option Platform) : String :=
  match host.map Platform.system, host.bind Target.ofPlatform? with
  | some system, some target =>
    labelled "System" system ++ labelled "Host target" target.triple
  | _, _ => labelled "Host" "could not detect platform"

/-- The lines that show the host and the targets. -/
def infoLines (host : Option Platform) : String :=
  line ("crossenv v" ++ versionText) ++ line "" ++ hostLines host ++ line ""
    ++ titled "Supported targets" supportedTriples

/-- Shows the host and the targets. -/
def info (asJson : Bool) : Task Outcome := do
  let host := (← get).host
  return .success (if asJson then line (infoJson host).sortFields.pretty else infoLines host)

/-- Writes starter files. -/
def start (directory triple : String) (force : Bool) : Task Outcome := do
  let target ← Machine.explain (fun e : TargetError => .failure "" [e.message])
    (Machine.answer (Target.parse triple))
  let files ← Machine.explain (about ("Failed to initialize " ++ directory) ofStarterError)
    (Starter.install directory target force)
  return .success
    (successLine ("Created " ++ files.script) ++ infoLine ("Target: " ++ target.triple)
      ++ infoLine "Edit build_inputs, then run 'crossenv plan' to inspect the environment.")

/-- A descriptor with its digest as JSON. -/
def planJson (d : Descriptor) : Json :=
  .object [("hash", .string d.digest.text), ("environment", d.toJson)]

/-- The lines that show a descriptor. -/
def planLines (d : Descriptor) (host : Option Platform) : String :=
  successLine ("Environment " ++ d.digest.label)
    ++ labelled "Target" d.target.triple
    ++ labelled "Rust target" d.target.rustTriple
    ++ labelled "Cross" (if d.isCross host then "yes" else "no")
    ++ line ""
    ++ titled "Native build inputs" (d.nativeBuildInputs.map (·.name))
    ++ titled "Build inputs" (d.buildInputs.map (·.name))
    ++ if d.env.isEmpty then ""
      else line "" ++ line "Variables:"
        ++ String.join (d.env.entries.map fun (key, value) => labelled key value)

/-- Shows the descriptor of a config. -/
def plan (interpret : Interpreter) (path : String) (asJson : Bool) : Task Outcome := do
  let loaded ← loadConfig interpret path
  let d := loaded.descriptor
  let host := (← get).host
  return .success (if asJson then line (planJson d).sortFields.pretty else planLines d host)

/-- Prints the shell expression of a config. -/
def render (interpret : Interpreter) (path : String) : Task Outcome := do
  let loaded ← loadConfig interpret path
  let nix := nixFor (← get) loaded
  let text ← Machine.explain (about "Failed to render shell expression" ofResolveError)
    (Machine.answer (nix.render loaded.descriptor))
  return .success text

/-- The shell that a user asks for by name, or else has. -/
def chooseShell (m : Machine) : Option String → Except Outcome Shell
  | none => .ok (Shell.detect m.env.shell)
  | some name =>
    match Shell.ofName? name with
    | some shell => .ok shell
    | none => .error (.failure ""
      ["Unknown shell: " ++ name ++ ". Supported: " ++ ", ".intercalate (Shell.all.map Shell.name)])

/-- What is said where the host is not known. -/
def hostWarning (host : Option Platform) : String :=
  match host with
  | some _ => ""
  | none => "⚠ Could not detect the host platform; assuming a cross build\n"

/-- Prints a script with the variables of a config. -/
def exports (interpret : Interpreter) (path : String) (shellName : Option String) :
    Task Outcome := do
  let shell ← Machine.answer (chooseShell (← get) shellName)
  let d := (← loadConfig interpret path).descriptor
  let host := (← get).host
  let header := "crossenv environment for " ++ d.target.triple
  return ⟨0, shell.exportScript header (d.shellEnv host), hostWarning host⟩

/-- The lines that show a handle. -/
def handleLines (h : Handle) : String :=
  successLine ("Environment " ++ h.digest.label ++ " resolved for " ++ h.target.triple)
    ++ match h.realization with
      | .nix expression derivation =>
        labelled "Expression" expression ++ labelled "Derivation" derivation
      | .catalog packages => String.join (packages.map fun name => line ("  → " ++ name))

/-- Resolves a descriptor with the catalog in a file. -/
def checkCatalog (path : String) (d : Descriptor) : Task Handle := do
  let catalog ← Machine.explain (about ("Failed to load catalog: " ++ path) ofCatalogError)
    (Catalog.load path)
  Machine.explain (about "Resolution failed (catalog)" ofResolveError)
    (Machine.answer (catalog.check d))

/-- Resolves a descriptor with Nix. -/
def checkNix (nix : Nix.Resolver) (d : Descriptor) : Task Handle :=
  Machine.explain (about "Resolution failed (nix)" ofResolveError) (nix.resolve d)

/-- Says whether the environment of a config can be had. -/
def check (interpret : Interpreter) (path : String) (catalog : Option String) (asJson : Bool) :
    Task Outcome := do
  let loaded ← loadConfig interpret path
  let handle ← match catalog with
    | some file => checkCatalog file loaded.descriptor
    | none => checkNix (nixFor (← get) loaded) loaded.descriptor
  return .success (if asJson then line handle.toJson.pretty else handleLines handle)

/-- Opens a shell in the environment of a config, or runs a command in one. What the shell prints
is part of the output, and its exit code is the command's. -/
def enter (interpret : Interpreter) (path : String) (command : Option String) :
    Task Outcome := do
  let loaded ← loadConfig interpret path
  let nix := nixFor (← get) loaded
  let d := loaded.descriptor
  let expression ← Machine.explain (about "Failed to write shell expression" ofResolveError)
    (nix.writeExpression d)
  let greeting :=
    if command.isNone then infoLine ("Entering " ++ d.target.triple ++ " shell") else ""
  let ending ← Machine.explain
    (fun e => .failure greeting ("Failed to enter shell" :: ofResolveError e))
    (nix.enter expression command)
  return ⟨Nix.exitCode ending, greeting ++ Text.decodeLossy ending.output,
    Text.decodeLossy ending.errors⟩

/-- Carries out a request. -/
def perform (interpret : Interpreter) : Request → Task Outcome
  | .info asJson => info asJson
  | .start directory target force => start directory target force
  | .plan config asJson => plan interpret config asJson
  | .render config => render interpret config
  | .exports config shell => exports interpret config shell
  | .check config catalog asJson => check interpret config catalog asJson
  | .enter config command => enter interpret config command

/-! ## The command line -/

/-- How the program is used. -/
def usage : String :=
  "Usage: crossenv [-v] <info|init|plan|render|env|check|shell> [ARGUMENTS]\n"

/-- What arguments that are no request come to. -/
def Stop.outcome : Stop → Outcome
  | .wrongUse => ⟨2, "", usage⟩
  | .help => .success usage
  | .version => .success (line ("crossenv " ++ versionText))

/-- A text of printed bytes. -/
def printedText (bytes : List UInt8) : String :=
  Text.decodeLossy (ByteArray.mk bytes.toArray)

/-- The outcome of a command that led from one machine to another, with what scripts have printed on
the way and with what they leave to be printed at the end. -/
def Outcome.between (o : Outcome) (m m' : Machine) : Outcome :=
  { o with
    output := printedText (m'.printed.drop m.printed.length) ++ o.output
      ++ printedText m'.buffered }

/-- Carries out a command line. -/
def runWith (interpret : Interpreter) (arguments : List String) (m : Machine) :
    Outcome × Machine :=
  match parse arguments with
  | .error stop => (stop.outcome, m)
  | .ok request =>
    match perform interpret request m with
    | .ok outcome m' => (outcome.between m m', m')
    | .error outcome m' => (outcome.between m m', m')

/-- Carries out a command line, as far as scripts are described. -/
def run : List String → Machine → Outcome × Machine :=
  runWith Script.interpreter

end CrossShell.Command
