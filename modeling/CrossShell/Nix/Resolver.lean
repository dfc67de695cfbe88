import CrossShell.Machine
import CrossShell.Nix.Diagnosis
import CrossShell.Nix.Expression

/-!
The Nix package manager as a resolver.

A descriptor's shell expression is kept in a file that its digest names. `resolve` has one program
of Nix instantiate that file, `enter` has another one open a shell with it. Nothing is written and
no program is started for a descriptor that has no expression.
-/

set_option autoImplicit false

namespace CrossShell.Nix

open Machine (Action Fault)

/-- How Nix is used. -/
structure Resolver where
  /-- The expression of the package set. -/
  nixpkgs : String
  instantiateProgram : String
  shellProgram : String
  /-- Where shell expressions are kept. -/
  shellsDirectory : String
  /-- The machine that packages are built on. -/
  host : Option Platform
  deriving DecidableEq, Repr

namespace Resolver

/-! ## Settings -/

/-- The package set where none is named. -/
def defaultNixpkgs : String := "<nixpkgs>"

/-- The resolver that a user's variables and the package set of the user's config ask for. A
variable wins over the config. -/
def ofVariables (v : Machine.Variables) (configured : Option String) (host : Option Platform) :
    Resolver :=
  { nixpkgs := (v.nixpkgs <|> configured).getD defaultNixpkgs
    instantiateProgram := v.instantiateProgram.getD "nix-instantiate"
    shellProgram := v.shellProgram.getD "nix-shell"
    shellsDirectory := v.shellsDirectory
    host := host }

/-! ## Expressions on file -/

/-- The shell expression of a descriptor. -/
def render (r : Resolver) (d : Descriptor) : Except ResolveError String :=
  Nix.render d r.nixpkgs r.host

/-- The file of a descriptor's shell expression. -/
def expressionPath (r : Resolver) (d : Descriptor) : String :=
  Machine.join r.shellsDirectory ((expressionDigest d r.nixpkgs r.host).text ++ ".nix")

/-- Writes the shell expression of a descriptor into its file and answers the path of that. -/
def writeExpression (r : Resolver) (d : Descriptor) : Action ResolveError String := do
  let text ← Machine.answer (r.render d)
  Machine.explain .system (Machine.makeDirectories r.shellsDirectory)
  Machine.explain .system (Machine.writeText (r.expressionPath d) text)
  return r.expressionPath d

/-! ## Programs -/

/-- What it means that a program could not be started. -/
def startError (program : String) : Fault → ResolveError
  | .notFound => .unavailable program
  | fault => .system fault

/-- Starts a program of Nix. -/
def start (program : String) (arguments : List String) : Action ResolveError Machine.Ending :=
  Machine.explain (startError program) (Machine.start program arguments)

/-- The last line of an output that is not blank, without the blanks around it. -/
def derivation? (output : List Char) : Option (List Char) :=
  ((Text.lines output).reverse.find? fun line => !Text.isAllBlank line).map Text.trim

/-- What a program that should have instantiated a descriptor's expression came to. -/
def conclude (r : Resolver) (d : Descriptor) (path : String) (ending : Machine.Ending) :
    Except ResolveError Handle :=
  if ending.code ≠ some 0 then
    .error (diagnose (Text.decodeLossy ending.errors) d.target.triple d.packageNames)
  else match derivation? (Text.decodeLossy ending.output).toList with
    | none => .error (.buildFailure (r.instantiateProgram ++ " produced no derivation path"))
    | some derivation => .ok ⟨d.digest, d.target, .nix path (String.ofList derivation)⟩

/-- Resolves a descriptor. -/
def resolve (r : Resolver) (d : Descriptor) : Action ResolveError Handle := do
  let path ← r.writeExpression d
  let ending ← start r.instantiateProgram [path]
  Machine.answer (r.conclude d path ending)

/-- The arguments that open a shell, or run a command in one. -/
def shellArguments (path : String) (command : Option String) : List String :=
  path :: match command with
    | none => []
    | some command => ["--run", command]

/-- Opens a shell with an expression, or runs a command in one. -/
def enter (r : Resolver) (path : String) (command : Option String) :
    Action ResolveError Machine.Ending :=
  start r.shellProgram (shellArguments path command)

end Resolver

/-- The exit code that a shell is reported with; the end by a signal counts as a failure. -/
def exitCode (ending : Machine.Ending) : Nat :=
  ending.code.getD 1

end CrossShell.Nix
