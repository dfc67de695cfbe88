import CrossShell.Nix.Lexeme
import CrossShell.Resolution
import CrossShell.Text.Blank

/-!
Shell expressions: descriptors as programs of the Nix language.

An `Expression` imports a package set, for the target if that is another machine, and applies a
function of the packages to it that makes a shell. `ofDescriptor` builds one where every package has
a name that can be an identifier; `text` writes it. `digest` names everything that the text depends
on, so that two texts are kept in one file only if they are the same.
-/

set_option autoImplicit false

namespace CrossShell.Nix

/-- A program that makes a shell. -/
structure Expression where
  target : Target
  /-- The expression of the package set. -/
  source : String
  /-- Whether the package set is for another machine than the host. -/
  cross : Bool
  /-- The arguments of the function that makes the shell. -/
  formals : List String
  nativeBuildInputs : List String
  buildInputs : List String
  /-- The variables of the shell. -/
  attributes : List (String × String)
  deriving DecidableEq

namespace Expression

/-! ## From a descriptor -/

/-- The function that makes a shell from its attributes. -/
def shellFunction : String := "mkShell"

/-- The first name of a descriptor that is no identifier. -/
def badName? (d : Descriptor) : Option String :=
  (d.dependencies.map (·.name)).find? fun name => !isIdentifier name

/-- The program for a descriptor. A package whose name is no identifier cannot exist. -/
def ofDescriptor (d : Descriptor) (nixpkgs : String) (host : Option Platform) :
    Except ResolveError Expression :=
  match badName? d with
  | some name => .error (.packageNotFound name)
  | none => .ok
    { target := d.target
      source := nixpkgs
      cross := d.isCross host
      formals := shellFunction :: d.packageNames.filter (· ≠ shellFunction)
      nativeBuildInputs := d.nativeBuildInputs.map (·.name)
      buildInputs := d.buildInputs.map (·.name)
      attributes := (d.shellEnv host).entries }

/-! ## The text -/

/-- The package set as the argument of an import. A source of several words goes into brackets. -/
def importArgument (source : String) : String :=
  if source.toList.any Text.isBlank then "(" ++ source ++ ")" else source

/-- The lines that bring in the package set. -/
def importText (e : Expression) : String :=
  "# Generated by crossenv for " ++ e.target.triple ++ "\nlet\n  pkgs = import "
    ++ importArgument e.source
    ++ (if e.cross then
      " \x7b\n    crossSystem = \x7b\n      config = " ++ quote e.target.triple
        ++ ";\n    \x7d;\n  \x7d;\n"
      else " \x7b \x7d;\n")
    ++ "in\n"

/-- The line of the function's arguments. -/
def formalsText (formals : List String) : String :=
  "  \x7b " ++ ", ".intercalate formals ++ " \x7d:\n"

/-- The lines of an attribute that is a list of packages. -/
def listText (key : String) (names : List String) : String :=
  match names with
  | [] => "    " ++ key ++ " = [ ];\n"
  | names =>
    "    " ++ key ++ " = [\n" ++ String.join (names.map fun name => "      " ++ name ++ "\n")
      ++ "    ];\n"

/-- The line of a variable. -/
def attributeText : String × String → String
  | (key, value) => "    " ++ quote key ++ " = " ++ quote value ++ ";\n"

/-- The lines that make the shell. -/
def shellText (e : Expression) : String :=
  "pkgs.callPackage (\n" ++ formalsText e.formals ++ "  " ++ shellFunction ++ " \x7b\n"
    ++ listText "nativeBuildInputs" e.nativeBuildInputs
    ++ listText "buildInputs" e.buildInputs
    ++ String.join (e.attributes.map attributeText)
    ++ "  \x7d\n) \x7b \x7d\n"

/-- The text of the program. -/
def text (e : Expression) : String :=
  e.importText ++ e.shellText

end Expression

/-! ## Rendering -/

/-- The shell expression of a descriptor. -/
def render (d : Descriptor) (nixpkgs : String) (host : Option Platform) :
    Except ResolveError String :=
  (Expression.ofDescriptor d nixpkgs host).map Expression.text

/-- Everything that the shell expression of a descriptor depends on. -/
def expressionKey (d : Descriptor) (nixpkgs : String) (host : Option Platform) : Json :=
  .object [("environment", d.toJson), ("nixpkgs", .string nixpkgs),
    ("cross", .bool (d.isCross host))]

/-- The digest that names the shell expression of a descriptor. -/
def expressionDigest (d : Descriptor) (nixpkgs : String) (host : Option Platform) : Digest :=
  Digest.ofText (expressionKey d nixpkgs host).compact

end CrossShell.Nix
