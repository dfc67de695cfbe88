import CrossShell.Resolution
import CrossShell.Text.Blank
import CrossShell.Text.Search
import CrossShell.Text.Split

/-!
Diagnoses: what the complaints of a failed Nix program mean.

`diagnose` looks for phrases in what the program wrote to its error output, without the escape
sequences that colour it. A missing package counts only if it is one that was asked for; what is
recognised as neither a missing package nor an unsupported platform is handed on as it is.
-/

set_option autoImplicit false

namespace CrossShell.Nix

/-! ## Escape sequences -/

/-- The text without escape sequences; `inside` says whether one has begun. A sequence lasts until
its first letter. -/
def stripFrom (inside : Bool) : List Char → List Char
  | [] => []
  | c :: rest =>
    if inside then stripFrom (!c.isAlpha) rest
    else if c = '\x1b' then stripFrom true rest
    else c :: stripFrom false rest

/-- The text without escape sequences. -/
def stripEscapes (text : List Char) : List Char :=
  stripFrom false text

/-! ## Phrases -/

/-- What stands around the name of a missing package. -/
def missingMarkers : List (String × String) :=
  [("called without required argument '", "'"),
   ("undefined variable '", "'"),
   ("attribute '", "' missing")]

/-- What is said of a package or a system that does not suit the target. -/
def crossMarkers : List String :=
  ["is not available on the requested hostPlatform", "is not supported on", "Unsupported system",
   "Unknown CPU type", "Unknown kernel", "Unknown ABI"]

/-- What stands before the name of a package that is complained about. -/
def packageOpening : String := "Package ‘"

/-- What stands after the name of a package that is complained about. -/
def packageClosing : String := "’"

/-- The wanted package that a text calls missing with one kind of phrase. -/
def missingWith? (text : List Char) (packages : List String) (marker : String × String) :
    Option String :=
  match Text.between text marker.1.toList marker.2.toList with
  | none => none
  | some name =>
    if packages.contains (String.ofList name) then some (String.ofList name) else none

/-- The wanted package that a text calls missing. -/
def missingPackage? (text : List Char) (packages : List String) : Option String :=
  missingMarkers.findSome? (missingWith? text packages)

/-- Whether a text complains about the target. -/
def complainsOfPlatform (text : List Char) : Bool :=
  crossMarkers.any fun marker => Text.occurs marker.toList text

/-! ## Names and lines -/

/-- Whether a piece of a store name is part of a version. -/
def startsWithDigit (piece : List Char) : Bool :=
  match piece with
  | [] => false
  | c :: _ => c.isDigit

/-- The name of a package without the pieces of its version at the end. -/
def packageOfStoreName (name : List Char) : List Char :=
  match Text.fields '-' name with
  | [] => []
  | first :: rest => Text.joinFields '-' (first :: (rest.reverse.dropWhile startsWithDigit).reverse)

/-- The line that tells most: the first that speaks of an error, else the first. -/
def tellingLine (text : List Char) : List Char :=
  let lines := Text.lines text
  match lines.find? (Text.occurs "error:".toList) with
  | some line => Text.trim line
  | none => Text.trim (lines.head?.getD [])

/-! ## Diagnosing -/

/-- What a failed program's error output means for a target and the packages asked for. -/
def diagnose (stderr target : String) (packages : List String) : ResolveError :=
  let text := stripEscapes stderr.toList
  match missingPackage? text packages with
  | some name => .packageNotFound name
  | none =>
    if complainsOfPlatform text then
      let name := (Text.between text packageOpening.toList packageClosing.toList).map
        fun name => String.ofList (packageOfStoreName name)
      .crossUnsupported name target (String.ofList (tellingLine text))
    else .buildFailure stderr

end CrossShell.Nix
