import CrossShell.Descriptor
import CrossShell.Machine.Fault

/-!
Resolutions: what becomes of a descriptor when a package manager is asked for it.

The answer is a `Handle` on the environment or a `ResolveError`.
-/

set_option autoImplicit false

namespace CrossShell

/-! ## Failures -/

/-- Why an environment cannot be had. -/
inductive ResolveError where
  /-- The target as such is refused. -/
  | unsupportedTarget (error : TargetError)
  /-- There is no package of the name. -/
  | packageNotFound (name : String)
  /-- A package cannot be built for the target; which one may be unknown. -/
  | crossUnsupported (name : Option String) (target : String) (diagnostic : String)
  /-- A package cannot be built or fetched. -/
  | buildFailure (diagnostic : String)
  /-- The package manager's program is not there. -/
  | unavailable (program : String)
  /-- The operating system refused. -/
  | system (fault : Machine.Fault)
  deriving DecidableEq, Repr

/-- The text of a failure. -/
def ResolveError.message : ResolveError → String
  | .unsupportedTarget error => error.message
  | .packageNotFound name => "package not found: " ++ name
  | .crossUnsupported name target diagnostic =>
    "cross-compilation to " ++ target ++ " unsupported"
      ++ (match name with
        | some name => " for package '" ++ name ++ "'"
        | none => "")
      ++ ": " ++ diagnostic
  | .buildFailure diagnostic => "build failed:\n" ++ diagnostic
  | .unavailable program => "resolver program '" ++ program ++ "' not found"
  | .system fault => "io error: " ++ fault.message

/-! ## Handles -/

/-- What an environment was resolved to. -/
inductive Realization where
  /-- The path of a shell expression, and the derivation that it stands for. -/
  | nix (expression derivation : String)
  /-- Packages that a catalog has, in the order of the descriptor. -/
  | catalog (packages : List String)
  deriving DecidableEq, Repr

/-- An environment that can be had. -/
structure Handle where
  /-- The digest of the descriptor. -/
  digest : Digest
  target : Target
  realization : Realization
  deriving DecidableEq

/-- The realization as JSON. -/
def Realization.toJson : Realization → Json
  | .nix expression derivation =>
    .object [("kind", .string "nix"), ("expression", .string expression),
      ("derivation", .string derivation)]
  | .catalog packages =>
    .object [("kind", .string "catalog"), ("packages", .array (packages.map Json.string))]

/-- The handle as JSON. -/
def Handle.toJson (h : Handle) : Json :=
  .object [("hash", .string h.digest.text), ("target", h.target.toJson),
    ("realization", h.realization.toJson)]

end CrossShell
