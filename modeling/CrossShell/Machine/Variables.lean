import CrossShell.Machine.Path
import CrossShell.Text.Utf8

/-!
The environment variables that matter, and the directories that they choose.

A variable whose bytes are no text counts as unset. Only the directory for temporary files is taken
as it is.
-/

set_option autoImplicit false

namespace CrossShell.Machine

/-- The environment variables that matter. -/
structure Variables where
  home : Option String
  cacheHome : Option String
  temporaryDirectory : Option String
  shell : Option String
  nixpkgs : Option String
  instantiateProgram : Option String
  shellProgram : Option String
  deriving DecidableEq, Repr

namespace Variables

/-- No variable is set. -/
def unset : Variables :=
  ⟨none, none, none, none, none, none, none⟩

/-- The names of the variables. -/
def names : List String :=
  ["HOME", "XDG_CACHE_HOME", "TMPDIR", "SHELL", "CROSSENV_NIXPKGS", "CROSSENV_NIX_INSTANTIATE",
   "CROSSENV_NIX_SHELL"]

/-- The variables of an environment that answers the bytes of a variable. -/
def ofBytes (bytes : String → Option ByteArray) : Variables :=
  let text := fun name => (bytes name).bind Text.decode?
  { home := text "HOME"
    cacheHome := text "XDG_CACHE_HOME"
    temporaryDirectory := (bytes "TMPDIR").map Text.decodeLossy
    shell := text "SHELL"
    nixpkgs := text "CROSSENV_NIXPKGS"
    instantiateProgram := text "CROSSENV_NIX_INSTANTIATE"
    shellProgram := text "CROSSENV_NIX_SHELL" }

/-- The user's home, or the directory for temporary files. -/
def homeDirectory (v : Variables) : String :=
  v.home.getD (v.temporaryDirectory.getD "/tmp")

/-- The directory for what can be made again. -/
def cacheDirectory (v : Variables) : String :=
  join (v.cacheHome.getD (join v.homeDirectory ".cache")) "crossenv"

/-- The directory for shell expressions. -/
def shellsDirectory (v : Variables) : String :=
  join v.cacheDirectory "shells"

end Variables

end CrossShell.Machine
