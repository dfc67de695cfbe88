import CrossShell.Machine
import CrossShell.Target

/-!
Starter files: a config for a target to begin with, and settings for an editor of configs.
-/

set_option autoImplicit false

namespace CrossShell.Starter

/-! ## Contents -/

/-- The config with a text in the place of the target. -/
def scriptWith (target : String) : String :=
  "-- crossenv shell definition\n"
    ++ "--\n"
    ++ "-- native_build_inputs run on the build machine (compilers, pkg-config).\n"
    ++ "-- build_inputs are built for the target (libraries you link against).\n"
    ++ "return \x7b\n"
    ++ "  target = \"" ++ target ++ "\",\n"
    ++ "  native_build_inputs = \x7b \"gcc\", \"pkg-config\" \x7d,\n"
    ++ "  build_inputs = \x7b\x7d,\n"
    ++ "\x7d\n"

/-- The config of a target. -/
def script (t : Target) : String :=
  scriptWith t.triple

/-- The config with the place of the target marked. -/
def scriptPattern : String :=
  scriptWith "\x7btarget\x7d"

/-- The settings for an editor. -/
def editorSettings : String :=
  "\x7b\n"
    ++ "  \"$schema\": "
    ++ "\"https://raw.githubusercontent.com/LuaLS/vscode-lua/master/setting/schema.json\",\n"
    ++ "  \"runtime\": \x7b\n"
    ++ "    \"version\": \"Lua 5.4\"\n"
    ++ "  \x7d,\n"
    ++ "  \"diagnostics\": \x7b\n"
    ++ "    \"globals\": [\"crossenv\"]\n"
    ++ "  \x7d\n"
    ++ "\x7d\n"

/-! ## Files -/

/-- The paths of the starter files. -/
structure Files where
  script : String
  settings : String
  deriving DecidableEq, Repr

/-- The name of a config where none is given. -/
def scriptName : String := "shell.lua"

/-- Why the files were not written. -/
inductive Error where
  /-- Something has the name of one of the files. -/
  | taken (path : String)
  /-- The directory cannot be made. -/
  | directory (path : String) (fault : Machine.Fault)
  /-- A file cannot be written. -/
  | file (path : String) (fault : Machine.Fault)
  deriving DecidableEq, Repr

/-- The text of an error. -/
def Error.message : Error → String
  | .taken path => "file already exists: " ++ path
  | .directory path fault => "failed to create directory " ++ path ++ ": " ++ fault.message
  | .file path fault => "failed to write file " ++ path ++ ": " ++ fault.message

/-- The starter files of a directory. -/
def filesIn (directory : String) : Files :=
  ⟨Machine.join directory scriptName, Machine.join directory ".luarc.json"⟩

/-- Refuses a path at which something stands. -/
def refuseTaken (path : String) : Machine.Action Error Unit := do
  if ← Machine.has path then throw (.taken path)

/-- Writes one of the files. -/
def write (path text : String) : Machine.Action Error Unit :=
  Machine.explain (.file path) (Machine.writeText path text)

/-- Writes the starter files for a target into a directory, which is made if need be. Files that are
there stay as they are, unless `force` says otherwise. -/
def install (directory : String) (target : Target) (force : Bool) : Machine.Action Error Files := do
  Machine.explain (.directory directory) (Machine.makeDirectories directory)
  let files := filesIn directory
  if !force then
    refuseTaken files.script
    refuseTaken files.settings
  write files.script (script target)
  write files.settings editorSettings
  return files

end CrossShell.Starter
