import CrossShell.Machine.Path
import CrossShell.SortedMap
import CrossShell.Text.Search

/-!
Shells, and the scripts that give variables to them.

A script is a comment and one line for every variable. Values are quoted so that the shell reads
them back as they are.
-/

set_option autoImplicit false

namespace CrossShell

/-- A shell that scripts can be written for. -/
inductive Shell where
  | bash
  | zsh
  | fish
  | sh
  | powershell
  deriving DecidableEq, Repr

namespace Shell

/-! ## Names -/

/-- The name of a shell. -/
def name : Shell → String
  | .bash => "bash"
  | .zsh => "zsh"
  | .fish => "fish"
  | .sh => "sh"
  | .powershell => "powershell"

/-- Every shell, in the order of listings. -/
def all : List Shell :=
  [.bash, .zsh, .fish, .sh, .powershell]

theorem mem_all (s : Shell) : s ∈ all := by
  cases s <;> decide

/-- A text with small letters in place of capital ones. No other character becomes a letter of a
shell's name when it is written small. -/
def lowercase (text : String) : String :=
  String.ofList (text.toList.map Char.toLower)

/-- The shell with a name, in capital or small letters. One shell has a short name besides. -/
def ofName? (text : String) : Option Shell :=
  let small := lowercase text
  if small = "pwsh" then some .powershell else all.find? fun s => s.name = small

/-- The shell whose program has a name, which may say more than the name of the shell. -/
def ofProgramName (program : String) : Shell :=
  match ofName? program with
  | some s => s
  | none =>
    let small := (lowercase program).toList
    ([.zsh, .bash, .fish].find? fun s : Shell => Text.occurs s.name.toList small).getD .sh

/-- The shell of a user whose `SHELL` variable has a value. -/
def detect (path : Option String) : Shell :=
  match path with
  | none => .sh
  | some path => ofProgramName ((Machine.fileName? path).getD "")

/-! ## Quoting -/

/-- A text between single quotes, where `quoteMark` stands for a quote in it. -/
def singleQuoted (quoteMark : List Char) (value : String) : String :=
  String.ofList
    ('\'' :: value.toList.flatMap (fun c => if c = '\'' then quoteMark else [c]) ++ ['\''])

/-- A text as one word. Everywhere but in PowerShell a quote is written outside the quotes. -/
def quote (s : Shell) (value : String) : String :=
  match s with
  | .powershell => singleQuoted ['\'', '\''] value
  | _ => singleQuoted ['\'', '\\', '\'', '\''] value

/-! ## Scripts -/

/-- The line that gives a variable a value. -/
def exportLine (s : Shell) (key value : String) : String :=
  match s with
  | .fish => "set -gx " ++ key ++ " " ++ s.quote value
  | .powershell => "$env:" ++ key ++ " = " ++ s.quote value
  | _ => "export " ++ key ++ "=" ++ s.quote value

/-- The script that gives every variable its value, under a comment. -/
def exportScript (s : Shell) (header : String) (env : SortedMap String) : String :=
  "\n".intercalate
    (("# " ++ header) :: env.entries.map fun (key, value) => s.exportLine key value) ++ "\n"

end Shell

end CrossShell
