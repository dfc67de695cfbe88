/-!
The arguments of a command line.

An argument is a flag, an option with a value, or else positional. A flag and an option have a long
name after two dashes and may have a letter after one; letters can stand together. After two dashes
alone every argument is positional. `read` sorts arguments by a list of what is known; whatever
does not fit is a wrong use, and so is a flag or an option that is given twice.
-/

set_option autoImplicit false

namespace CrossShell.Command

/-- Whether an option has a value. -/
inductive Kind where
  /-- The argument is given or not. -/
  | flag
  /-- The argument has a value. -/
  | option
  /-- The argument has a value that is not empty. -/
  | pathOption
  deriving DecidableEq, Repr

/-- A flag or an option. -/
structure Known where
  long : String
  letter : Option Char
  kind : Kind
  deriving DecidableEq, Repr

/-- Why there is nothing to be carried out. -/
inductive Stop where
  /-- The arguments do not fit together. -/
  | wrongUse
  /-- The user asks for help. -/
  | help
  /-- The user asks for the version. -/
  | version
  deriving DecidableEq, Repr

/-- The arguments that were read so far. -/
structure Given where
  flags : List String
  options : List (String × String)
  positional : List String
  /-- The option whose value comes next. -/
  pending : Option Known
  /-- Whether every further argument is positional. -/
  literal : Bool
  deriving DecidableEq, Repr

namespace Given

/-- Nothing was read. -/
def nothing : Given :=
  ⟨[], [], [], none, false⟩

/-- Whether a flag is given. -/
def hasFlag (g : Given) (long : String) : Bool :=
  g.flags.contains long

/-- The value of an option. -/
def option? (g : Given) (long : String) : Option String :=
  g.options.lookup long

/-! ## Taking arguments -/

/-- Takes a flag. Help and version are answered at once. -/
def takeFlag (g : Given) (k : Known) : Except Stop Given :=
  if k.long = "help" then .error .help
  else if k.long = "version" then .error .version
  else if g.flags.contains k.long then .error .wrongUse
  else .ok { g with flags := g.flags ++ [k.long] }

/-- Takes the value of an option. -/
def takeValue (g : Given) (k : Known) (value : String) : Except Stop Given :=
  if (g.option? k.long).isSome ∨ (k.kind = .pathOption ∧ value = "") then .error .wrongUse
  else .ok { g with options := g.options ++ [(k.long, value)], pending := none }

/-- Takes an argument after two dashes. -/
def takeLong (g : Given) (known : List Known) (body : List Char) : Except Stop Given :=
  let name := String.ofList (body.takeWhile (· ≠ '='))
  match known.find? fun k => k.long = name, body.dropWhile (· ≠ '=') with
  | none, _ => .error .wrongUse
  | some k, _ :: value =>
    if k.kind = .flag then .error .wrongUse else g.takeValue k (String.ofList value)
  | some k, [] => if k.kind = .flag then g.takeFlag k else .ok { g with pending := some k }

/-- Takes the letters after one dash. What follows the letter of an option is its value. -/
def takeLetters (g : Given) (known : List Known) : List Char → Except Stop Given
  | [] => .ok g
  | c :: rest =>
    match known.find? fun k => k.letter = some c with
    | none => .error .wrongUse
    | some k =>
      if k.kind = .flag then
        match g.takeFlag k with
        | .ok g' => takeLetters g' known rest
        | .error stop => .error stop
      else match rest with
        | [] => .ok { g with pending := some k }
        | '=' :: value => g.takeValue k (String.ofList value)
        | value => g.takeValue k (String.ofList value)

/-- Takes a positional argument, of which there are at most `limit`. -/
def takePositional (g : Given) (limit : Nat) (argument : String) : Except Stop Given :=
  if limit ≤ g.positional.length then .error .wrongUse
  else .ok { g with positional := g.positional ++ [argument] }

/-- Takes an argument. -/
def take (known : List Known) (limit : Nat) (g : Given) (argument : String) : Except Stop Given :=
  match g.literal, argument.toList, g.pending with
  | false, ['-', '-'], none => .ok { g with literal := true }
  | false, '-' :: '-' :: body, none => g.takeLong known body
  | false, '-' :: c :: rest, none => g.takeLetters known (c :: rest)
  | false, '-' :: _ :: _, some _ => .error .wrongUse
  | _, _, some k => g.takeValue k argument
  | _, _, none => g.takePositional limit argument

end Given

/-- Sorts arguments of which at most `limit` may be positional. -/
def read (known : List Known) (limit : Nat) (arguments : List String) : Except Stop Given := do
  let g ← arguments.foldlM (Given.take known limit) Given.nothing
  if g.pending.isSome then throw .wrongUse
  return g

end CrossShell.Command
