/-!
The ways in which the operating system refuses to read, write or start something.
-/

set_option autoImplicit false

namespace CrossShell.Machine

/-- A refusal of the operating system, or a file that does not hold what was wanted of it. -/
inductive Fault where
  /-- Nothing is there. -/
  | notFound
  /-- What is there must not be used in this way. -/
  | permissionDenied
  /-- Something is there already. -/
  | alreadyExists
  /-- What stands before the last name of a path is no directory. -/
  | notADirectory
  /-- A directory is there where a file was wanted. -/
  | isADirectory
  /-- A name of a path is longer than names can be. -/
  | nameTooLong
  /-- A path holds the character that ends paths. -/
  | nulInName
  /-- An argument of a program holds the character that ends arguments. -/
  | nulInArgument
  /-- The bytes of a file are no text. -/
  | notText
  deriving DecidableEq, Repr

/-- What a refusal is called, and the number that the system has for it, if it has one. -/
def Fault.description : Fault → String × Option Nat
  | .notFound => ("No such file or directory", some 2)
  | .permissionDenied => ("Permission denied", some 13)
  | .alreadyExists => ("File exists", some 17)
  | .notADirectory => ("Not a directory", some 20)
  | .isADirectory => ("Is a directory", some 21)
  | .nameTooLong => ("File name too long", some 36)
  | .nulInName => ("file name contained an unexpected NUL byte", none)
  | .nulInArgument => ("nul byte found in provided data", none)
  | .notText => ("stream did not contain valid UTF-8", none)

/-- The text of a refusal. -/
def Fault.message (fault : Fault) : String :=
  match fault.description with
  | (text, some number) => text ++ " (os error " ++ toString number ++ ")"
  | (text, none) => text

end CrossShell.Machine
