/-!
The characters of names: what a name starts with and goes on with in a shell, and in most other
languages.
-/

set_option autoImplicit false

namespace CrossShell.Text

/-- Whether a name can start with a character. -/
def startsName (c : Char) : Bool :=
  ('A' ≤ c && c ≤ 'Z') || ('a' ≤ c && c ≤ 'z') || c == '_'

/-- Whether a name can go on with a character. -/
def continuesName (c : Char) : Bool :=
  startsName c || ('0' ≤ c && c ≤ '9')

theorem startsName_eq (c : Char) : startsName c = (c.isAlpha || c == '_') := by
  have hupper : ('A' ≤ c && c ≤ 'Z') = c.isUpper := (Bool.decide_and ..).symm
  unfold startsName Char.isAlpha
  rw [hupper]
  rfl

theorem continuesName_eq (c : Char) : continuesName c = (c.isAlphanum || c == '_') := by
  unfold continuesName Char.isAlphanum
  rw [startsName_eq, Bool.or_assoc, Bool.or_comm (c == '_'), ← Bool.or_assoc]
  rfl

end CrossShell.Text
