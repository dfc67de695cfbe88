/-!
Looking for one text inside another.

`cut pattern s` splits `s` around the first occurrence of `pattern`; `between` takes the shortest
text after the first opening marker and before a closing one.
-/

set_option autoImplicit false

namespace CrossShell.Text

/-- The text before and after the first occurrence of `pattern`. -/
def cut (pattern : List Char) : List Char → Option (List Char × List Char)
  | [] => if pattern = [] then some ([], []) else none
  | c :: rest =>
    if pattern.isPrefixOf (c :: rest) then some ([], (c :: rest).drop pattern.length)
    else (cut pattern rest).map fun (before, after) => (c :: before, after)

/-- Whether `pattern` occurs in a text. -/
def occurs (pattern s : List Char) : Bool :=
  (cut pattern s).isSome

/-- What stands between the first `opening` and the first `closing` after it. -/
def between (s opening closing : List Char) : Option (List Char) := do
  let (_, after) ← cut opening s
  let (inner, _) ← cut closing after
  return inner

end CrossShell.Text
