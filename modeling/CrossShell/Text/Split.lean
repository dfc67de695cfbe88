/-!
Text cut into pieces at a separator, and text cut into lines.

`fields sep s` keeps every piece between two separators, the empty ones included, so
`joinFields sep (fields sep s) = s`. `lines` cuts at line feeds, keeps no empty last line, and drops
the one carriage return that stands before a line feed.
-/

set_option autoImplicit false

namespace CrossShell.Text

/-! ## Fields -/

/-- The pieces of a text between the occurrences of `sep`; there is always at least one. -/
def fields (sep : Char) : List Char → List (List Char)
  | [] => [[]]
  | c :: rest =>
    if c = sep then [] :: fields sep rest
    else match fields sep rest with
      | [] => [[c]]
      | piece :: pieces => (c :: piece) :: pieces

/-- The pieces in order, `sep` between each two. -/
def joinFields (sep : Char) : List (List Char) → List Char
  | [] => []
  | [piece] => piece
  | piece :: pieces => piece ++ sep :: joinFields sep pieces

theorem fields_ne_nil (sep : Char) (s : List Char) : fields sep s ≠ [] := by
  cases s with
  | nil => simp [fields]
  | cons c rest =>
    unfold fields
    split
    · simp
    · split <;> simp

theorem joinFields_cons (sep : Char) (piece : List Char) {pieces : List (List Char)}
    (h : pieces ≠ []) :
    joinFields sep (piece :: pieces) = piece ++ sep :: joinFields sep pieces := by
  cases pieces with
  | nil => exact absurd rfl h
  | cons p ps => rfl

/-- Cutting loses nothing. -/
theorem joinFields_fields (sep : Char) (s : List Char) : joinFields sep (fields sep s) = s := by
  induction s with
  | nil => rfl
  | cons c rest ih =>
    unfold fields
    split
    · next h => rw [joinFields_cons sep [] (fields_ne_nil sep rest), ih, h]; rfl
    · cases hf : fields sep rest with
      | nil => exact absurd hf (fields_ne_nil sep rest)
      | cons piece pieces =>
        rw [hf] at ih
        cases pieces with
        | nil => simpa [joinFields] using ih
        | cons p ps => simpa [joinFields] using ih

/-- No piece holds the separator. -/
theorem not_mem_of_mem_fields {sep : Char} {s piece : List Char} (h : piece ∈ fields sep s) :
    sep ∉ piece := by
  induction s generalizing piece with
  | nil => simp_all [fields]
  | cons c rest ih =>
    unfold fields at h
    split at h
    · cases h with
      | head => simp
      | tail _ h => exact ih h
    · next hc =>
      cases hf : fields sep rest with
      | nil => exact absurd hf (fields_ne_nil sep rest)
      | cons p ps =>
        rw [hf] at h ih
        cases h with
        | head =>
          have hp : sep ∉ p := ih List.mem_cons_self
          intro hmem
          cases hmem with
          | head => exact hc rfl
          | tail _ hmem => exact hp hmem
        | tail _ h => exact ih (List.mem_cons_of_mem p h)

/-! ## Lines -/

/-- A line without the carriage return at its end. -/
def dropReturn (line : List Char) : List Char :=
  if line.getLast? = some '\r' then line.dropLast else line

/-- Lines from the pieces between line feeds: the last piece was not ended by a line feed, so it
keeps its carriage return and is no line when it is empty. -/
def linesOfFields : List (List Char) → List (List Char)
  | [] => []
  | [last] => if last = [] then [] else [last]
  | piece :: pieces => dropReturn piece :: linesOfFields pieces

/-- The lines of a text, without what ends them. -/
def lines (s : List Char) : List (List Char) :=
  linesOfFields (fields '\n' s)

end CrossShell.Text
