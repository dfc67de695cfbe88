import CrossShell.Text.Split

/-!
Cutting a text that was joined at a separator gives back the pieces.
-/

set_option autoImplicit false

namespace CrossShell.Text

theorem fields_of_not_mem {sep : Char} {piece : List Char} (h : sep ∉ piece) :
    fields sep piece = [piece] := by
  induction piece with
  | nil => rfl
  | cons c piece ih =>
    obtain ⟨hc, hpiece⟩ := not_or.1 (mt List.mem_cons.2 h)
    have hne : ¬ c = sep := fun heq => hc heq.symm
    rw [fields, if_neg hne, ih hpiece]

theorem fields_append (sep : Char) (a b : List Char) :
    fields sep (a ++ sep :: b) = fields sep a ++ fields sep b := by
  induction a with
  | nil => simp [fields]
  | cons c a ih =>
    rw [List.cons_append, fields, fields]
    by_cases hc : c = sep
    · rw [if_pos hc, if_pos hc, ih]
      rfl
    · rw [if_neg hc, if_neg hc, ih]
      cases ha : fields sep a with
      | nil => exact absurd ha (fields_ne_nil sep a)
      | cons piece pieces => rfl

/-- The first piece of a joined text, where it does not hold the separator. -/
theorem fields_cons_sep {sep : Char} {piece : List Char} (h : sep ∉ piece) (s : List Char) :
    fields sep (piece ++ sep :: s) = piece :: fields sep s := by
  rw [fields_append, fields_of_not_mem h]
  rfl

theorem fields_joinFields {sep : Char} {pieces : List (List Char)} (hsome : pieces ≠ [])
    (h : ∀ piece ∈ pieces, sep ∉ piece) : fields sep (joinFields sep pieces) = pieces := by
  induction pieces with
  | nil => exact absurd rfl hsome
  | cons piece pieces ih =>
    have hpiece := h piece List.mem_cons_self
    cases pieces with
    | nil => exact fields_of_not_mem hpiece
    | cons next rest =>
      rw [joinFields_cons sep piece (List.cons_ne_nil next rest), fields_cons_sep hpiece,
        ih (List.cons_ne_nil next rest) fun p hp => h p (List.mem_cons_of_mem piece hp)]

theorem of_mem_joinFields {sep c : Char} {pieces : List (List Char)}
    (h : c ∈ joinFields sep pieces) : c = sep ∨ ∃ piece ∈ pieces, c ∈ piece := by
  induction pieces with
  | nil => cases h
  | cons piece pieces ih =>
    cases pieces with
    | nil => exact .inr ⟨piece, List.mem_cons_self, h⟩
    | cons next rest =>
      rw [joinFields_cons sep piece (List.cons_ne_nil next rest)] at h
      obtain hpiece | hsep | hrest := by simpa only [List.mem_append, List.mem_cons] using h
      · exact .inr ⟨piece, List.mem_cons_self, hpiece⟩
      · exact .inl hsep
      · exact (ih hrest).imp_right fun ⟨p, hp, hc⟩ => ⟨p, List.mem_cons_of_mem piece hp, hc⟩

end CrossShell.Text
