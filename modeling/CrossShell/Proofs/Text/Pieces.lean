import CrossShell.Proofs.Text.Search
import CrossShell.Text.Split

/-!
Where a text that is cut into pieces first holds another text.

A pattern without the separator does not reach over the end of a piece, so it occurs in a text if
and only if it occurs in a piece of it. It is first found in the first piece that has it, and there
where the piece has it first.
-/

set_option autoImplicit false

namespace CrossShell.Text

variable {sep : Char} {pattern s front back before after piece : List Char}
  {pieces earlier later : List (List Char)}

/-! ## Longer texts -/

/-- What comes after a text does not change where a pattern is first found in it. -/
theorem IsCut.append (h : IsCut pattern s before after) (more : List Char) :
    IsCut pattern (s ++ more) before (after ++ more) := by
  obtain ⟨heq, hfirst⟩ := h
  refine ⟨by rw [heq, List.append_assoc], fun a b hab => Nat.le_of_not_lt fun hlt => ?_⟩
  have hlength : (a ++ pattern).length ≤ s.length := by
    rw [heq]
    simp only [List.length_append]
    omega
  have hprefix : a ++ pattern <+: s := by
    have hboth : a ++ pattern <+: s ++ more := ⟨b, hab.symm⟩
    exact List.prefix_of_prefix_length_le hboth (List.prefix_append s more) hlength
  obtain ⟨b', hb'⟩ := hprefix
  exact absurd (hfirst a b' hb'.symm) (Nat.not_le.2 hlt)

/-- A pattern without a character is found before it or behind it. -/
theorem occurrence_cases (hsep : sep ∉ pattern) {a b : List Char}
    (h : front ++ sep :: back = a ++ pattern ++ b) :
    (∃ b', front = a ++ pattern ++ b') ∨
      ∃ a', a = front ++ sep :: a' ∧ back = a' ++ pattern ++ b := by
  obtain ⟨c, hends, hrest⟩ | ⟨b', hfront, -⟩ := List.append_eq_append_iff.1 h
  · cases c with
    | nil =>
      rw [List.append_nil] at hends
      exact .inl ⟨[], by rw [List.append_nil, hends]⟩
    | cons d c =>
      obtain ⟨rfl, rfl⟩ := List.cons.inj hrest
      obtain ⟨d, hfront, hpattern⟩ | ⟨a', rfl, hpattern⟩ := List.append_eq_append_iff.1 hends
      · refine absurd ?_ hsep
        rw [hpattern]
        exact List.mem_append_right d List.mem_cons_self
      · cases a' with
        | nil =>
          refine absurd ?_ hsep
          rw [← List.nil_append pattern, ← hpattern]
          exact List.mem_cons_self
        | cons e a' =>
          obtain ⟨rfl, rfl⟩ := List.cons.inj hpattern
          exact .inr ⟨a', rfl, rfl⟩
  · exact .inl ⟨b', hfront⟩

theorem IsCut.of_behind (hsep : sep ∉ pattern) (hfront : ¬ pattern <:+: front)
    (h : IsCut pattern back before after) :
    IsCut pattern (front ++ sep :: back) (front ++ sep :: before) after := by
  obtain ⟨heq, hfirst⟩ := h
  refine ⟨by rw [heq]; simp only [List.append_assoc, List.cons_append], fun a b hab => ?_⟩
  obtain ⟨b', hinside⟩ | ⟨a', rfl, hbehind⟩ := occurrence_cases hsep hab
  · exact absurd ⟨a, b', hinside.symm⟩ hfront
  · have hlength := hfirst a' b hbehind
    simp only [List.length_append, List.length_cons]
    omega

theorem infix_append_sep_iff (hsep : sep ∉ pattern) :
    pattern <:+: front ++ sep :: back ↔ pattern <:+: front ∨ pattern <:+: back := by
  constructor
  · rintro ⟨a, b, hab⟩
    obtain ⟨b', hfront⟩ | ⟨a', -, hback⟩ := occurrence_cases hsep hab.symm
    · exact .inl ⟨a, b', hfront.symm⟩
    · exact .inr ⟨a', b, hback.symm⟩
  · rintro (hfront | hback)
    · exact hfront.trans (List.infix_append' [] front (sep :: back))
    · exact hback.trans ((List.suffix_cons sep back).isInfix.trans
        (List.suffix_append front (sep :: back)).isInfix)

/-! ## Pieces -/

theorem infix_joinFields_iff (hsep : sep ∉ pattern) (hsome : pieces ≠ []) :
    pattern <:+: joinFields sep pieces ↔ ∃ piece ∈ pieces, pattern <:+: piece := by
  induction pieces with
  | nil => exact absurd rfl hsome
  | cons piece pieces ih =>
    cases pieces with
    | nil => simp [joinFields]
    | cons next rest =>
      rw [joinFields_cons sep piece (List.cons_ne_nil next rest), infix_append_sep_iff hsep,
        ih (List.cons_ne_nil next rest)]
      simp only [List.mem_cons, exists_eq_or_imp]

/-- A pattern without the separator occurs in a text if and only if it occurs in a piece. -/
theorem infix_iff_exists_mem_fields (hsep : sep ∉ pattern) :
    pattern <:+: s ↔ ∃ piece ∈ fields sep s, pattern <:+: piece := by
  rw [← infix_joinFields_iff hsep (fields_ne_nil sep s), joinFields_fields]

/-- The text before a piece that comes after others. -/
def lead (sep : Char) (earlier : List (List Char)) : List Char :=
  earlier.flatMap fun piece => piece ++ [sep]

theorem lead_cons (sep : Char) (piece : List Char) (earlier : List (List Char)) :
    lead sep (piece :: earlier) = piece ++ sep :: lead sep earlier := by
  rw [lead, List.flatMap_cons, List.append_assoc]
  rfl

theorem joinFields_append_cons (sep : Char) (earlier : List (List Char)) (piece : List Char)
    (later : List (List Char)) :
    joinFields sep (earlier ++ piece :: later)
      = lead sep earlier ++ joinFields sep (piece :: later) := by
  induction earlier with
  | nil => rfl
  | cons first earlier ih =>
    have hmore : earlier ++ piece :: later ≠ [] := by simp
    rw [List.cons_append, joinFields_cons sep first hmore, ih, lead_cons, List.append_assoc,
      List.cons_append]

theorem exists_rest_of_fields (h : fields sep s = earlier ++ piece :: later) :
    ∃ rest, s = lead sep earlier ++ (piece ++ rest) := by
  rw [← joinFields_fields sep s, h, joinFields_append_cons]
  cases later with
  | nil => exact ⟨[], by rw [List.append_nil]; rfl⟩
  | cons next later =>
    exact ⟨sep :: joinFields sep (next :: later), by
      rw [joinFields_cons sep piece (List.cons_ne_nil next later)]⟩

/-- A pattern is not found before the first piece that has it. -/
theorem IsCut.of_lead (hsep : sep ∉ pattern) (hearlier : ∀ piece ∈ earlier, ¬ pattern <:+: piece)
    (h : IsCut pattern s before after) :
    IsCut pattern (lead sep earlier ++ s) (lead sep earlier ++ before) after := by
  induction earlier with
  | nil => exact h
  | cons piece earlier ih =>
    have hrest := ih fun p hp => hearlier p (List.mem_cons_of_mem piece hp)
    have hcut := IsCut.of_behind hsep (hearlier piece List.mem_cons_self) hrest
    rw [lead_cons, List.append_assoc, List.append_assoc, List.cons_append, List.cons_append]
    exact hcut

/-- A pattern that is found behind some pieces occurs in none of them. -/
theorem IsCut.not_infix_of_lead
    (h : IsCut pattern (lead sep earlier ++ s) (lead sep earlier ++ before) after) :
    ∀ piece ∈ earlier, ¬ pattern <:+: piece := by
  rintro piece hpiece ⟨a, b, hab⟩
  obtain ⟨front, back, rfl⟩ := List.append_of_mem hpiece
  have hlead : lead sep (front ++ piece :: back)
      = lead sep front ++ a ++ pattern ++ (b ++ sep :: lead sep back) := by
    simp only [lead, List.flatMap_append, List.flatMap_cons, ← hab, List.append_assoc,
      List.cons_append, List.nil_append]
  have hfirst := h.2 (lead sep front ++ a) (b ++ sep :: lead sep back ++ s) (by
    rw [hlead]
    simp only [List.append_assoc])
  rw [hlead] at hfirst
  simp only [List.length_append, List.length_cons] at hfirst
  omega

end CrossShell.Text
