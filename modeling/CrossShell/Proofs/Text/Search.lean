import CrossShell.Text.Search

/-!
Where one text is first found inside another.

`IsCut` says without a search that two parts stand around the first occurrence of a pattern. A text
has one such cut if the pattern occurs in it, and none otherwise.
-/

set_option autoImplicit false

namespace CrossShell.Text

variable {pattern s before after : List Char}

/-- Two parts of a text stand around a pattern that begins nowhere earlier. -/
def IsCut (pattern s before after : List Char) : Prop :=
  s = before ++ pattern ++ after ∧ ∀ a b, s = a ++ pattern ++ b → before.length ≤ a.length

theorem not_isCut_nil (h : pattern ≠ []) : ¬ IsCut pattern [] before after := by
  rintro ⟨heq, -⟩
  obtain ⟨hparts, -⟩ := List.append_eq_nil_iff.1 heq.symm
  exact h (List.append_eq_nil_iff.1 hparts).2

theorem isCut_of_prefix (h : pattern <+: s) :
    IsCut pattern s before after ↔ before = [] ∧ after = s.drop pattern.length := by
  obtain ⟨rest, rfl⟩ := h
  rw [List.drop_left]
  constructor
  · rintro ⟨heq, hfirst⟩
    have hnil : before = [] := List.eq_nil_of_length_eq_zero (Nat.le_zero.1 (hfirst [] rest rfl))
    subst hnil
    exact ⟨rfl, (List.append_cancel_left heq).symm⟩
  · rintro ⟨rfl, rfl⟩
    exact ⟨rfl, fun a _ _ => Nat.zero_le a.length⟩

theorem isCut_cons {c : Char} {rest : List Char} (h : ¬ pattern <+: c :: rest) :
    IsCut pattern (c :: rest) before after ↔
      ∃ more, before = c :: more ∧ IsCut pattern rest more after := by
  constructor
  · rintro ⟨heq, hfirst⟩
    cases before with
    | nil => exact absurd ⟨after, heq.symm⟩ h
    | cons d more =>
      obtain ⟨rfl, hrest⟩ := List.cons.inj heq
      refine ⟨more, rfl, hrest, fun a b hab => ?_⟩
      have hlength := hfirst (c :: a) b (congrArg (c :: ·) hab)
      exact Nat.le_of_succ_le_succ hlength
  · rintro ⟨more, rfl, heq, hfirst⟩
    refine ⟨congrArg (c :: ·) heq, fun a b hab => ?_⟩
    cases a with
    | nil => exact absurd ⟨b, hab.symm⟩ h
    | cons d a =>
      obtain ⟨-, hrest⟩ := List.cons.inj hab
      exact Nat.succ_le_succ (hfirst a b hrest)

theorem cut_eq_some_iff : cut pattern s = some (before, after) ↔ IsCut pattern s before after := by
  induction s generalizing before with
  | nil =>
    unfold cut
    by_cases hp : pattern = []
    · rw [if_pos hp, isCut_of_prefix (hp ▸ List.prefix_rfl), List.drop_nil, Option.some_inj,
        Prod.mk.injEq, eq_comm, eq_comm (a := ([] : List Char)) (b := after)]
    · rw [if_neg hp]
      exact ⟨fun h => absurd h (Option.some_ne_none _).symm, fun h => absurd h (not_isCut_nil hp)⟩
  | cons c rest ih =>
    unfold cut
    by_cases hp : pattern <+: c :: rest
    · rw [if_pos (List.isPrefixOf_iff_prefix.2 hp), isCut_of_prefix hp, Option.some_inj,
        Prod.mk.injEq, eq_comm, eq_comm (b := after)]
    · rw [if_neg (mt List.isPrefixOf_iff_prefix.1 hp), isCut_cons hp, Option.map_eq_some_iff]
      constructor
      · rintro ⟨⟨more, after'⟩, hcut, heq⟩
        obtain ⟨rfl, rfl⟩ := Prod.mk.inj heq
        exact ⟨more, rfl, ih.1 hcut⟩
      · rintro ⟨more, rfl, hcut⟩
        exact ⟨(more, after), ih.2 hcut, rfl⟩

theorem cut_eq_none_iff : cut pattern s = none ↔ ¬ pattern <:+: s := by
  induction s with
  | nil =>
    unfold cut
    rw [List.infix_nil]
    split <;> simp_all
  | cons c rest ih =>
    unfold cut
    rw [List.infix_cons_iff, not_or]
    by_cases hp : pattern <+: c :: rest
    · rw [if_pos (List.isPrefixOf_iff_prefix.2 hp)]
      exact ⟨fun h => absurd h (Option.some_ne_none _), fun h => absurd hp h.1⟩
    · rw [if_neg (mt List.isPrefixOf_iff_prefix.1 hp), Option.map_eq_none_iff, ih]
      exact ⟨fun h => ⟨hp, h⟩, fun h => h.2⟩

theorem occurs_iff : occurs pattern s = true ↔ pattern <:+: s := by
  unfold occurs
  rw [Option.isSome_iff_ne_none, ne_eq, cut_eq_none_iff, Classical.not_not]

theorem between_eq_some_iff {opening closing inner : List Char} :
    between s opening closing = some inner ↔
      ∃ before rest after, IsCut opening s before rest ∧ IsCut closing rest inner after := by
  unfold between
  simp only [Option.bind_eq_bind, Option.bind_eq_some_iff, Option.pure_def, Option.some_inj]
  constructor
  · rintro ⟨⟨before, rest⟩, hopening, ⟨inner', after⟩, hclosing, rfl⟩
    exact ⟨before, rest, after, cut_eq_some_iff.1 hopening, cut_eq_some_iff.1 hclosing⟩
  · rintro ⟨before, rest, after, hopening, hclosing⟩
    exact ⟨(before, rest), cut_eq_some_iff.2 hopening, (inner, after), cut_eq_some_iff.2 hclosing,
      rfl⟩

theorem exists_isCut (h : pattern <:+: s) : ∃ before after, IsCut pattern s before after := by
  obtain ⟨parts, hparts⟩ := Option.ne_none_iff_exists'.1 (mt cut_eq_none_iff.1 (not_not_intro h))
  exact ⟨parts.1, parts.2, cut_eq_some_iff.1 hparts⟩

theorem IsCut.unique {before' after' : List Char} (h : IsCut pattern s before after)
    (h' : IsCut pattern s before' after') : before = before' ∧ after = after' := by
  have hcut := cut_eq_some_iff.2 h
  rw [cut_eq_some_iff.2 h'] at hcut
  obtain ⟨rfl, rfl⟩ := Prod.mk.inj (Option.some.inj hcut)
  exact ⟨rfl, rfl⟩

theorem between_eq_none_iff {opening closing : List Char} :
    between s opening closing = none ↔
      ¬ opening <:+: s ∨ ∃ before rest, IsCut opening s before rest ∧ ¬ closing <:+: rest := by
  rw [Option.eq_none_iff_forall_ne_some]
  constructor
  · intro h
    by_cases hopening : opening <:+: s
    · obtain ⟨before, rest, hcut⟩ := exists_isCut hopening
      refine .inr ⟨before, rest, hcut, fun hclosing => ?_⟩
      obtain ⟨inner, after, hinner⟩ := exists_isCut hclosing
      exact h inner (between_eq_some_iff.2 ⟨before, rest, after, hcut, hinner⟩)
    · exact .inl hopening
  · intro h inner hsome
    obtain ⟨before, rest, after, hopening, hclosing⟩ := between_eq_some_iff.1 hsome
    obtain hmissing | ⟨before', rest', hopening', hmissing⟩ := h
    · exact hmissing ⟨before, rest, hopening.1.symm⟩
    · obtain ⟨-, rfl⟩ := hopening.unique hopening'
      exact hmissing ⟨inner, after, hclosing.1.symm⟩

/-- A part that does not hold the first character of the pattern stands before the first occurrence
of it. -/
theorem isCut_of_not_mem {c : Char} {rest : List Char} (h : c ∉ before) :
    IsCut (c :: rest) (before ++ (c :: rest) ++ after) before after := by
  refine ⟨rfl, fun a b hab => Nat.le_of_not_lt fun hlength => h ?_⟩
  have hc : (before ++ (c :: rest) ++ after)[a.length]? = some c := by
    rw [hab]
    simp
  rw [List.append_assoc, List.getElem?_append_left hlength] at hc
  exact List.mem_of_getElem? hc

/-- A character at the end that a pattern does not have makes no difference. -/
theorem occurs_concat {c : Char} (hne : pattern ≠ []) (h : c ∉ pattern) (s : List Char) :
    occurs pattern (s ++ [c]) = occurs pattern s := by
  have hsuffix : ¬ pattern <:+ s ++ [c] := by
    rw [List.suffix_concat_iff]
    rintro (hnil | ⟨t, rfl, -⟩)
    · exact hne hnil
    · exact h (List.mem_append_right t List.mem_cons_self)
  rw [Bool.eq_iff_iff, occurs_iff, occurs_iff, List.infix_concat_iff]
  exact ⟨fun hor => hor.resolve_left hsuffix, Or.inr⟩

end CrossShell.Text
