import CrossShell.Proofs.Target.Language

/-!
Combinations of fields and the triples that they make.

The vendor of a combination is any text. A vendor with dashes makes a triple with more fields, and
in none of the ways to cut it are these the fields of a target: with one dash an operating system
would have to be an ABI, with more there are too many fields. So a combination is a target exactly
if its triple is read, and then as that target.
-/

set_option autoImplicit false

namespace CrossShell

/-- What is read back from its name has a name of its own. -/
theorem injective_of_read {α : Type} {name : α → String} {read? : String → Option α}
    (hread : ∀ a, read? (name a) = some a) : Function.Injective name := by
  intro a b hsame
  have hself := hread a
  rw [hsame, hread b] at hself
  exact (Option.some_inj.1 hself).symm

theorem Arch.name_injective : Function.Injective Arch.name :=
  injective_of_read Arch.ofName?_name

theorem Os.tripleName_injective : Function.Injective Os.tripleName :=
  injective_of_read Os.ofTripleName?_tripleName

theorem Abi.name_injective : Function.Injective Abi.name :=
  injective_of_read Abi.ofName?_name

theorem Os.tripleName_ne_name (o : Os) (a : Abi) : o.tripleName ≠ a.name := by
  cases o <;> cases a <;> decide

namespace Target

variable {t t' : Target} {arch : Arch} {vendor : String} {os : Os} {abi : Option Abi}

/-! ## Cutting a triple -/

theorem splitTriple_ne_nil (s : String) : splitTriple s ≠ [] := by
  have hfields := Text.fields_ne_nil '-' s.toList
  unfold splitTriple
  rwa [ne_eq, List.map_eq_nil_iff]

/-- The vendor is cut wherever it has a dash, every other field stays whole. -/
theorem splitTriple_tripleOf_vendor (arch : Arch) (vendor : String) (os : Os) (abi : Option Abi) :
    splitTriple (tripleOf arch vendor os abi) =
      arch.name :: (splitTriple vendor ++ os.tripleName :: (abi.map Abi.name).toList) := by
  cases abi with
  | none =>
    have htext : (tripleOf arch vendor os none).toList
        = arch.name.toList ++ '-' :: (vendor.toList ++ '-' :: os.tripleName.toList) := by
      simp [tripleOf]
    unfold splitTriple
    rw [htext, Text.fields_cons_sep arch.dash_not_mem_name, Text.fields_append,
      Text.fields_of_not_mem os.dash_not_mem_tripleName]
    simp
  | some abi =>
    have htext : (tripleOf arch vendor os (some abi)).toList
        = arch.name.toList ++ '-' :: (vendor.toList ++ '-' ::
          (os.tripleName.toList ++ '-' :: abi.name.toList)) := by
      simp [tripleOf]
    unfold splitTriple
    rw [htext, Text.fields_cons_sep arch.dash_not_mem_name, Text.fields_append,
      Text.fields_cons_sep os.dash_not_mem_tripleName,
      Text.fields_of_not_mem abi.dash_not_mem_name]
    simp

theorem eq_of_splitTriple {s piece : String} (h : splitTriple s = [piece]) : s = piece := by
  rw [← joinTriple_splitTriple s, h]
  simp [joinTriple, Text.joinFields]

/-! ## Combinations -/

/-- The fields of a target are those of every combination with the same triple. -/
theorem fields_of_triple_eq (h : t.triple = tripleOf arch vendor os abi) :
    t.arch = arch ∧ t.vendor = vendor ∧ t.os = os ∧ t.abi = abi := by
  have hcut := splitTriple_tripleOf_vendor arch vendor os abi
  rw [← h, triple, splitTriple_tripleOf t.arch t.dash_not_mem_vendor] at hcut
  obtain ⟨harch, hrest⟩ := List.cons.inj hcut
  -- The cases are the numbers of dashes in the vendor.
  cases hvendor : splitTriple vendor with
  | nil => exact absurd hvendor (splitTriple_ne_nil vendor)
  | cons v pieces =>
    rw [hvendor] at hrest
    obtain ⟨hpiece, hafter⟩ := List.cons.inj hrest
    cases pieces with
    | nil =>
      obtain ⟨hos, habi⟩ := List.cons.inj hafter
      have hnames : t.abi.map Abi.name = abi.map Abi.name := by
        cases ht : t.abi <;> cases hb : abi <;> simp_all
      exact ⟨Arch.name_injective harch, hpiece.trans (eq_of_splitTriple hvendor).symm,
        Os.tripleName_injective hos,
        Option.map_injective Abi.name_injective hnames⟩
    | cons w pieces =>
      obtain ⟨-, habi⟩ := List.cons.inj hafter
      cases ht : t.abi with
      | none =>
        have hlength := congrArg List.length habi
        simp [ht] at hlength
      | some a =>
        cases pieces with
        | nil =>
          rw [ht] at habi
          exact absurd (List.cons.inj habi).1.symm (os.tripleName_ne_name a)
        | cons x pieces =>
          have hlength := congrArg List.length habi
          simp [ht] at hlength

theorem triple_injective (h : t.triple = t'.triple) : t = t' := by
  have hread := t.parse_triple
  rw [h, t'.parse_triple] at hread
  exact (Except.ok.inj hread).symm

/-- A combination makes the target that its triple is read as. -/
theorem parse_tripleOf :
    parse (tripleOf arch vendor os abi) = .ok t ↔ ofFields arch vendor os abi = .ok t := by
  rw [parse_eq_ok, ofFields_eq_ok]
  refine ⟨fields_of_triple_eq, ?_⟩
  rintro ⟨rfl, rfl, rfl, rfl⟩
  rfl

/-- A combination with any vendor is a target exactly if its triple is one, and both are the same
target, which has the fields of the combination. A combination that is refused is named by its
triple. No two targets have one triple. -/
theorem combination_exact (arch : Arch) (vendor : String) (os : Os) (abi : Option Abi) :
    ((∃ t, ofFields arch vendor os abi = .ok t) ↔
        ∃ t, parse (tripleOf arch vendor os abi) = .ok t) ∧
      (∀ t t', ofFields arch vendor os abi = .ok t →
        parse (tripleOf arch vendor os abi) = .ok t' →
          t = t' ∧ t.arch = arch ∧ t.vendor = vendor ∧ t.os = os ∧ t.abi = abi) ∧
      (∀ e, ofFields arch vendor os abi = .error e → e.triple = tripleOf arch vendor os abi) ∧
      ∀ t t' : Target, t.triple = t'.triple → t = t' := by
  refine ⟨exists_congr fun t => parse_tripleOf.symm, ?_, fun e => triple_of_ofFields_error,
    fun t t' => triple_injective⟩
  intro t t' hfields hread
  have hsame : ofFields arch vendor os abi = .ok t' := parse_tripleOf.1 hread
  rw [hfields] at hsame
  exact ⟨Except.ok.inj hsame, ofFields_eq_ok.1 hfields⟩

/-- A target without an ABI. -/
def x86Windows : Target :=
  ⟨.x86_64, "w64", .windows, none, rfl⟩

/-- A vendor that holds a field of its own does not make a triple, and a plain one does. -/
theorem combination_exact_dashed :
    (∃ t, parse (tripleOf .x86_64 "w64" .windows none) = .ok t ∧ t.vendor = "w64" ∧
        t = x86Windows) ∧
      ∃ e, ofFields .x86_64 "unknown-linux" .linux (some .gnu) = .error e ∧
        e.triple = "x86_64-unknown-linux-linux-gnu" := by
  constructor
  · obtain ⟨hexact, hsame, -, hinjective⟩ := combination_exact .x86_64 "w64" .windows none
    have hmade : ofFields .x86_64 "w64" .windows none = .ok x86Windows := x86Windows.ofFields_self
    obtain ⟨t, hread⟩ := hexact.1 ⟨x86Windows, hmade⟩
    obtain ⟨rfl, -, hvendor, -⟩ := hsame x86Windows t hmade hread
    exact ⟨x86Windows, hread, hvendor, hinjective _ _ rfl⟩
  · have hrefused : (ofFields .x86_64 "unknown-linux" .linux (some .gnu)).toOption = none := by
      decide +kernel
    cases hdashed : ofFields .x86_64 "unknown-linux" .linux (some .gnu) with
    | ok t => rw [hdashed] at hrefused; cases hrefused
    | error e =>
      have hnamed := (combination_exact .x86_64 "unknown-linux" .linux (some .gnu)).2.2.1 e hdashed
      exact ⟨e, rfl, hnamed.trans (by decide +kernel)⟩

end Target

end CrossShell
