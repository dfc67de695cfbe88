import CrossShell.Proofs.Text.Split
import CrossShell.Target

/-!
Triples: a target is read back from its triple.

The fields of a triple are those that it was joined from, because none of them holds a dash.
-/

set_option autoImplicit false

namespace CrossShell

/-! ## The words of triples -/

theorem Arch.dash_not_mem_name (a : Arch) : '-' ∉ a.name.toList := by
  cases a <;> decide

theorem Os.dash_not_mem_tripleName (o : Os) : '-' ∉ o.tripleName.toList := by
  cases o <;> decide

theorem Abi.dash_not_mem_name (a : Abi) : '-' ∉ a.name.toList := by
  cases a <;> decide

namespace Target

/-- A sound combination has a vendor of Linux or the one of its operating system. -/
theorem vendor_of_sound {arch : Arch} {vendor : String} {os : Os} {abi : Option Abi}
    (h : defect? arch vendor os abi = none) : vendor ∈ linuxVendors ∨ vendor = os.vendor := by
  cases os with
  | linux =>
    by_cases hv : vendor ∈ linuxVendors
    · exact .inl hv
    · simp [defect?, hv] at h
  | macos =>
    by_cases hv : vendor = Os.macos.vendor
    · exact .inr hv
    · simp [defect?, hv] at h
      split at h <;> simp at h
  | windows =>
    by_cases hv : vendor = Os.windows.vendor
    · exact .inr hv
    · simp [defect?, hv] at h
      split at h <;> simp at h

theorem dash_not_mem_vendor (t : Target) : '-' ∉ t.vendor.toList := by
  obtain h | h := vendor_of_sound t.sound
  · have hl : ∀ v ∈ linuxVendors, '-' ∉ v.toList := by decide
    exact hl t.vendor h
  · rw [h]
    cases t.os <;> decide

/-! ## The characters of triples -/

/-- The characters that a triple and the name of a target for Rust are made of. -/
def tripleChars : List Char :=
  "abcdefghijklmnopqrstuvwxyz0123456789_-".toList

def isTripleText (text : String) : Bool :=
  text.toList.all tripleChars.contains

theorem isTripleText_append (a b : String) :
    isTripleText (a ++ b) = (isTripleText a && isTripleText b) := by
  unfold isTripleText
  rw [String.toList_append, List.all_append]

theorem mem_tripleChars {text : String} (h : isTripleText text = true) :
    ∀ c ∈ text.toList, c ∈ tripleChars := by
  intro c hc
  exact List.contains_iff_mem.1 (List.all_eq_true.1 h c hc)

theorem isTripleText_vendor (t : Target) : isTripleText t.vendor = true := by
  obtain h | h := vendor_of_sound t.sound
  · have hall : linuxVendors.all isTripleText = true := by decide
    exact List.all_eq_true.1 hall t.vendor h
  · rw [h]
    cases t.os <;> decide

theorem isTripleText_triple (t : Target) : isTripleText t.triple = true := by
  have harch : isTripleText t.arch.name = true := by cases t.arch <;> decide
  have hos : isTripleText t.os.tripleName = true := by cases t.os <;> decide
  have hdash : isTripleText "-" = true := by decide
  have hvendor := t.isTripleText_vendor
  unfold triple tripleOf
  cases t.abi with
  | none =>
    have hempty : isTripleText "" = true := by decide
    simp only [isTripleText_append, harch, hdash, hvendor, hos, hempty, Bool.and_self]
  | some abi =>
    have habi : isTripleText abi.name = true := by cases abi <;> decide
    simp only [isTripleText_append, harch, hdash, hvendor, hos, habi, Bool.and_self]

theorem isTripleText_rustTriple (t : Target) : isTripleText t.rustTriple = true := by
  have harch : isTripleText t.arch.rustName = true := by cases t.arch <;> decide
  unfold rustTriple
  split
  · next abi _ _ =>
    have hlinux : isTripleText "-unknown-linux-" = true := by decide
    have habi : isTripleText abi.name = true := by cases abi <;> decide
    rw [isTripleText_append, isTripleText_append, harch, hlinux, habi]
    rfl
  · rw [isTripleText_append, harch]
    decide
  · rw [isTripleText_append, harch]
    decide
  · rw [isTripleText_append, harch]
    decide

/-! ## Reading triples -/

theorem ofFields_self (t : Target) : ofFields t.arch t.vendor t.os t.abi = .ok t := by
  unfold ofFields
  split
  · rfl
  · next h => rw [t.sound] at h; cases h

theorem splitTriple_tripleOf (arch : Arch) {vendor : String} (h : '-' ∉ vendor.toList) (os : Os)
    (abi : Option Abi) :
    splitTriple (tripleOf arch vendor os abi)
      = [arch.name, vendor, os.tripleName] ++ (abi.map Abi.name).toList := by
  cases abi with
  | none =>
    have htext : (tripleOf arch vendor os none).toList
        = arch.name.toList ++ '-' :: (vendor.toList ++ '-' :: os.tripleName.toList) := by
      simp [tripleOf]
    unfold splitTriple
    rw [htext, Text.fields_cons_sep arch.dash_not_mem_name, Text.fields_cons_sep h,
      Text.fields_of_not_mem os.dash_not_mem_tripleName]
    simp
  | some abi =>
    have htext : (tripleOf arch vendor os (some abi)).toList
        = arch.name.toList ++ '-' :: (vendor.toList ++ '-' ::
          (os.tripleName.toList ++ '-' :: abi.name.toList)) := by
      simp [tripleOf]
    unfold splitTriple
    rw [htext, Text.fields_cons_sep arch.dash_not_mem_name, Text.fields_cons_sep h,
      Text.fields_cons_sep os.dash_not_mem_tripleName,
      Text.fields_of_not_mem abi.dash_not_mem_name]
    simp

/-- A target is read back from its triple. -/
theorem parse_triple (t : Target) : parse t.triple = .ok t := by
  have hsplit := splitTriple_tripleOf t.arch (dash_not_mem_vendor t) t.os t.abi
  have hself := ofFields_self t
  unfold parse triple
  rw [hsplit]
  cases habi : t.abi with
  | none =>
    rw [habi] at hself
    simp [parseFields, hself]
  | some abi =>
    rw [habi] at hself
    simp [parseFields, hself]

/-- A target for trying things out. -/
def aarch64Linux : Target :=
  ⟨.aarch64, "unknown", .linux, some .gnu, rfl⟩

end Target

end CrossShell
