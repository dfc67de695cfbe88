import CrossShell.Descriptor
import Mathlib.Data.List.Basic
import Mathlib.Data.List.Induction

/-!
The packages of a descriptor, each where it comes first.

A list without its repetitions is what is left when an element is kept only if it did not come
before. So it grows at its end with the list that it is made of, and what holds of it is proved by
letting that list grow. `packages_by_first_mention` says so of the packages of a descriptor.
-/

set_option autoImplicit false

namespace CrossShell

/-! ## Lists without repetitions -/

theorem eraseDups_concat (l : List String) (a : String) :
    (l ++ [a]).eraseDups = if a ∈ l then l.eraseDups else l.eraseDups ++ [a] := by
  rw [List.eraseDups_append]
  by_cases h : a ∈ l
  · rw [if_pos h]
    simp [List.removeAll, h]
  · rw [if_neg h]
    simp [List.removeAll, h, List.eraseDups_cons]

/-- An element stands before another one if it came first before it. -/
theorem eraseDups_pairwise (l : List String) :
    l.eraseDups.Pairwise fun a b => l.idxOf a < l.idxOf b := by
  induction l using List.reverseRecOn with
  | nil => exact List.Pairwise.nil
  | append_singleton l a ih =>
    have hkeep : ∀ b ∈ l.eraseDups, (l ++ [a]).idxOf b = l.idxOf b := fun b hb =>
      List.idxOf_append_of_mem (List.mem_eraseDups.1 hb)
    have hfirst : l.eraseDups.Pairwise fun b c => (l ++ [a]).idxOf b < (l ++ [a]).idxOf c := by
      refine ih.imp_of_mem fun hb hc hlt => ?_
      rw [hkeep _ hb, hkeep _ hc]
      exact hlt
    rw [eraseDups_concat]
    by_cases h : a ∈ l
    · rw [if_pos h]
      exact hfirst
    · rw [if_neg h, List.pairwise_append]
      refine ⟨hfirst, List.pairwise_singleton _ a, fun b hb c hc => ?_⟩
      rw [List.mem_singleton.1 hc, hkeep b hb, List.idxOf_append_of_notMem h]
      exact Nat.lt_of_lt_of_le (List.idxOf_lt_length_iff.2 (List.mem_eraseDups.1 hb))
        (Nat.le_add_right _ _)

theorem nodup_eraseDups (l : List String) : l.eraseDups.Nodup := by
  refine (eraseDups_pairwise l).imp fun hlt heq => ?_
  rw [heq] at hlt
  exact Nat.lt_irrefl _ hlt

theorem eraseDups_sublist (l : List String) : l.eraseDups.Sublist l := by
  induction l using List.reverseRecOn with
  | nil => exact List.Sublist.slnil
  | append_singleton l a ih =>
    rw [eraseDups_concat]
    by_cases h : a ∈ l
    · rw [if_pos h]
      exact ih.trans (List.sublist_append_left l [a])
    · rw [if_neg h]
      exact ih.append (List.Sublist.refl [a])

/-! ## Packages -/

namespace Descriptor

theorem mem_packageNames {d : Descriptor} {name : String} :
    name ∈ d.packageNames ↔ name ∈ d.dependencies.map (·.name) :=
  List.mem_eraseDups

theorem map_name_dependencies (d : Descriptor) :
    d.dependencies.map (·.name) =
      d.nativeBuildInputs.map (·.name) ++ d.buildInputs.map (·.name) :=
  List.map_append

/-- The descriptor with one more package for the target. -/
def withBuildInput (d : Descriptor) (dependency : Dependency) : Descriptor :=
  { d with buildInputs := d.buildInputs ++ [dependency] }

theorem map_name_withBuildInput (d : Descriptor) (dependency : Dependency) :
    (d.withBuildInput dependency).dependencies.map (·.name) =
      d.dependencies.map (·.name) ++ [dependency.name] := by
  rw [map_name_dependencies, map_name_dependencies, List.append_assoc, withBuildInput,
    List.map_append, List.map_singleton]

theorem packageNames_withBuildInput (d : Descriptor) (dependency : Dependency) :
    (d.withBuildInput dependency).packageNames =
      if dependency.name ∈ d.dependencies.map (·.name) then d.packageNames
      else d.packageNames ++ [dependency.name] := by
  unfold packageNames
  rw [map_name_withBuildInput, eraseDups_concat]

/-- The packages are the names of the two lists, each once and where it comes first. One more
package for the target adds its name at the end if neither list has it yet, and changes nothing
otherwise. -/
theorem packages_by_first_mention (d : Descriptor) :
    d.packageNames.Nodup ∧
    (∀ name, name ∈ d.packageNames ↔
      name ∈ d.nativeBuildInputs.map (·.name) ∨ name ∈ d.buildInputs.map (·.name)) ∧
    d.packageNames.Sublist (d.nativeBuildInputs.map (·.name) ++ d.buildInputs.map (·.name)) ∧
    (d.packageNames.Pairwise fun a b =>
      (d.nativeBuildInputs.map (·.name) ++ d.buildInputs.map (·.name)).idxOf a
        < (d.nativeBuildInputs.map (·.name) ++ d.buildInputs.map (·.name)).idxOf b) ∧
    ∀ dependency, (d.withBuildInput dependency).packageNames =
      if dependency.name ∈ d.nativeBuildInputs.map (·.name)
          ∨ dependency.name ∈ d.buildInputs.map (·.name) then d.packageNames
      else d.packageNames ++ [dependency.name] := by
  have hpackages : d.packageNames =
      (d.nativeBuildInputs.map (·.name) ++ d.buildInputs.map (·.name)).eraseDups := by
    rw [← map_name_dependencies, packageNames]
  refine ⟨?_, fun name => ?_, ?_, ?_, fun dependency => ?_⟩
  · rw [hpackages]
    exact nodup_eraseDups _
  · rw [mem_packageNames, map_name_dependencies, List.mem_append]
  · rw [hpackages]
    exact eraseDups_sublist _
  · rw [hpackages]
    exact eraseDups_pairwise _
  · rw [packageNames_withBuildInput]
    simp only [map_name_dependencies, List.mem_append]

end Descriptor

end CrossShell
