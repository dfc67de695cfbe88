import CrossShell.Descriptor
import Mathlib.Data.Finset.Card

/-!
What a descriptor is made of, and what is said about its making.

The warnings about a list are made in one pass that remembers the names it has seen. Seen from
outside they are told by position: the element at a position is compared with the role of its list,
and its name with the names before it in that list. So a list has one warning about a repetition for
each element beyond the first of its name. Making a descriptor again from its own lists gives the
same descriptor and the same warnings but for those about roles.
-/

set_option autoImplicit false

namespace CrossShell

namespace Warning

/-- Whether a warning is about a role. -/
def retags : Warning → Bool
  | .roleDiffers _ _ _ => true
  | _ => false

/-- Whether a warning is about a repetition in the list of a role. -/
def repeats (role : Role) : Warning → Bool
  | .repeated _ placed => placed = role
  | _ => false

end Warning

namespace Descriptor

/-! ## Warnings by position -/

/-- The warnings about the element at a position of a list. -/
def warningsAt (role : Role) (ds : List Dependency) (i : Nat) (d : Dependency) : List Warning :=
  (if d.role ≠ role then [.roleDiffers d.name d.role role] else [])
    ++ if d.name ∈ (ds.take i).map (·.name) then [.repeated d.name role] else []

/-- The warnings about a list, position by position. -/
def warningsByPosition (role : Role) (ds : List Dependency) : List Warning :=
  ds.zipIdx.flatMap fun (d, i) => warningsAt role ds i d

theorem warningsFor_eq {role : Role} {seen : List String} {before rest : List Dependency}
    (h : ∀ name, name ∈ seen ↔ name ∈ before.map (·.name)) (d : Dependency) :
    warningsFor role seen d = warningsAt role (before ++ rest) before.length d := by
  unfold warningsFor warningsAt
  simp only [List.take_left, h, ite_not]

/-- What is left of a list is warned about as are its positions after those that were passed. -/
theorem listWarnings_eq_flatMap {role : Role} {seen : List String} (before ds : List Dependency)
    (h : ∀ name, name ∈ seen ↔ name ∈ before.map (·.name)) :
    listWarnings role seen ds =
      (ds.zipIdx before.length).flatMap fun (d, i) => warningsAt role (before ++ ds) i d := by
  induction ds generalizing seen before with
  | nil => rfl
  | cons d rest ih =>
    have hseen : ∀ name, name ∈ d.name :: seen ↔ name ∈ (before ++ [d]).map (·.name) := by
      intro name
      rw [List.mem_cons, h, List.map_append, List.mem_append, List.map_singleton,
        List.mem_singleton, or_comm]
    have hrest := ih (before ++ [d]) hseen
    rw [List.length_append, List.length_singleton, List.append_assoc, List.singleton_append] at hrest
    rw [listWarnings, hrest, warningsFor_eq h d]
    rfl

theorem listWarnings_eq (role : Role) (ds : List Dependency) :
    listWarnings role [] ds = warningsByPosition role ds :=
  listWarnings_eq_flatMap [] ds fun _ => Iff.rfl

/-! ## Counting repetitions -/

theorem card_insert_sdiff (names seen : Finset String) (name : String) :
    (if name ∈ seen then 1 else 0) + (insert name names \ seen).card =
      (names \ insert name seen).card + 1 := by
  by_cases h : name ∈ seen
  · rw [if_pos h, Finset.insert_sdiff_of_mem names h, Finset.insert_eq_of_mem h, Nat.add_comm]
  · have hcard := Finset.card_erase_add_one (Finset.mem_insert_self name (names \ seen))
    rw [Finset.erase_insert_eq_erase] at hcard
    rw [if_neg h, Finset.insert_sdiff_of_notMem names h, Finset.sdiff_insert, hcard, Nat.zero_add]

theorem countP_warningsFor (role placed : Role) (seen : List String) (d : Dependency) :
    (warningsFor placed seen d).countP (Warning.repeats role) =
      if placed = role ∧ d.name ∈ seen then 1 else 0 := by
  unfold warningsFor
  rw [List.countP_append]
  by_cases hrole : d.role = placed <;> by_cases hseen : d.name ∈ seen <;>
    simp [hrole, hseen, Warning.repeats]

/-- Each element of a list is warned about as a repetition, or has a name that was not seen. -/
theorem countP_listWarnings (role : Role) (seen : List String) (ds : List Dependency) :
    (listWarnings role seen ds).countP (Warning.repeats role)
      + ((ds.map (·.name)).toFinset \ seen.toFinset).card = ds.length := by
  induction ds generalizing seen with
  | nil => simp [listWarnings]
  | cons d rest ih =>
    have hrest := ih (d.name :: seen)
    have hstep := card_insert_sdiff (rest.map (·.name)).toFinset seen.toFinset d.name
    rw [List.toFinset_cons] at hrest
    simp only [List.mem_toFinset] at hstep
    rw [listWarnings, List.countP_append, countP_warningsFor, List.map_cons, List.toFinset_cons,
      List.length_cons]
    simp only [true_and]
    omega

theorem countP_listWarnings_nil (role : Role) (ds : List Dependency) :
    (listWarnings role [] ds).countP (Warning.repeats role)
      + (ds.map (·.name)).toFinset.card = ds.length := by
  have hcount := countP_listWarnings role [] ds
  rwa [List.toFinset_nil, Finset.sdiff_empty] at hcount

/-- The list of one role says nothing about repetitions in that of another. -/
theorem countP_listWarnings_of_ne {role placed : Role} (h : placed ≠ role) (seen : List String)
    (ds : List Dependency) : (listWarnings placed seen ds).countP (Warning.repeats role) = 0 := by
  induction ds generalizing seen with
  | nil => rfl
  | cons d rest ih =>
    rw [listWarnings, List.countP_append, ih, countP_warningsFor, if_neg fun hboth => h hboth.1]

theorem countP_warnings (role : Role) (target : Target) (natives builds : List Dependency) :
    (warnings target natives builds).countP (Warning.repeats role) =
      (listWarnings .nativeBuildInput [] natives).countP (Warning.repeats role)
        + (listWarnings .buildInput [] builds).countP (Warning.repeats role) := by
  rw [warnings, List.countP_append, List.countP_append]
  split <;> simp [Warning.repeats]

theorem countP_warnings_natives (target : Target) (natives builds : List Dependency) :
    (warnings target natives builds).countP (Warning.repeats .nativeBuildInput)
      + (natives.map (·.name)).toFinset.card = natives.length := by
  have hne : Role.buildInput ≠ .nativeBuildInput := by decide
  have hother := countP_listWarnings_of_ne hne [] builds
  rw [countP_warnings, hother, Nat.add_zero]
  exact countP_listWarnings_nil .nativeBuildInput natives

theorem countP_warnings_builds (target : Target) (natives builds : List Dependency) :
    (warnings target natives builds).countP (Warning.repeats .buildInput)
      + (builds.map (·.name)).toFinset.card = builds.length := by
  have hne : Role.nativeBuildInput ≠ .buildInput := by decide
  have hother := countP_listWarnings_of_ne hne [] natives
  rw [countP_warnings, hother, Nat.zero_add]
  exact countP_listWarnings_nil .buildInput builds

/-! ## Making a descriptor again -/

theorem filter_listWarnings (role : Role) (seen : List String) (ds : List Dependency) :
    listWarnings role seen (ds.map (Dependency.inRole role)) =
      (listWarnings role seen ds).filter fun w => !w.retags := by
  induction ds generalizing seen with
  | nil => rfl
  | cons d rest ih =>
    have hhere : warningsFor role seen (d.inRole role) =
        (warningsFor role seen d).filter fun w => !w.retags := by
      unfold warningsFor Dependency.inRole
      by_cases hrole : d.role = role <;> by_cases hseen : d.name ∈ seen <;>
        simp [hrole, hseen, Warning.retags]
    rw [List.map_cons, listWarnings, listWarnings, List.filter_append, hhere, ← ih]
    rfl

theorem map_inRole_inRole (role : Role) (ds : List Dependency) :
    (ds.map (Dependency.inRole role)).map (Dependency.inRole role) =
      ds.map (Dependency.inRole role) := by
  rw [List.map_map]
  rfl

theorem compose_again (target : Target) (natives builds : List Dependency) :
    compose target (natives.map (Dependency.inRole .nativeBuildInput))
        (builds.map (Dependency.inRole .buildInput)) =
      ((compose target natives builds).1,
        (compose target natives builds).2.filter fun w => !w.retags) := by
  have hfirst : (if natives.isEmpty then [Warning.noNativeInputs target] else []).filter
      (fun w => !w.retags) = if natives.isEmpty then [Warning.noNativeInputs target] else [] := by
    split <;> rfl
  unfold compose warnings
  rw [map_inRole_inRole, map_inRole_inRole, List.filter_append, List.filter_append, hfirst,
    filter_listWarnings, filter_listWarnings, List.isEmpty_map]

/-! ## Making a descriptor -/

theorem map_inRole_eq_listOf (role : Role) (ds : List Dependency) :
    ds.map (Dependency.inRole role) = Dependency.listOf role (ds.map (·.name)) := by
  rw [Dependency.listOf, List.map_map]
  rfl

/-- Making a descriptor keeps the target and every package in its place, puts the packages into the
roles of their lists and warns about what it was given: about the lack of packages that run on the
building machine, and about each element of the two lists in order, each list on its own. -/
theorem compose_exact (target : Target) (natives builds : List Dependency) :
    ∃ d warnings, compose target natives builds = (d, warnings) ∧
      d.target = target ∧ d.env = SortedMap.empty ∧
      d.nativeBuildInputs = Dependency.listOf .nativeBuildInput (natives.map (·.name)) ∧
      d.buildInputs = Dependency.listOf .buildInput (builds.map (·.name)) ∧
      warnings = (if natives = [] then [.noNativeInputs target] else [])
        ++ warningsByPosition .nativeBuildInput natives ++ warningsByPosition .buildInput builds ∧
      warnings.countP (Warning.repeats .nativeBuildInput)
        + (natives.map (·.name)).toFinset.card = natives.length ∧
      warnings.countP (Warning.repeats .buildInput)
        + (builds.map (·.name)).toFinset.card = builds.length ∧
      compose d.target d.nativeBuildInputs d.buildInputs =
        (d, warnings.filter fun w => !w.retags) := by
  refine ⟨_, _, rfl, rfl, rfl, map_inRole_eq_listOf _ natives, map_inRole_eq_listOf _ builds, ?_,
    countP_warnings_natives target natives builds, countP_warnings_builds target natives builds,
    compose_again target natives builds⟩
  show warnings target natives builds = _
  rw [warnings, listWarnings_eq, listWarnings_eq]
  simp only [List.isEmpty_iff]

end Descriptor

end CrossShell
