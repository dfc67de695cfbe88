import CrossShell.Proofs.Config.Describe
import CrossShell.Proofs.Target
import CrossShell.Proofs.Text.Names

/-!
What becomes of a config: the three ways in which its description ends.

The target is looked at first, whatever the keys are. Of the keys that cannot be set the least one
is named, in the order of code points, with what is wrong with it. Only a config without such a key
gets a descriptor, and only a descriptor comes with warnings.
-/

set_option autoImplicit false

namespace CrossShell.Config

open Text (startsName continuesName startsName_eq continuesName_eq)

variable {c : Config} {env : SortedMap String} {key : String} {defect : KeyDefect}

/-! ## Keys -/

/-- A letter or an underscore, and then letters, underscores and digits. -/
def IsShellName (key : String) : Prop :=
  ∃ first rest, key.toList = first :: rest ∧ startsName first = true ∧
    ∀ r ∈ rest, continuesName r = true

/-- Why a key cannot be set. -/
inductive Offends (key : String) : KeyDefect → Prop where
  | malformed (hname : ¬ IsShellName key) : Offends key .malformed
  | reserved (hreserved : key ∈ reservedKeys) : Offends key .reserved

theorem isVariableName_iff : isVariableName key = true ↔ IsShellName key := by
  unfold isVariableName IsShellName
  split
  next hchars => simp [hchars]
  next first rest hchars =>
    simp only [hchars, Bool.and_eq_true, List.all_eq_true, ← startsName_eq, ← continuesName_eq]
    constructor
    · rintro ⟨hfirst, hrest⟩
      exact ⟨first, rest, rfl, hfirst, hrest⟩
    · rintro ⟨_, _, heq, hfirst, hrest⟩
      obtain ⟨rfl, rfl⟩ := List.cons.inj heq
      exact ⟨hfirst, hrest⟩

/-- What is reserved is a name, so a key offends in one way only. -/
theorem isShellName_of_reserved (h : key ∈ reservedKeys) : IsShellName key := by
  have hall : ∀ k ∈ reservedKeys, isVariableName k = true := by decide
  exact isVariableName_iff.1 (hall key h)

theorem keyDefect?_eq_some : keyDefect? key = some defect ↔ Offends key defect := by
  have hreserved : reservedKeys.contains key = true ↔ key ∈ reservedKeys := List.contains_iff_mem
  unfold keyDefect?
  constructor
  · intro h
    split at h
    next hname =>
      cases h
      refine .malformed fun hshell => ?_
      rw [isVariableName_iff.2 hshell] at hname
      cases hname
    next =>
      split at h
      next hmem =>
        cases h
        exact .reserved (hreserved.1 hmem)
      next => cases h
  · intro h
    cases h with
    | malformed hname =>
      have hfalse : isVariableName key = false :=
        Bool.eq_false_iff.2 fun htrue => hname (isVariableName_iff.1 htrue)
      rw [hfalse]
      rfl
    | reserved hmem =>
      have htrue : isVariableName key = true :=
        isVariableName_iff.2 (isShellName_of_reserved hmem)
      rw [htrue, if_neg (by decide), if_pos (hreserved.2 hmem)]

theorem keyDefect?_eq_none : keyDefect? key = none ↔ IsShellName key ∧ key ∉ reservedKeys := by
  refine ⟨fun h => (sound_of_keyDefect? h).imp_left isVariableName_iff.1, ?_⟩
  rintro ⟨hname, hfree⟩
  rw [Option.eq_none_iff_forall_ne_some]
  intro defect hdefect
  cases keyDefect?_eq_some.1 hdefect with
  | malformed hnot => exact hnot hname
  | reserved hmem => exact hfree hmem

/-! ## The first offending key -/

theorem keys_ascending (env : SortedMap String) : env.keys.Pairwise (· < ·) :=
  List.pairwise_map.2 env.ascending

theorem badKey?_eq_none :
    badKey? env = none ↔ ∀ key ∈ env.keys, IsShellName key ∧ key ∉ reservedKeys := by
  unfold badKey?
  simp only [List.findSome?_eq_none_iff, Option.map_eq_none_iff, keyDefect?_eq_none]

/-- The keys ascend, so the first that offends is the least one. -/
theorem badKey?_eq_some : badKey? env = some (key, defect) ↔
    key ∈ env.keys ∧ Offends key defect ∧
      ∀ key' ∈ env.keys, ∀ defect', Offends key' defect' → key ≤ key' := by
  have hat : ∀ k, ((keyDefect? k).map fun d => (k, d)) = some (key, defect) ↔
      k = key ∧ Offends key defect := by
    intro k
    simp only [Option.map_eq_some_iff, Prod.mk.injEq, keyDefect?_eq_some]
    constructor
    · rintro ⟨_, hoffends, rfl, rfl⟩
      exact ⟨rfl, hoffends⟩
    · rintro ⟨rfl, hoffends⟩
      exact ⟨defect, hoffends, rfl, rfl⟩
  have hascending := keys_ascending env
  unfold badKey?
  rw [List.findSome?_eq_some_iff]
  constructor
  · rintro ⟨before, k, after, hkeys, hfound, hbefore⟩
    obtain ⟨rfl, hoffends⟩ := (hat k).1 hfound
    rw [hkeys, List.pairwise_append, List.pairwise_cons] at hascending
    refine ⟨by rw [hkeys]; exact List.mem_append_right _ List.mem_cons_self, hoffends, ?_⟩
    intro key' hmem defect' hoffends'
    rw [hkeys, List.mem_append, List.mem_cons] at hmem
    obtain hearlier | rfl | hlater := hmem
    · have hsound := Option.map_eq_none_iff.1 (hbefore key' hearlier)
      rw [keyDefect?_eq_some.2 hoffends'] at hsound
      cases hsound
    · exact String.le_refl _
    · exact String.not_lt.1 (String.lt_asymm (hascending.2.1.1 key' hlater))
  · rintro ⟨hmem, hoffends, hleast⟩
    obtain ⟨before, after, hkeys⟩ := List.append_of_mem hmem
    rw [hkeys, List.pairwise_append] at hascending
    refine ⟨before, key, after, hkeys, (hat key).2 ⟨rfl, hoffends⟩, fun k hk => ?_⟩
    rw [Option.map_eq_none_iff, Option.eq_none_iff_forall_ne_some]
    intro defect' hdefect'
    have hk' : k ∈ env.keys := by rw [hkeys]; exact List.mem_append_left _ hk
    have hle := hleast k hk' defect' (keyDefect?_eq_some.1 hdefect')
    have hlt : k < key := hascending.2.2 k hk key List.mem_cons_self
    exact String.not_lt.2 hle hlt

/-! ## Configs -/

/-- The descriptor of a config with a target. -/
def descriptorFor (c : Config) (target : Target) : Descriptor :=
  ⟨target, Dependency.listOf .nativeBuildInput c.nativeBuildInputs,
    Dependency.listOf .buildInput c.buildInputs, c.env⟩

/-- What is worth a warning in the lists of a config. -/
def warningsFor (c : Config) (target : Target) : List Warning :=
  Descriptor.warnings target (Dependency.listOf .nativeBuildInput c.nativeBuildInputs)
    (Dependency.listOf .buildInput c.buildInputs)

/-- How the description of a config ends. -/
inductive Validated (c : Config) : Except ConfigError (Descriptor × List Warning) → Prop where
  /-- The triple is none of a target. -/
  | badTarget {error : TargetError} (htarget : Target.parse c.target = .error error) :
      Validated c (.error (.target error))
  /-- Keys offend, and this is the least of them. -/
  | badKey {target : Target} {key : String} {defect : KeyDefect}
      (htarget : Target.parse c.target = .ok target) (hmem : key ∈ c.env.keys)
      (hoffends : Offends key defect)
      (hleast : ∀ key' ∈ c.env.keys, ∀ defect', Offends key' defect' → key ≤ key') :
      Validated c (.error (.invalidKey key defect))
  /-- Nothing is wrong. -/
  | described {target : Target} (htarget : Target.parse c.target = .ok target)
      (hkeys : ∀ key ∈ c.env.keys, IsShellName key ∧ key ∉ reservedKeys) :
      Validated c (.ok (c.descriptorFor target, c.warningsFor target))

theorem describe_of_badTarget {error : TargetError} (h : Target.parse c.target = .error error) :
    c.describe = .error (.target error) := by
  unfold describe
  rw [h]

theorem describe_of_badKey {target : Target} (htarget : Target.parse c.target = .ok target)
    (hkey : badKey? c.env = some (key, defect)) :
    c.describe = .error (.invalidKey key defect) := by
  unfold describe
  rw [htarget]
  simp only [hkey]

theorem describe_of_sound {target : Target} (htarget : Target.parse c.target = .ok target)
    (hkeys : badKey? c.env = none) :
    c.describe = .ok (c.descriptorFor target, c.warningsFor target) := by
  unfold describe
  rw [htarget]
  simp only [hkeys, Descriptor.compose, Descriptor.withEnv, Dependency.map_inRole_listOf]
  rfl

theorem describe_of_validated {answer : Except ConfigError (Descriptor × List Warning)}
    (h : Validated c answer) : c.describe = answer := by
  cases h with
  | badTarget htarget => exact describe_of_badTarget htarget
  | badKey htarget hmem hoffends hleast =>
    exact describe_of_badKey htarget (badKey?_eq_some.2 ⟨hmem, hoffends, hleast⟩)
  | described htarget hkeys => exact describe_of_sound htarget (badKey?_eq_none.2 hkeys)

theorem exists_validated (c : Config) : ∃ answer, Validated c answer := by
  cases htarget : Target.parse c.target with
  | error error => exact ⟨_, .badTarget htarget⟩
  | ok target =>
    cases hkeys : badKey? c.env with
    | none => exact ⟨_, .described htarget (badKey?_eq_none.1 hkeys)⟩
    | some bad =>
      obtain ⟨key, defect⟩ := bad
      obtain ⟨hmem, hoffends, hleast⟩ := badKey?_eq_some.1 hkeys
      exact ⟨_, .badKey htarget hmem hoffends hleast⟩

theorem describe_eq_iff {answer : Except ConfigError (Descriptor × List Warning)} :
    c.describe = answer ↔ Validated c answer := by
  refine ⟨?_, describe_of_validated⟩
  rintro rfl
  obtain ⟨answer, h⟩ := exists_validated c
  rw [describe_of_validated h]
  exact h

/-- The description of a config ends as `Validated` says and in no other way. A config has a
descriptor if and only if its triple is one of a target, and each of its keys is a name for a shell
and not reserved. -/
theorem validation_exact (c : Config) :
    (∀ answer, c.describe = answer ↔ Validated c answer) ∧
      ((∃ d warnings, c.describe = .ok (d, warnings)) ↔
        (∃ target, Target.parse c.target = .ok target) ∧
          ∀ key ∈ c.env.keys, IsShellName key ∧ key ∉ reservedKeys) := by
  refine ⟨fun answer => describe_eq_iff, ?_, ?_⟩
  · rintro ⟨d, warnings, h⟩
    cases describe_eq_iff.1 h with
    | described htarget hkeys => exact ⟨⟨_, htarget⟩, hkeys⟩
  · rintro ⟨⟨target, htarget⟩, hkeys⟩
    exact ⟨_, _, describe_eq_iff.2 (.described htarget hkeys)⟩

/-- A config that sets three variables, of which only the second can be set. -/
def badlyKeyed (triple : String) : Config :=
  ⟨triple, ["gcc"], [], ⟨[("1ST", "a"), ("CC", "b"), ("meta", "c")], by decide +kernel⟩, none⟩

/-- A config that sets one variable. -/
def wellKeyed (triple : String) : Config :=
  ⟨triple, ["gcc"], [], ⟨[("CC", "b")], List.pairwise_singleton ..⟩, none⟩

/-- The least of two keys that cannot be set is named, and neither beside a bad triple. -/
theorem validation_exact_badlyKeyed :
    (badlyKeyed Target.aarch64Linux.triple).describe = .error (.invalidKey "1ST" .malformed) ∧
      (∃ error, (badlyKeyed "aarch64").describe = .error (.target error)) ∧
      ∃ d warnings, (wellKeyed Target.aarch64Linux.triple).describe = .ok (d, warnings) := by
  have hread := Target.parse_triple Target.aarch64Linux
  refine ⟨?_, ?_, ?_⟩
  · have hdigit : ¬ IsShellName "1ST" := fun h => absurd (isVariableName_iff.2 h) (by decide)
    have hleast : ∀ key ∈ ["1ST", "CC", "meta"], "1ST" ≤ key := by decide +kernel
    exact ((validation_exact _).1 _).2 (.badKey hread List.mem_cons_self (.malformed hdigit)
      fun key hmem defect _ => hleast key hmem)
  · cases htarget : Target.parse "aarch64" with
    | ok target =>
      have hrefused : (Target.parse "aarch64").toOption = none := by decide +kernel
      rw [htarget] at hrefused
      cases hrefused
    | error error => exact ⟨error, ((validation_exact _).1 _).2 (.badTarget htarget)⟩
  · have hkeys : ∀ key ∈ ["CC"], IsShellName key ∧ key ∉ reservedKeys := fun key hmem =>
      keyDefect?_eq_none.1 (by rw [List.mem_singleton.1 hmem]; decide)
    exact (validation_exact _).2.2 ⟨⟨_, hread⟩, hkeys⟩

end CrossShell.Config
