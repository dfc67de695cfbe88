import CrossShell.Config

/-!
Which configs have a descriptor, and which one that is: its target is the one that the config's
triple writes, its packages and variables are those of the config, and every variable has a key that
is neither malformed nor reserved.
-/

set_option autoImplicit false

namespace CrossShell

theorem Dependency.map_inRole_listOf (role : Role) (names : List String) :
    (listOf role names).map (inRole role) = listOf role names := by
  rw [listOf, List.map_map]
  rfl

namespace Config

variable {c : Config} {d : Descriptor} {warnings : List Warning} {env : SortedMap String}

/-! ## Keys -/

theorem sound_of_keyDefect? {key : String} (h : keyDefect? key = none) :
    isVariableName key = true ∧ key ∉ reservedKeys := by
  unfold keyDefect? at h
  cases hname : isVariableName key with
  | false => rw [hname] at h; cases h
  | true =>
    rw [hname] at h
    refine ⟨rfl, fun hreserved => ?_⟩
    rw [List.contains_iff_mem.2 hreserved] at h
    cases h

theorem keyDefect?_of_badKey? (h : badKey? env = none) :
    ∀ e ∈ env.entries, keyDefect? e.1 = none := by
  intro e he
  have hkey : e.1 ∈ env.keys := List.mem_map_of_mem he
  have hsound := List.findSome?_eq_none_iff.1 h e.1 hkey
  exact Option.map_eq_none_iff.1 hsound

theorem isVariableName_of_badKey? (h : badKey? env = none) :
    ∀ e ∈ env.entries, isVariableName e.1 = true :=
  fun e he => (sound_of_keyDefect? (keyDefect?_of_badKey? h e he)).1

theorem not_mem_reservedKeys_of_badKey? (h : badKey? env = none) :
    ∀ e ∈ env.entries, e.1 ∉ reservedKeys :=
  fun e he => (sound_of_keyDefect? (keyDefect?_of_badKey? h e he)).2

/-! ## Descriptors -/

theorem describe_eq_ok (h : c.describe = .ok (d, warnings)) :
    badKey? c.env = none ∧ ∃ target, Target.parse c.target = .ok target ∧
      d = ⟨target, Dependency.listOf .nativeBuildInput c.nativeBuildInputs,
        Dependency.listOf .buildInput c.buildInputs, c.env⟩ := by
  unfold describe at h
  cases htarget : Target.parse c.target with
  | error error => rw [htarget] at h; cases h
  | ok target =>
    rw [htarget] at h
    cases hkeys : badKey? c.env with
    | some bad => rw [hkeys] at h; cases h
    | none =>
      rw [hkeys] at h
      obtain ⟨rfl, _⟩ := Prod.mk.inj (Except.ok.inj h)
      refine ⟨rfl, target, rfl, ?_⟩
      simp only [Descriptor.withEnv, Dependency.map_inRole_listOf]

/-- What there is in a descriptor of a config. -/
theorem describe_ok (h : c.describe = .ok (d, warnings)) :
    Target.parse c.target = .ok d.target ∧ d.env = c.env ∧
      ∀ e ∈ c.env.entries, isVariableName e.1 = true := by
  obtain ⟨hkeys, target, htarget, rfl⟩ := describe_eq_ok h
  exact ⟨htarget, rfl, isVariableName_of_badKey? hkeys⟩

theorem names_of_describe (h : c.describe = .ok (d, warnings)) :
    d.nativeBuildInputs.map (·.name) = c.nativeBuildInputs ∧
      d.buildInputs.map (·.name) = c.buildInputs := by
  obtain ⟨_, target, _, rfl⟩ := describe_eq_ok h
  exact ⟨Dependency.map_name_listOf .., Dependency.map_name_listOf ..⟩

end Config

end CrossShell
