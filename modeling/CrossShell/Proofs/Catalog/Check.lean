import CrossShell.Catalog
import CrossShell.Proofs.SortedMap
import CrossShell.Proofs.Target

/-!
What a catalog answers about a descriptor.

`Fails` says when a dependency fails and with which error, `Verdict` says what the answer about a
whole descriptor is: the first error in the order of the dependencies, if the target is covered.
Both are stated on the entries of the catalog. A list of platforms matters to what is built for the
target only; that a package is unknown or broken matters to all.
-/

set_option autoImplicit false

namespace CrossShell.Catalog

variable {c : Catalog} {d : Descriptor} {target : Target} {x : Dependency} {e : ResolveError}

/-! ## Lists of targets -/

/-- There is a list, and the target is not on it. -/
def Excludes (list : Option (List Target)) (target : Target) : Prop :=
  ∃ targets, list = some targets ∧ target ∉ targets

theorem covers_eq_false {list : Option (List Target)} :
    covers list target = false ↔ Excludes list target := by
  cases list with
  | none => simp [covers, Excludes]
  | some targets => simp [covers, Excludes]

theorem covers_eq_true {list : Option (List Target)} :
    covers list target = true ↔ ¬ Excludes list target := by
  rw [← covers_eq_false, Bool.not_eq_false]

/-! ## Dependencies -/

/-- The dependency cannot be had for the target, for the reason that the error gives. -/
inductive Fails (c : Catalog) (target : Target) (x : Dependency) : ResolveError → Prop where
  /-- The catalog does not know the package. -/
  | unknown (hkey : x.name ∉ c.packages.keys) : Fails c target x (.packageNotFound x.name)
  /-- What is needed on the target is listed for others only. -/
  | foreign {entry : CatalogEntry} {platforms : List Target}
      (hentry : (x.name, entry) ∈ c.packages.entries) (hrole : x.role = .buildInput)
      (hplatforms : entry.platforms = some platforms) (htarget : target ∉ platforms) :
      Fails c target x (.crossUnsupported (some x.name) target.triple
        ("available on: " ++ ", ".intercalate (platforms.map Target.triple)))
  /-- The package is broken. -/
  | broken {entry : CatalogEntry} (hentry : (x.name, entry) ∈ c.packages.entries)
      (hbuilt : ¬ (x.role = .buildInput ∧ Excludes entry.platforms target))
      (hbroken : entry.broken = true) :
      Fails c target x (.buildFailure ("package '" ++ x.name ++ "' is marked broken: "
        ++ entry.reason.getD "no reason given"))

theorem entryDefect?_of_foreign {entry : CatalogEntry} {platforms : List Target}
    (hrole : x.role = .buildInput) (hplatforms : entry.platforms = some platforms)
    (htarget : target ∉ platforms) :
    entryDefect? entry target x = some (.crossUnsupported (some x.name) target.triple
      ("available on: " ++ ", ".intercalate (platforms.map Target.triple))) := by
  have hcovers : covers entry.platforms target = false :=
    covers_eq_false.2 ⟨platforms, hplatforms, htarget⟩
  unfold entryDefect?
  rw [if_pos ⟨hrole, hcovers⟩, hplatforms]
  rfl

theorem entryDefect?_of_built {entry : CatalogEntry}
    (hbuilt : ¬ (x.role = .buildInput ∧ Excludes entry.platforms target)) :
    entryDefect? entry target x =
      if entry.broken then some (.buildFailure ("package '" ++ x.name ++ "' is marked broken: "
        ++ entry.reason.getD "no reason given"))
      else none := by
  have hcovers : ¬ (x.role = .buildInput ∧ covers entry.platforms target = false) :=
    fun h => hbuilt (h.imp_right covers_eq_false.1)
  unfold entryDefect?
  rw [if_neg hcovers]

theorem dependencyDefect?_of_fails (h : Fails c target x e) :
    c.dependencyDefect? target x = some e := by
  unfold dependencyDefect?
  cases h with
  | unknown hkey => rw [SortedMap.get?_eq_none.2 hkey]
  | foreign hentry hrole hplatforms htarget =>
    rw [SortedMap.get?_eq_some.2 hentry]
    exact entryDefect?_of_foreign hrole hplatforms htarget
  | broken hentry hbuilt hbroken =>
    rw [SortedMap.get?_eq_some.2 hentry]
    show entryDefect? _ _ _ = _
    rw [entryDefect?_of_built hbuilt, if_pos hbroken]

/-- The check of a dependency finds exactly what `Fails` says. -/
theorem dependencyDefect?_eq_some : c.dependencyDefect? target x = some e ↔ Fails c target x e := by
  refine ⟨fun h => ?_, dependencyDefect?_of_fails⟩
  unfold dependencyDefect? at h
  cases hget : c.packages.get? x.name with
  | none =>
    rw [hget] at h
    cases h
    exact .unknown (SortedMap.get?_eq_none.1 hget)
  | some entry =>
    rw [hget] at h
    have hdefect : entryDefect? entry target x = some e := h
    have hentry := SortedMap.get?_eq_some.1 hget
    by_cases hforeign : x.role = .buildInput ∧ Excludes entry.platforms target
    · obtain ⟨hrole, platforms, hplatforms, htarget⟩ := hforeign
      rw [entryDefect?_of_foreign hrole hplatforms htarget] at hdefect
      cases hdefect
      exact .foreign hentry hrole hplatforms htarget
    · rw [entryDefect?_of_built hforeign] at hdefect
      split at hdefect
      next hbroken =>
        cases hdefect
        exact .broken hentry hforeign hbroken
      · cases hdefect

theorem dependencyDefect?_eq_none :
    c.dependencyDefect? target x = none ↔ ∀ e, ¬ Fails c target x e := by
  rw [Option.eq_none_iff_forall_ne_some]
  exact forall_congr' fun e => not_congr dependencyDefect?_eq_some

/-- A package that is unknown or broken fails in any role. -/
theorem exists_fails (h : x.name ∉ c.packages.keys ∨
    ∃ entry, (x.name, entry) ∈ c.packages.entries ∧ entry.broken = true) :
    ∃ e, Fails c target x e := by
  obtain hkey | ⟨entry, hentry, hbroken⟩ := h
  · exact ⟨_, .unknown hkey⟩
  · by_cases hforeign : x.role = .buildInput ∧ Excludes entry.platforms target
    · obtain ⟨hrole, platforms, hplatforms, htarget⟩ := hforeign
      exact ⟨_, .foreign hentry hrole hplatforms htarget⟩
    · exact ⟨_, .broken hentry hforeign hbroken⟩

/-- What runs on the building machine fails only if it is unknown or broken. -/
theorem unknown_or_broken_of_fails (hrole : x.role = .nativeBuildInput) (h : Fails c target x e) :
    x.name ∉ c.packages.keys ∨
      ∃ entry, (x.name, entry) ∈ c.packages.entries ∧ entry.broken = true := by
  cases h with
  | unknown hkey => exact .inl hkey
  | foreign hentry hbuild hplatforms htarget => rw [hrole] at hbuild; cases hbuild
  | broken hentry hbuilt hbroken => exact .inr ⟨_, hentry, hbroken⟩

/-! ## Descriptors -/

/-- The answer of a catalog about a descriptor. -/
inductive Verdict (c : Catalog) (d : Descriptor) : Except ResolveError Handle → Prop where
  /-- The catalog lists targets, and this is none of them. -/
  | uncovered (htarget : Excludes c.targets d.target) :
      Verdict c d (.error (.unsupportedTarget ⟨d.target.triple, "not listed in the catalog"⟩))
  /-- A dependency fails and none before it does. -/
  | failing {before after : List Dependency} {x : Dependency} {e : ResolveError}
      (htarget : ¬ Excludes c.targets d.target)
      (hsplit : d.nativeBuildInputs ++ d.buildInputs = before ++ x :: after)
      (hbefore : ∀ y ∈ before, ∀ e', ¬ Fails c d.target y e') (hfails : Fails c d.target x e) :
      Verdict c d (.error e)
  /-- No dependency fails. -/
  | resolved (htarget : ¬ Excludes c.targets d.target)
      (hall : ∀ x ∈ d.nativeBuildInputs ++ d.buildInputs, ∀ e, ¬ Fails c d.target x e) :
      Verdict c d (.ok ⟨d.digest, d.target,
        .catalog ((d.nativeBuildInputs ++ d.buildInputs).map (·.name))⟩)

theorem targetDefect?_of_excludes (h : Excludes c.targets target) :
    c.targetDefect? target =
      some (.unsupportedTarget ⟨target.triple, "not listed in the catalog"⟩) := by
  unfold targetDefect?
  rw [covers_eq_false.2 h]
  rfl

theorem targetDefect?_of_not_excludes (h : ¬ Excludes c.targets target) :
    c.targetDefect? target = none := by
  unfold targetDefect?
  rw [covers_eq_true.2 h]
  rfl

theorem defect?_of_not_excludes (h : ¬ Excludes c.targets d.target) :
    c.defect? d =
      (d.nativeBuildInputs ++ d.buildInputs).findSome? (c.dependencyDefect? d.target) := by
  unfold defect?
  rw [targetDefect?_of_not_excludes h]
  rfl

theorem check_of_verdict {answer : Except ResolveError Handle} (h : Verdict c d answer) :
    c.check d = answer := by
  unfold check
  cases h with
  | uncovered htarget =>
    unfold defect?
    rw [targetDefect?_of_excludes htarget]
    rfl
  | @failing before after x e htarget hsplit hbefore hfails =>
    have hfirst : c.defect? d = some e := by
      rw [defect?_of_not_excludes htarget, List.findSome?_eq_some_iff]
      exact ⟨before, x, after, hsplit, dependencyDefect?_eq_some.2 hfails,
        fun y hy => dependencyDefect?_eq_none.2 (hbefore y hy)⟩
    rw [hfirst]
  | resolved htarget hall =>
    have hnone : c.defect? d = none := by
      rw [defect?_of_not_excludes htarget, List.findSome?_eq_none_iff]
      exact fun x hx => dependencyDefect?_eq_none.2 (hall x hx)
    rw [hnone]
    rfl

theorem exists_verdict (c : Catalog) (d : Descriptor) : ∃ answer, Verdict c d answer := by
  by_cases htarget : Excludes c.targets d.target
  · exact ⟨_, .uncovered htarget⟩
  · cases hdefect : c.defect? d with
    | none =>
      rw [defect?_of_not_excludes htarget, List.findSome?_eq_none_iff] at hdefect
      exact ⟨_, .resolved htarget fun x hx => dependencyDefect?_eq_none.1 (hdefect x hx)⟩
    | some e =>
      rw [defect?_of_not_excludes htarget, List.findSome?_eq_some_iff] at hdefect
      obtain ⟨before, x, after, hsplit, hfails, hbefore⟩ := hdefect
      exact ⟨_, .failing htarget hsplit (fun y hy => dependencyDefect?_eq_none.1 (hbefore y hy))
        (dependencyDefect?_eq_some.1 hfails)⟩

theorem check_eq_iff {answer : Except ResolveError Handle} :
    c.check d = answer ↔ Verdict c d answer := by
  refine ⟨?_, check_of_verdict⟩
  rintro rfl
  obtain ⟨answer, h⟩ := exists_verdict c d
  rw [check_of_verdict h]
  exact h

/-- A handle is on the descriptor that was checked. -/
theorem digest_of_check {handle : Handle} (h : c.check d = .ok handle) :
    handle.digest = d.digest := by
  cases check_eq_iff.1 h with
  | resolved _ _ => rfl

theorem check_eq_ok_iff : (∃ handle, c.check d = .ok handle) ↔
    ¬ Excludes c.targets d.target ∧
      ∀ x ∈ d.nativeBuildInputs ++ d.buildInputs, ∀ e, ¬ Fails c d.target x e := by
  constructor
  · rintro ⟨handle, h⟩
    cases check_eq_iff.1 h with
    | resolved htarget hall => exact ⟨htarget, hall⟩
  · rintro ⟨htarget, hall⟩
    exact ⟨_, check_of_verdict (.resolved htarget hall)⟩

/-- The check of a descriptor answers exactly the verdict of the catalog. It succeeds if the target
is covered and no dependency fails. In the native role only an unknown or broken package fails, and
such a package fails in every role. -/
theorem check_exact (c : Catalog) (d : Descriptor) :
    (∀ answer, c.check d = answer ↔ Verdict c d answer) ∧
      ((∃ handle, c.check d = .ok handle) ↔ ¬ Excludes c.targets d.target ∧
        ∀ x ∈ d.nativeBuildInputs ++ d.buildInputs, ∀ e, ¬ Fails c d.target x e) ∧
      (∀ x : Dependency, x.role = .nativeBuildInput →
        ((∃ e, Fails c d.target x e) ↔ x.name ∉ c.packages.keys ∨
          ∃ entry, (x.name, entry) ∈ c.packages.entries ∧ entry.broken = true)) ∧
      ∀ x ∈ d.nativeBuildInputs ++ d.buildInputs, (x.name ∉ c.packages.keys ∨
        ∃ entry, (x.name, entry) ∈ c.packages.entries ∧ entry.broken = true) →
          ∃ e, c.check d = .error e := by
  refine ⟨fun answer => check_eq_iff, check_eq_ok_iff, ?_, ?_⟩
  · intro x hrole
    refine ⟨?_, exists_fails⟩
    rintro ⟨e, h⟩
    exact unknown_or_broken_of_fails hrole h
  · intro x hx hdefect
    have hexists : ∃ e, Fails c d.target x e := exists_fails hdefect
    obtain ⟨e, hfails⟩ := hexists
    cases hcheck : c.check d with
    | error e => exact ⟨e, rfl⟩
    | ok handle => exact absurd hfails ((check_eq_ok_iff.1 ⟨handle, hcheck⟩).2 x hx e)

/-- A catalog with a package that is broken and built for no target. -/
def brokenEverywhere : Catalog :=
  empty.withPackage "zlib" ⟨some [], true, none⟩

/-- A descriptor that needs the package in both roles, and one that nobody knows. -/
def needsTwice : Descriptor :=
  ⟨Target.aarch64Linux, [⟨"zlib", .nativeBuildInput⟩],
    [⟨"zlib", .buildInput⟩, ⟨"cmake", .buildInput⟩], SortedMap.empty⟩

/-- What runs on the building machine is refused as broken, whatever it is built for. -/
theorem check_exact_both_roles :
    brokenEverywhere.check needsTwice
        = .error (.buildFailure "package 'zlib' is marked broken: no reason given") ∧
      ∃ e, Fails brokenEverywhere Target.aarch64Linux ⟨"zlib", .nativeBuildInput⟩ e := by
  have hentry : ("zlib", ⟨some [], true, none⟩) ∈ brokenEverywhere.packages.entries :=
    List.mem_cons_self
  have hcovered : ¬ Excludes brokenEverywhere.targets needsTwice.target := by
    rintro ⟨targets, h, _⟩
    cases h
  have hfails : Fails brokenEverywhere needsTwice.target ⟨"zlib", .nativeBuildInput⟩
      (.buildFailure "package 'zlib' is marked broken: no reason given") := by
    have hbuilt : ¬ (Role.nativeBuildInput = .buildInput ∧
        Excludes (some []) needsTwice.target) := fun h => nomatch h.1
    exact Fails.broken (x := ⟨"zlib", .nativeBuildInput⟩) hentry hbuilt rfl
  obtain ⟨hexact, _, hnative, _⟩ := check_exact brokenEverywhere needsTwice
  constructor
  · have hsplit : needsTwice.nativeBuildInputs ++ needsTwice.buildInputs =
        [] ++ ⟨"zlib", .nativeBuildInput⟩ :: needsTwice.buildInputs := rfl
    exact (hexact _).2 (.failing hcovered hsplit (fun y hy => nomatch hy) hfails)
  · exact (hnative ⟨"zlib", .nativeBuildInput⟩ rfl).2 (.inr ⟨_, hentry, rfl⟩)

end CrossShell.Catalog
