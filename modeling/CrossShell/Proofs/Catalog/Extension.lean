import CrossShell.Proofs.Catalog.Check

/-!
Larger catalogs and smaller descriptors.

A descriptor resolves if its target is covered and each of its dependencies is available, so what
becomes of it depends on which dependencies there are, and not on their order or number. A larger
catalog has every dependency available that a smaller one has. A dependency that is moved to the
building machine is available if it was available for the target.
-/

set_option autoImplicit false

namespace CrossShell.Catalog

variable {c c' : Catalog} {d d' : Descriptor} {target : Target} {x : Dependency} {handle : Handle}

/-! ## Available dependencies -/

/-- The package is known and not broken, and what is for the target is built for it. -/
def Available (c : Catalog) (target : Target) (x : Dependency) : Prop :=
  ∃ entry, (x.name, entry) ∈ c.packages.entries ∧ entry.broken = false ∧
    ¬ (x.role = .buildInput ∧ Excludes entry.platforms target)

theorem entry_unique {name : String} {entry entry' : CatalogEntry}
    (h : (name, entry) ∈ c.packages.entries) (h' : (name, entry') ∈ c.packages.entries) :
    entry = entry' := by
  have hget := SortedMap.get?_eq_some.2 h
  rw [SortedMap.get?_eq_some.2 h'] at hget
  exact (Option.some_inj.1 hget).symm

theorem available_of_not_fails (h : ∀ e, ¬ Fails c target x e) : Available c target x := by
  have hkey : x.name ∈ c.packages.keys :=
    Decidable.byContradiction fun hkey => h _ (.unknown hkey)
  obtain ⟨⟨name, entry⟩, hentry, rfl⟩ := List.mem_map.1 hkey
  have hbuilt : ¬ (x.role = .buildInput ∧ Excludes entry.platforms target) := by
    rintro ⟨hrole, platforms, hplatforms, htarget⟩
    exact h _ (.foreign hentry hrole hplatforms htarget)
  have hsound : entry.broken = false := by
    rw [← Bool.not_eq_true]
    exact fun hbroken => h _ (.broken hentry hbuilt hbroken)
  exact ⟨entry, hentry, hsound, hbuilt⟩

theorem not_fails_of_available (h : Available c target x) (e : ResolveError) :
    ¬ Fails c target x e := by
  obtain ⟨entry, hentry, hsound, hbuilt⟩ := h
  intro hfails
  cases hfails with
  | unknown hkey => exact hkey (List.mem_map_of_mem hentry)
  | foreign hother hrole hplatforms htarget =>
    obtain rfl := entry_unique hentry hother
    exact hbuilt ⟨hrole, _, hplatforms, htarget⟩
  | broken hother _ hbroken =>
    obtain rfl := entry_unique hentry hother
    rw [hsound] at hbroken
    cases hbroken

theorem check_eq_ok : c.check d = .ok handle ↔
    ¬ Excludes c.targets d.target ∧ (∀ x ∈ d.dependencies, Available c d.target x) ∧
      handle = ⟨d.digest, d.target, .catalog (d.dependencies.map (·.name))⟩ := by
  constructor
  · intro h
    cases check_eq_iff.1 h with
    | resolved htarget hall =>
      exact ⟨htarget, fun x hx => available_of_not_fails (hall x hx), rfl⟩
  · rintro ⟨htarget, hall, rfl⟩
    exact check_of_verdict (.resolved htarget fun x hx => not_fails_of_available (hall x hx))

/-! ## Larger catalogs -/

/-- The second list has every target that the first one has. No list has them all. -/
def Widens (list list' : Option (List Target)) : Prop :=
  list' = none ∨ ∃ targets targets', list = some targets ∧ list' = some targets' ∧
    targets ⊆ targets'

/-- The second catalog covers what the first one covers, and has its packages at least as good. -/
structure Extends (c c' : Catalog) : Prop where
  targets : Widens c.targets c'.targets
  packages : ∀ name entry, (name, entry) ∈ c.packages.entries →
    ∃ entry', (name, entry') ∈ c'.packages.entries ∧
      (entry'.broken = true → entry.broken = true) ∧ Widens entry.platforms entry'.platforms

theorem Widens.excludes {list list' : Option (List Target)} (h : Widens list list')
    (hexcludes : Excludes list' target) : Excludes list target := by
  obtain ⟨targets', rfl, htarget⟩ := hexcludes
  obtain hnone | ⟨targets, listed, rfl, hlisted, hsubset⟩ := h
  · cases hnone
  · cases hlisted
    exact ⟨targets, rfl, fun hmem => htarget (hsubset hmem)⟩

theorem Extends.available (h : Extends c c') (hx : Available c target x) :
    Available c' target x := by
  obtain ⟨entry, hentry, hsound, hbuilt⟩ := hx
  obtain ⟨entry', hentry', hbroken, hwidens⟩ := h.packages x.name entry hentry
  have hsound' : entry'.broken = false := by
    rw [← Bool.not_eq_true]
    intro h'
    rw [hbroken h'] at hsound
    cases hsound
  exact ⟨entry', hentry', hsound', fun hforeign => hbuilt (hforeign.imp_right hwidens.excludes)⟩

theorem Extends.check (h : Extends c c') (hcheck : c.check d = .ok handle) :
    c'.check d = .ok handle := by
  obtain ⟨htarget, hall, hhandle⟩ := check_eq_ok.1 hcheck
  exact check_eq_ok.2 ⟨fun hexcludes => htarget (h.targets.excludes hexcludes),
    fun x hx => h.available (hall x hx), hhandle⟩

/-! ## Smaller descriptors -/

/-- The catalog has all that a descriptor asks for. -/
def Resolves (c : Catalog) (d : Descriptor) : Prop :=
  ∃ handle, c.check d = .ok handle

theorem resolves_iff : Resolves c d ↔
    ¬ Excludes c.targets d.target ∧ ∀ x ∈ d.dependencies, Available c d.target x := by
  constructor
  · rintro ⟨handle, h⟩
    obtain ⟨htarget, hall, -⟩ := check_eq_ok.1 h
    exact ⟨htarget, hall⟩
  · rintro ⟨htarget, hall⟩
    exact ⟨_, check_eq_ok.2 ⟨htarget, hall, rfl⟩⟩

/-- On the building machine no list of platforms counts. -/
theorem Available.inNativeRole (h : Available c target x) :
    Available c target (x.inRole .nativeBuildInput) := by
  obtain ⟨entry, hentry, hsound, -⟩ := h
  exact ⟨entry, hentry, hsound, fun hforeign => nomatch hforeign.1⟩

/-- A descriptor resolves if it asks for nothing that one which resolves does not ask for, but for
the roles of what it moves to the building machine. -/
theorem Resolves.of_subset (h : Resolves c d) (htarget : d'.target = d.target)
    (hmem : ∀ y ∈ d'.dependencies, y ∈ d.dependencies ∨
      ∃ x ∈ d.dependencies, y = x.inRole .nativeBuildInput) : Resolves c d' := by
  obtain ⟨hcovered, hall⟩ := resolves_iff.1 h
  rw [resolves_iff, htarget]
  refine ⟨hcovered, fun y hy => ?_⟩
  obtain hkept | ⟨x, hx, rfl⟩ := hmem y hy
  · exact hall y hkept
  · exact (hall x hx).inNativeRole

theorem mem_dependencies : x ∈ d.dependencies ↔ x ∈ d.nativeBuildInputs ∨ x ∈ d.buildInputs :=
  List.mem_append

theorem Resolves.of_sublist (h : Resolves c d) (htarget : d'.target = d.target)
    (hnative : d'.nativeBuildInputs ⊆ d.nativeBuildInputs)
    (hbuild : d'.buildInputs ⊆ d.buildInputs) : Resolves c d' := by
  refine h.of_subset htarget fun y hy => .inl ?_
  rw [mem_dependencies] at hy ⊢
  exact hy.imp (fun hmem => hnative hmem) fun hmem => hbuild hmem

/-- The descriptor whose dependency `x` stands among the packages of the building machine. -/
def moved (d : Descriptor) (x : Dependency) (before after rest : List Dependency) : Descriptor :=
  { d with nativeBuildInputs := before ++ x.inRole .nativeBuildInput :: after
           buildInputs := rest }

theorem Resolves.moved {before after front back : List Dependency} (h : Resolves c d)
    (hnative : d.nativeBuildInputs = before ++ after)
    (hbuild : d.buildInputs = front ++ x :: back) :
    Resolves c (Catalog.moved d x before after (front ++ back)) := by
  refine h.of_subset rfl fun y hy => ?_
  simp only [mem_dependencies, Catalog.moved, hnative, hbuild, List.mem_append, List.mem_cons]
    at hy ⊢
  obtain (hbefore | rfl | hafter) | hrest := hy
  · exact .inl (.inl (.inl hbefore))
  · exact .inr ⟨x, .inr (.inr (.inl rfl)), rfl⟩
  · exact .inl (.inl (.inr hafter))
  · exact .inl (.inr (hrest.imp_right .inr))

/-- What resolves against a catalog resolves to the same handle against every catalog that extends
it. Which of two descriptors with the same dependencies in each list resolves is not told apart by
order and repetition. A descriptor still resolves after a dependency is left out, or is moved from
those for the target to those of the building machine. -/
theorem resolution_is_monotone (c c' : Catalog) (d : Descriptor) :
    (Extends c c' → ∀ handle, c.check d = .ok handle → c'.check d = .ok handle) ∧
      (∀ d' : Descriptor, d'.target = d.target →
        (∀ x, x ∈ d'.nativeBuildInputs ↔ x ∈ d.nativeBuildInputs) →
        (∀ x, x ∈ d'.buildInputs ↔ x ∈ d.buildInputs) → (Resolves c d' ↔ Resolves c d)) ∧
      (∀ d' : Descriptor, d'.target = d.target →
        d'.nativeBuildInputs.Sublist d.nativeBuildInputs → d'.buildInputs.Sublist d.buildInputs →
          Resolves c d → Resolves c d') ∧
      ∀ (x : Dependency) (before after front back : List Dependency),
        d.nativeBuildInputs = before ++ after → d.buildInputs = front ++ x :: back →
          Resolves c d → Resolves c (moved d x before after (front ++ back)) := by
  refine ⟨fun h handle => h.check, ?_, ?_, ?_⟩
  · intro d' htarget hnative hbuild
    exact ⟨fun h => h.of_sublist htarget.symm (fun x => (hnative x).2) fun x => (hbuild x).2,
      fun h => h.of_sublist htarget (fun x => (hnative x).1) fun x => (hbuild x).1⟩
  · intro d' htarget hnative hbuild h
    exact h.of_sublist htarget hnative.subset hbuild.subset
  · intro x before after front back hnative hbuild h
    exact h.moved hnative hbuild

/-- A catalog of one library for one target. -/
def narrow : Catalog :=
  ⟨some [Target.aarch64Linux], ⟨[("zlib", ⟨some [Target.aarch64Linux], false, none⟩)],
    List.pairwise_singleton ..⟩⟩

/-- A catalog of the same library for every target, and of one that is broken. -/
def wide : Catalog :=
  ⟨none, ⟨[("gcc", ⟨none, true, none⟩), ("zlib", CatalogEntry.plain)], by decide +kernel⟩⟩

/-- A descriptor that asks for the library in both roles. -/
def inBothRoles : Descriptor :=
  ⟨Target.aarch64Linux, [⟨"zlib", .nativeBuildInput⟩], [⟨"zlib", .buildInput⟩], SortedMap.empty⟩

/-- A descriptor that asks for it twice for the target. -/
def repeating : Descriptor :=
  { inBothRoles with buildInputs := [⟨"zlib", .buildInput⟩, ⟨"zlib", .buildInput⟩] }

/-- A descriptor that asks for it once. -/
def thinned : Descriptor :=
  { inBothRoles with nativeBuildInputs := [] }

theorem extends_narrow_wide : Extends narrow wide := by
  refine ⟨.inl rfl, fun name entry hmem => ?_⟩
  cases List.mem_singleton.1 hmem
  exact ⟨CatalogEntry.plain, List.mem_cons_of_mem _ List.mem_cons_self, nofun, .inl rfl⟩

theorem resolves_narrow_inBothRoles : Resolves narrow inBothRoles := by
  have hentry : ("zlib", ⟨some [Target.aarch64Linux], false, none⟩) ∈ narrow.packages.entries :=
    List.mem_cons_self
  have hlisted : ¬ Excludes (some [Target.aarch64Linux]) Target.aarch64Linux := by
    rintro ⟨targets, hsome, hnot⟩
    cases hsome
    exact hnot List.mem_cons_self
  have havailable : ∀ role, Available narrow Target.aarch64Linux ⟨"zlib", role⟩ :=
    fun role => ⟨_, hentry, rfl, fun hforeign => hlisted hforeign.2⟩
  refine resolves_iff.2 ⟨hlisted, fun x hx => ?_⟩
  obtain rfl | rfl : x = ⟨"zlib", .nativeBuildInput⟩ ∨ x = ⟨"zlib", .buildInput⟩ := by
    simpa [Descriptor.dependencies, inBothRoles] using hx
  · exact havailable .nativeBuildInput
  · exact havailable .buildInput

/-- The library is asked for in a larger catalog, twice in one list, in one list only, and in the
other list. -/
theorem resolution_is_monotone_zlib :
    (∃ handle, narrow.check inBothRoles = .ok handle ∧ wide.check inBothRoles = .ok handle) ∧
      Resolves narrow repeating ∧ Resolves narrow thinned ∧
      Resolves narrow (moved inBothRoles ⟨"zlib", .buildInput⟩ [] [⟨"zlib", .nativeBuildInput⟩]
        []) := by
  obtain ⟨hlarger, hsame, hfewer, hmoved⟩ := resolution_is_monotone narrow wide inBothRoles
  have hresolves := resolves_narrow_inBothRoles
  refine ⟨?_, ?_, ?_, ?_⟩
  · obtain ⟨handle, hcheck⟩ := hresolves
    exact ⟨handle, hcheck, hlarger extends_narrow_wide handle hcheck⟩
  · have hbuild : ∀ x, x ∈ repeating.buildInputs ↔ x ∈ inBothRoles.buildInputs := by
      simp [repeating, inBothRoles]
    exact (hsame repeating rfl (fun x => Iff.rfl) hbuild).2 hresolves
  · exact hfewer thinned rfl (List.nil_sublist _) (List.Sublist.refl _) hresolves
  · exact hmoved ⟨"zlib", .buildInput⟩ [] [⟨"zlib", .nativeBuildInput⟩] [] [] rfl rfl hresolves

end CrossShell.Catalog
