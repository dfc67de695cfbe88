import CrossShell.Proofs.Catalog.Check
import CrossShell.Proofs.Config.Describe
import CrossShell.Proofs.Descriptor

/-!
Which packages a list of platforms is asked about.

A dependency has its role twice: as a field of its own, which a catalog looks at, and through the
list that it stands in. Whatever makes a descriptor from lists of packages gives every dependency
the role of its list. Reading a descriptor from JSON keeps the roles of the text, so it may give a
descriptor whose roles and lists differ, and exactly then a catalog does not follow the lists.
-/

set_option autoImplicit false

namespace CrossShell

/-! ## Roles and lists -/

namespace Descriptor

/-- Every dependency has the role of the list that it stands in. -/
structure RolesMatch (d : Descriptor) : Prop where
  native : ∀ x ∈ d.nativeBuildInputs, x.role = .nativeBuildInput
  build : ∀ x ∈ d.buildInputs, x.role = .buildInput

/-- The descriptors that are made from lists of packages. -/
inductive Composed : Descriptor → Prop where
  | compose (target : Target) (natives builds : List Dependency) :
      Composed (compose target natives builds).1
  | composeTriple {triple : String} {natives builds : List String} {d : Descriptor}
      {warnings : List Warning} (h : composeTriple triple natives builds = .ok (d, warnings)) :
      Composed d
  | describe {c : Config} {d : Descriptor} {warnings : List Warning}
      (h : c.describe = .ok (d, warnings)) : Composed d
  | withEnv {d : Descriptor} (h : Composed d) (env : SortedMap String) : Composed (d.withEnv env)

theorem role_of_mem_inRole {role : Role} {ds : List Dependency} {x : Dependency}
    (h : x ∈ ds.map (Dependency.inRole role)) : x.role = role := by
  obtain ⟨d, -, rfl⟩ := List.mem_map.1 h
  rfl

theorem rolesMatch_compose (target : Target) (natives builds : List Dependency) :
    (compose target natives builds).1.RolesMatch :=
  ⟨fun _ hx => role_of_mem_inRole hx, fun _ hx => role_of_mem_inRole hx⟩

theorem exists_compose_of_composeTriple {triple : String} {natives builds : List String}
    {d : Descriptor} {warnings : List Warning}
    (h : composeTriple triple natives builds = .ok (d, warnings)) :
    ∃ target natives builds, (compose target natives builds).1 = d := by
  unfold composeTriple at h
  cases htarget : Target.parse triple with
  | error error => rw [htarget] at h; cases h
  | ok target =>
    rw [htarget] at h
    have hd := congrArg Prod.fst (Except.ok.inj h)
    exact ⟨target, _, _, hd⟩

theorem rolesMatch_describe {c : Config} {d : Descriptor} {warnings : List Warning}
    (h : c.describe = .ok (d, warnings)) : d.RolesMatch := by
  obtain ⟨-, target, -, rfl⟩ := Config.describe_eq_ok h
  constructor
  · intro x hx
    obtain ⟨name, -, rfl⟩ := List.mem_map.1 hx
    rfl
  · intro x hx
    obtain ⟨name, -, rfl⟩ := List.mem_map.1 hx
    rfl

theorem rolesMatch_of_composed {d : Descriptor} (h : Composed d) : d.RolesMatch := by
  induction h with
  | compose target natives builds => exact rolesMatch_compose target natives builds
  | composeTriple h =>
    obtain ⟨target, natives, builds, rfl⟩ := exists_compose_of_composeTriple h
    exact rolesMatch_compose target natives builds
  | describe h => exact rolesMatch_describe h
  | withEnv _ env ih => exact ⟨ih.native, ih.build⟩

end Descriptor

/-! ## What a catalog asks -/

namespace Catalog

variable {c : Catalog} {d : Descriptor} {target : Target} {x : Dependency} {entry : CatalogEntry}

/-- Lists of platforms are asked about the packages of the target and about no others. -/
structure FollowsLists (c : Catalog) (d : Descriptor) : Prop where
  restricts : ∀ x ∈ d.buildInputs, ∀ entry platforms, c.packages.get? x.name = some entry →
    entry.platforms = some platforms → d.target ∉ platforms →
      c.dependencyDefect? d.target x = some (.crossUnsupported (some x.name) d.target.triple
        ("available on: " ++ ", ".intercalate (platforms.map Target.triple)))
  exempts : ∀ x ∈ d.nativeBuildInputs, ∀ entry list, c.packages.get? x.name = some entry →
    (c.withPackage x.name { entry with platforms := list }).dependencyDefect? d.target x
      = c.dependencyDefect? d.target x

theorem dependencyDefect?_of_get? (h : c.packages.get? x.name = some entry) :
    c.dependencyDefect? target x = entryDefect? entry target x := by
  unfold dependencyDefect?
  rw [h]

theorem entryDefect?_native (hrole : x.role = .nativeBuildInput) (list : Option (List Target)) :
    entryDefect? { entry with platforms := list } target x = entryDefect? entry target x := by
  simp [entryDefect?, hrole]

theorem dependencyDefect?_withPlatforms {name : String} (h : c.packages.get? name = some entry)
    (list : Option (List Target)) (hx : x.role = .nativeBuildInput ∨ x.name ≠ name) :
    (c.withPackage name { entry with platforms := list }).dependencyDefect? target x
      = c.dependencyDefect? target x := by
  by_cases hname : x.name = name
  · have hrole := hx.resolve_right fun hne => hne hname
    subst hname
    have hnew : (c.withPackage x.name { entry with platforms := list }).packages.get? x.name
        = some { entry with platforms := list } := by
      simp [withPackage]
    rw [dependencyDefect?_of_get? h, dependencyDefect?_of_get? hnew, entryDefect?_native hrole]
  · have hsame : (c.withPackage name { entry with platforms := list }).packages.get? x.name
        = c.packages.get? x.name := by
      simp [withPackage, hname]
    unfold dependencyDefect?
    rw [hsame]

theorem followsLists_of_rolesMatch (h : d.RolesMatch) (c : Catalog) : c.FollowsLists d := by
  constructor
  · intro x hx entry platforms hentry hplatforms htarget
    rw [dependencyDefect?_of_get? hentry]
    exact entryDefect?_of_foreign (h.build x hx) hplatforms htarget
  · intro x hx entry list hentry
    exact dependencyDefect?_withPlatforms hentry list (.inl (h.native x hx))

/-- A catalog with one package, built for no target. -/
def nowhere (name : String) : Catalog :=
  empty.withPackage name ⟨some [], false, none⟩

theorem get?_nowhere (name : String) :
    (nowhere name).packages.get? name = some ⟨some [], false, none⟩ := by
  simp [nowhere, withPackage]

theorem rolesMatch_of_followsLists (h : ∀ c : Catalog, c.FollowsLists d) : d.RolesMatch := by
  -- a catalog whose only package is built for no target tells the two roles apart
  constructor
  · intro x hx
    cases hrole : x.role with
    | nativeBuildInput => rfl
    | buildInput =>
      have hentry := get?_nowhere x.name
      have hsame := (h (nowhere x.name)).exempts x hx _ none hentry
      have hforeign : entryDefect? ⟨some [], false, none⟩ d.target x = some _ :=
        entryDefect?_of_foreign hrole rfl (by simp)
      rw [dependencyDefect?_of_get? hentry, hforeign] at hsame
      simp [withPackage, dependencyDefect?, entryDefect?, covers] at hsame
  · intro x hx
    cases hrole : x.role with
    | buildInput => rfl
    | nativeBuildInput =>
      have hentry := get?_nowhere x.name
      have hdefect := (h (nowhere x.name)).restricts x hx _ [] hentry rfl (by simp)
      rw [dependencyDefect?_of_get? hentry] at hdefect
      simp [entryDefect?, hrole] at hdefect

/-! ## Whole descriptors -/

theorem check_of_no_defect (h : c.defect? d = none) :
    c.check d = .ok ⟨d.digest, d.target, .catalog (d.dependencies.map (·.name))⟩ := by
  unfold check
  rw [h]

theorem findSome?_congr {α β : Type} {f g : α → Option β} {l : List α}
    (h : ∀ a ∈ l, f a = g a) : l.findSome? f = l.findSome? g := by
  induction l with
  | nil => rfl
  | cons a l ih =>
    have hrest := ih fun b hb => h b (List.mem_cons_of_mem a hb)
    rw [List.findSome?_cons, List.findSome?_cons, h a List.mem_cons_self, hrest]

/-- A package of the target that is not built for it is never accepted. -/
theorem check_error_of_excludes (h : d.RolesMatch) (hx : x ∈ d.buildInputs)
    (hentry : c.packages.get? x.name = some entry) (hexcludes : Excludes entry.platforms d.target) :
    ∃ e, c.check d = .error e := by
  obtain ⟨platforms, hplatforms, htarget⟩ := hexcludes
  have hdefect := (followsLists_of_rolesMatch h c).restricts x hx entry platforms hentry hplatforms
    htarget
  have hfails := dependencyDefect?_eq_some.1 hdefect
  cases hcheck : c.check d with
  | error e => exact ⟨e, rfl⟩
  | ok handle =>
    have hnone := (check_eq_ok_iff.1 ⟨handle, hcheck⟩).2 x (List.mem_append_right _ hx)
    exact absurd hfails (hnone _)

/-- The platforms of a package that is not for the target make no difference. -/
theorem check_withPlatforms {name : String} (h : d.RolesMatch)
    (hname : name ∉ d.buildInputs.map (·.name)) (hentry : c.packages.get? name = some entry)
    (list : Option (List Target)) :
    (c.withPackage name { entry with platforms := list }).check d = c.check d := by
  have hsame : ∀ x ∈ d.dependencies,
      (c.withPackage name { entry with platforms := list }).dependencyDefect? d.target x
        = c.dependencyDefect? d.target x := by
    intro x hx
    obtain hnative | hbuild := List.mem_append.1 hx
    · exact dependencyDefect?_withPlatforms hentry list (.inl (h.native x hnative))
    · have hne : x.name ≠ name := fun heq => hname (heq ▸ List.mem_map_of_mem hbuild)
      exact dependencyDefect?_withPlatforms hentry list (.inr hne)
  have hdefect : (c.withPackage name { entry with platforms := list }).defect? d = c.defect? d := by
    unfold defect?
    rw [findSome?_congr hsame]
    rfl
  unfold check
  rw [hdefect]

/-- A descriptor that is made from lists of packages has the roles of its lists, and these are what
makes every catalog ask the packages of the target, and no others, for their platforms. Reading from
JSON gives every descriptor there is, whatever its roles are. -/
theorem composed_follows_lists (d : Descriptor) :
    (Descriptor.Composed d → d.RolesMatch) ∧
    (d.RolesMatch ↔ ∀ c : Catalog, c.FollowsLists d) ∧
    (d.RolesMatch → ∀ c : Catalog,
      (∀ x ∈ d.buildInputs, ∀ entry, c.packages.get? x.name = some entry →
        Excludes entry.platforms d.target → ∃ e, c.check d = .error e) ∧
      ∀ name ∉ d.buildInputs.map (·.name), ∀ entry list, c.packages.get? name = some entry →
        (c.withPackage name { entry with platforms := list }).check d = c.check d) ∧
    Json.decode Descriptor.reader d.toJson.compact = .ok d := by
  refine ⟨Descriptor.rolesMatch_of_composed,
    ⟨followsLists_of_rolesMatch, rolesMatch_of_followsLists⟩, fun hroles c => ⟨?_, ?_⟩,
    d.decode_compact⟩
  · intro x hx entry hentry hexcludes
    exact check_error_of_excludes hroles hx hentry hexcludes
  · intro name hname entry list hentry
    exact check_withPlatforms hroles hname hentry list

/-- A library that claims to run on the building machine. -/
def mislabelled : Dependency :=
  ⟨"alsa-lib", .nativeBuildInput⟩

/-- Put into a descriptor it gets its role back, and a catalog that has it for no target refuses
it. -/
theorem composed_follows_lists_mislabelled :
    (Descriptor.compose Target.aarch64Linux [] [mislabelled]).1.RolesMatch ∧
      ∃ e, (nowhere "alsa-lib").check
        (Descriptor.compose Target.aarch64Linux [] [mislabelled]).1 = .error e := by
  obtain ⟨hcomposed, -, hchecks, -⟩ := composed_follows_lists
    (Descriptor.compose Target.aarch64Linux [] [mislabelled]).1
  have hroles := hcomposed (.compose Target.aarch64Linux [] [mislabelled])
  obtain ⟨hrefuses, -⟩ := hchecks hroles (nowhere "alsa-lib")
  exact ⟨hroles, hrefuses ⟨"alsa-lib", .buildInput⟩ (List.mem_singleton.2 rfl) _
    (get?_nowhere "alsa-lib") ⟨[], rfl, List.not_mem_nil⟩⟩

/-- A descriptor of it that nothing makes from lists of packages. -/
def misread : Descriptor :=
  ⟨Target.aarch64Linux, [], [mislabelled], SortedMap.empty⟩

def misreadText : String :=
  "\x7b\"target\":\"aarch64-unknown-linux-gnu\",\"native_build_inputs\":[]," ++
    "\"build_inputs\":[\x7b\"name\":\"alsa-lib\",\"role\":\"native_build_input\"\x7d]\x7d"

/-- Read from JSON it keeps the role that it claims to have, and the same catalog accepts it. -/
theorem decoded_roles_differ :
    Json.decode Descriptor.reader misreadText = .ok misread ∧ ¬ misread.RolesMatch ∧
      ¬ (nowhere "alsa-lib").FollowsLists misread ∧
      ∃ handle, (nowhere "alsa-lib").check misread = .ok handle := by
  have hchars : misread.toJson.compactChars = misreadText.toList := by decide +kernel
  have htext : misread.toJson.compact = misreadText := by
    rw [Json.compact, hchars, String.ofList_toList]
  have hdecode := misread.decode_compact
  rw [htext] at hdecode
  have hnone : (nowhere "alsa-lib").defect? misread = none := rfl
  refine ⟨hdecode, ?_, ?_, ?_⟩
  · intro h
    have hrole := h.build mislabelled List.mem_cons_self
    cases hrole
  · intro h
    have hdefect := h.restricts mislabelled List.mem_cons_self _ [] (get?_nowhere "alsa-lib") rfl
      List.not_mem_nil
    cases hdefect
  · exact ⟨_, check_of_no_defect hnone⟩

end Catalog

end CrossShell
