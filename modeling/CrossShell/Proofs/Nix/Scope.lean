import CrossShell.Proofs.Nix.ReadBack
import CrossShell.Proofs.Packages
import CrossShell.Proofs.ShellEnv

/-!
The names of a shell expression: none is bound twice and none is unbound.

`WellScoped` is what the Nix language asks of the names of a term. The arguments of the function in
a shell expression are the packages without repetitions, of which the one that makes the shell is
put first, and its attributes have keys that no variable may have or that are sorted.
-/

set_option autoImplicit false

namespace CrossShell.Nix

/-- No function has an argument twice, no set has an attribute twice, and every name is bound. -/
inductive WellScoped : List String → Term → Prop where
  | name {scope : List String} {text : String} (h : text ∈ scope) : WellScoped scope (.name text)
  | string {scope : List String} (value : String) : WellScoped scope (.string value)
  | select {scope : List String} {t : Term} (h : WellScoped scope t) (key : String) :
      WellScoped scope (.select t key)
  | apply {scope : List String} {f argument : Term} (hf : WellScoped scope f)
      (hargument : WellScoped scope argument) : WellScoped scope (.apply f argument)
  | function {scope formals : List String} {body : Term} (hformals : formals.Nodup)
      (hbody : WellScoped (formals ++ scope) body) : WellScoped scope (.function formals body)
  | list {scope : List String} {items : List Term} (h : ∀ t ∈ items, WellScoped scope t) :
      WellScoped scope (.list items)
  | set {scope : List String} {attributes : List (String × Term)}
      (hkeys : (attributes.map Prod.fst).Nodup) (h : ∀ a ∈ attributes, WellScoped scope a.2) :
      WellScoped scope (.set attributes)

/-! ## Shell expressions -/

open CrossShell.Nix.Parser (setTerm shellTerm)

variable {formals natives builds : List String} {strings : List (String × String)}

theorem wellScoped_names {scope names : List String} (h : ∀ name ∈ names, name ∈ scope) :
    WellScoped scope (.list (names.map .name)) := by
  refine WellScoped.list fun t ht => ?_
  obtain ⟨name, hname, rfl⟩ := List.mem_map.1 ht
  exact WellScoped.name (h name hname)

theorem keys_strings (strings : List (String × String)) :
    (strings.map fun (key, value) => (key, Term.string value)).map Prod.fst =
      strings.map Prod.fst := by
  rw [List.map_map]
  rfl

theorem wellScoped_setTerm {scope : List String} (hnatives : ∀ name ∈ natives, name ∈ scope)
    (hbuilds : ∀ name ∈ builds, name ∈ scope)
    (hkeys : ("nativeBuildInputs" :: "buildInputs" :: strings.map Prod.fst).Nodup) :
    WellScoped scope (setTerm natives builds strings) := by
  refine WellScoped.set ?_ fun a ha => ?_
  · rw [List.map_cons, List.map_cons, keys_strings]
    exact hkeys
  · obtain rfl | rfl | hstring : a = ("nativeBuildInputs", .list (natives.map .name)) ∨
        a = ("buildInputs", .list (builds.map .name)) ∨
        a ∈ strings.map fun (key, value) => (key, Term.string value) := by
      simpa only [List.mem_cons] using ha
    · exact wellScoped_names hnatives
    · exact wellScoped_names hbuilds
    · obtain ⟨e, _, rfl⟩ := List.mem_map.1 hstring
      exact WellScoped.string e.2

theorem wellScoped_shellTerm (hformals : ("mkShell" :: formals).Nodup)
    (hnatives : ∀ name ∈ natives, name ∈ "mkShell" :: formals)
    (hbuilds : ∀ name ∈ builds, name ∈ "mkShell" :: formals)
    (hkeys : ("nativeBuildInputs" :: "buildInputs" :: strings.map Prod.fst).Nodup) :
    WellScoped ["pkgs"] (shellTerm formals natives builds strings) := by
  have hpackages : WellScoped ["pkgs"] (.select (.name "pkgs") "callPackage") :=
    WellScoped.select (WellScoped.name List.mem_cons_self) "callPackage"
  have hshell : WellScoped ("mkShell" :: formals ++ ["pkgs"])
      (.apply (.name "mkShell") (setTerm natives builds strings)) := by
    refine WellScoped.apply (WellScoped.name List.mem_cons_self) (wellScoped_setTerm ?_ ?_ hkeys)
    · exact fun name hname => List.mem_append_left _ (hnatives name hname)
    · exact fun name hname => List.mem_append_left _ (hbuilds name hname)
  have hempty : WellScoped ["pkgs"] (.set []) := WellScoped.set List.nodup_nil nofun
  exact WellScoped.apply (WellScoped.apply hpackages (WellScoped.function hformals hshell)) hempty

/-! ## The names of a descriptor -/

section

variable {d : Descriptor} {host : Option Platform}

/-- The packages that the function for a descriptor has as arguments besides the one that makes the
shell. -/
def otherPackages (d : Descriptor) : List String :=
  d.packageNames.filter (· ≠ "mkShell")

theorem mem_otherPackages {name : String} :
    name ∈ otherPackages d ↔ name ∈ d.dependencies.map (·.name) ∧ name ≠ "mkShell" := by
  rw [otherPackages, List.mem_filter, Descriptor.mem_packageNames, decide_eq_true_iff]

theorem otherPackages_pairwise (d : Descriptor) :
    (otherPackages d).Pairwise fun a b =>
      (d.dependencies.map (·.name)).idxOf a < (d.dependencies.map (·.name)).idxOf b :=
  (eraseDups_pairwise _).filter _

theorem nodup_formals (d : Descriptor) : ("mkShell" :: otherPackages d).Nodup := by
  refine List.nodup_cons.2 ⟨fun hmem => (mem_otherPackages.1 hmem).2 rfl, ?_⟩
  exact (nodup_eraseDups _).filter _

theorem mem_formals {name : String} (h : name ∈ d.dependencies.map (·.name)) :
    name ∈ "mkShell" :: otherPackages d := by
  by_cases hshell : name = "mkShell"
  · rw [hshell]
    exact List.mem_cons_self
  · exact List.mem_cons_of_mem _ (mem_otherPackages.2 ⟨h, hshell⟩)

theorem nodup_keys (h : ∀ e ∈ (d.shellEnv host).entries, e.1 ∉ Config.reservedKeys) :
    ("nativeBuildInputs" :: "buildInputs" :: (d.shellEnv host).keys).Nodup := by
  have hreserved : ∀ key ∈ Config.reservedKeys, key ∉ (d.shellEnv host).keys := by
    intro key hkey hmem
    obtain ⟨e, he, rfl⟩ := List.mem_map.1 hmem
    exact h e he hkey
  have hsorted : (d.shellEnv host).keys.Nodup :=
    List.pairwise_map.2 (d.shellEnv host).distinct_entries
  have hnatives := hreserved "nativeBuildInputs" (by decide)
  have hbuilds := hreserved "buildInputs" (by decide)
  refine List.nodup_cons.2 ⟨?_, List.nodup_cons.2 ⟨hbuilds, hsorted⟩⟩
  intro hmem
  obtain heq | hmem := List.mem_cons.1 hmem
  · exact absurd heq (by decide)
  · exact hnatives hmem

end

/-- The expression of a config binds every name once and uses no other ones. Its function has as
arguments the one that makes the shell and, each where it comes first, all other packages of the
config; the lists that make the shell hold only arguments, and no attribute has the key of another
one or of anything else that a shell is made of. -/
theorem rendered_names_are_scoped {c : Config} {d : Descriptor} {warnings : List Warning}
    {nixpkgs text : String} {host : Option Platform} (hdescribe : c.describe = .ok (d, warnings))
    (hrender : render d nixpkgs host = .ok text) :
    ∃ (e : Expression) (packages : List String) (strings : List (String × String)) (shell : Term),
      text = e.importText ++ e.shellText ∧ Parser.read e.shellText = some shell ∧
      shell = .apply (.apply (.select (.name "pkgs") "callPackage")
        (.function ("mkShell" :: packages) (.apply (.name "mkShell") (.set
          (("nativeBuildInputs", .list (c.nativeBuildInputs.map .name)) ::
            ("buildInputs", .list (c.buildInputs.map .name)) ::
            strings.map fun (key, value) => (key, .string value))))))
        (.set []) ∧
      ("mkShell" :: packages).Nodup ∧
      (∀ name, name ∈ packages ↔ name ∈ c.nativeBuildInputs ++ c.buildInputs ∧ name ≠ "mkShell") ∧
      (packages.Pairwise fun a b => (c.nativeBuildInputs ++ c.buildInputs).idxOf a <
        (c.nativeBuildInputs ++ c.buildInputs).idxOf b) ∧
      (∀ name ∈ c.nativeBuildInputs ++ c.buildInputs, name ∈ "mkShell" :: packages) ∧
      ("nativeBuildInputs" :: "buildInputs" :: strings.map Prod.fst).Nodup ∧
      (∀ entry ∈ strings, entry.1 ∉ Config.reservedKeys) ∧
      WellScoped ["pkgs"] shell := by
  obtain ⟨e, hexpression, htext⟩ := render_eq_ok hrender
  obtain ⟨hnatives, hbuilds⟩ := Config.names_of_describe hdescribe
  obtain ⟨hkeys, _⟩ := Config.describe_eq_ok hdescribe
  obtain ⟨_, henv, _⟩ := Config.describe_ok hdescribe
  have hnames : d.dependencies.map (·.name) = c.nativeBuildInputs ++ c.buildInputs := by
    rw [Descriptor.map_name_dependencies, hnatives, hbuilds]
  have hread := Expression.read_shellText hexpression
  have hbound : ∀ name ∈ c.nativeBuildInputs ++ c.buildInputs,
      name ∈ "mkShell" :: otherPackages d := fun name hname => mem_formals (hnames ▸ hname)
  have hreserved : ∀ e ∈ (d.shellEnv host).entries, e.1 ∉ Config.reservedKeys := by
    apply Descriptor.not_mem_reservedKeys_of_mem_shellEnv
    rw [henv]
    exact Config.not_mem_reservedKeys_of_badKey? hkeys
  have hscoped := wellScoped_shellTerm (nodup_formals d)
    (fun name hname => hbound name (List.mem_append_left _ hname))
    (fun name hname => hbound name (List.mem_append_right _ hname)) (nodup_keys hreserved)
  rw [hnatives, hbuilds] at hread
  refine ⟨e, otherPackages d, (d.shellEnv host).entries, _, htext, hread, rfl, nodup_formals d, ?_,
    ?_, hbound, nodup_keys hreserved, hreserved, hscoped⟩
  · intro name
    rw [← hnames]
    exact mem_otherPackages
  · rw [← hnames]
    exact otherPackages_pairwise d

/-- A config with a package that has the name of the function that makes shells, and with one that
is both for the building machine and for the target. -/
def repeatingConfig : Config :=
  ⟨"aarch64-unknown-linux-gnu", ["gcc", "zlib", "gcc"], ["zlib", "mkShell"],
    SortedMap.ofList [("CROSSENV_TARGET", "none"), ("RUSTFLAGS", "-g")], none⟩

theorem rendered_names_are_scoped_repeating :
    ∃ (d : Descriptor) (warnings : List Warning) (text : String) (e : Expression)
      (packages : List String) (shell : Term), repeatingConfig.describe = .ok (d, warnings) ∧
      render d "<nixpkgs>" none = .ok text ∧ text = e.importText ++ e.shellText ∧
      Parser.read e.shellText = some shell ∧
      (∀ name, name ∈ packages ↔
        name ∈ ["gcc", "zlib", "gcc", "zlib", "mkShell"] ∧ name ≠ "mkShell") ∧
      ("mkShell" :: packages).Nodup ∧ WellScoped ["pkgs"] shell := by
  obtain ⟨d, warnings, hdescribe⟩ :
      ∃ d warnings, repeatingConfig.describe = .ok (d, warnings) := ⟨_, _, rfl⟩
  obtain ⟨text, hrender⟩ : ∃ text, render d "<nixpkgs>" none = .ok text := by
    cases hdescribe
    exact ⟨_, rfl⟩
  obtain ⟨e, packages, strings, shell, htext, hread, _, hnodup, hmem, _, _, _, _, hscoped⟩ :=
    rendered_names_are_scoped hdescribe hrender
  exact ⟨d, warnings, text, e, packages, shell, hdescribe, hrender, htext, hread, hmem, hnodup,
    hscoped⟩

end CrossShell.Nix
