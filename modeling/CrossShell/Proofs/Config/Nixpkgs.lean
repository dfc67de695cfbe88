import CrossShell.Proofs.Config.Load
import CrossShell.Proofs.Machine.FullPath

/-!
Package sets that a config names by a path relative to itself.

Such a path starts with one dot or two and a slash. It is followed from the directory of the config,
wherever the rendered expression stands, with one exception: if a second slash comes right after the
first dot's, what begins there is taken for an absolute path, and the directory is lost.
-/

set_option autoImplicit false

namespace CrossShell.Config

open Machine (Route)
open Machine.Route (components)

variable {nixpkgs directory : String} {rest : List Char}

/-- A package set that is written as a path relative to the config. -/
def IsRelative (nixpkgs : String) : Prop :=
  ['.', '/'] <+: nixpkgs.toList ∨ ['.', '.', '/'] <+: nixpkgs.toList

/-- A relative path that has an absolute one after its first dot. -/
def HidesRoot (nixpkgs : String) : Prop :=
  ['.', '/', '/'] <+: nixpkgs.toList

instance (nixpkgs : String) : Decidable (IsRelative nixpkgs) :=
  inferInstanceAs (Decidable (_ ∨ _))

instance (nixpkgs : String) : Decidable (HidesRoot nixpkgs) :=
  inferInstanceAs (Decidable (_ <+: _))

/-! ## Resolving -/

theorem resolveNixpkgs_up (h : nixpkgs.toList = '.' :: '.' :: '/' :: rest) (directory : String) :
    resolveNixpkgs nixpkgs directory = Machine.join directory nixpkgs := by
  simp only [resolveNixpkgs, h]

theorem resolveNixpkgs_here (h : nixpkgs.toList = '.' :: '/' :: rest) (directory : String) :
    resolveNixpkgs nixpkgs directory = Machine.join directory (String.ofList rest) := by
  simp only [resolveNixpkgs, h]

theorem resolveNixpkgs_of_not_isRelative (h : ¬ IsRelative nixpkgs) (directory : String) :
    resolveNixpkgs nixpkgs directory = nixpkgs := by
  unfold resolveNixpkgs
  split
  next rest hchars => exact absurd (.inr ⟨rest, hchars.symm⟩) h
  next rest hchars => exact absurd (.inl ⟨rest, hchars.symm⟩) h
  next => rfl

theorem absolute_resolveNixpkgs (hdirectory : (Route.ofText directory).absolute = true)
    (h : IsRelative nixpkgs) :
    (Route.ofText (resolveNixpkgs nixpkgs directory)).absolute = true := by
  obtain ⟨rest, hchars⟩ | ⟨rest, hchars⟩ := h
  · rw [resolveNixpkgs_here hchars.symm]
    exact Machine.absolute_join hdirectory _
  · rw [resolveNixpkgs_up hchars.symm]
    exact Machine.absolute_join hdirectory _

/-- What a path hides is all that is left of it. -/
theorem resolveNixpkgs_of_hidesRoot (h : HidesRoot nixpkgs) (directory : String) :
    resolveNixpkgs nixpkgs directory = String.ofList (nixpkgs.toList.drop 2) := by
  obtain ⟨rest, hchars⟩ := h
  have hhere : nixpkgs.toList = '.' :: '/' :: '/' :: rest := hchars.symm
  have hroot : (String.ofList ('/' :: rest)).toList.head? = some '/' := by
    rw [String.toList_ofList]
    rfl
  rw [resolveNixpkgs_here hhere, Machine.join_of_absolute hroot, hhere]
  rfl

theorem components_of_hidesRoot (h : HidesRoot nixpkgs) (directory : String) :
    components (resolveNixpkgs nixpkgs directory) = components nixpkgs := by
  obtain ⟨rest, hchars⟩ := h
  have hhere : nixpkgs.toList = '.' :: '/' :: '/' :: rest := hchars.symm
  rw [resolveNixpkgs_of_hidesRoot ⟨rest, hchars⟩, Route.components_of_here hhere, hhere]
  rfl

/-- A relative path goes on from the directory, unless it hides an absolute one. -/
theorem components_resolveNixpkgs (h : IsRelative nixpkgs) (hroot : ¬ HidesRoot nixpkgs)
    (directory : String) :
    components (resolveNixpkgs nixpkgs directory)
      = components directory ++ components nixpkgs := by
  obtain ⟨rest, hchars⟩ | ⟨rest, hchars⟩ := h
  · have hhere : nixpkgs.toList = '.' :: '/' :: rest := hchars.symm
    have hrest : (String.ofList rest).toList.head? ≠ some '/' := by
      rw [String.toList_ofList]
      intro hhead
      obtain ⟨more, rfl⟩ := List.head?_eq_some_iff.1 hhead
      exact hroot ⟨more, hchars⟩
    rw [resolveNixpkgs_here hhere, Route.components_join hrest, Route.components_of_here hhere]
  · have hrelative : nixpkgs.toList.head? ≠ some '/' := by
      rw [← hchars]
      exact fun hhead => absurd (Option.some_inj.1 hhead) (by decide)
    rw [resolveNixpkgs_up hchars.symm, Route.components_join hrelative]

/-! ## Where package sets are found -/

/-- A relative package set is resolved to an absolute path. That path goes on from the directory if
and only if no absolute one was hidden in the relative one, or the directory is the root; what was
hidden is all that is left otherwise. Any other package set stays what it is. What a config is
loaded with depends on the directory of its file and on what it names, and on nothing else, whatever
runs scripts and whatever the config's script does. -/
theorem relative_nixpkgs_resolved (nixpkgs directory : String) :
    ((Route.ofText directory).absolute = true → IsRelative nixpkgs →
      (Route.ofText (resolveNixpkgs nixpkgs directory)).absolute = true ∧
      (components (resolveNixpkgs nixpkgs directory)
          = components directory ++ components nixpkgs ↔
        (HidesRoot nixpkgs → components directory = [])) ∧
      (HidesRoot nixpkgs →
        resolveNixpkgs nixpkgs directory = String.ofList (nixpkgs.toList.drop 2))) ∧
    (¬ IsRelative nixpkgs → resolveNixpkgs nixpkgs directory = nixpkgs) ∧
    ∀ interpret path m loaded m', loadWith interpret path m = .ok loaded m' →
      ∃ l config, m.files.locationOf m.directory (Route.ofText path) = .ok l ∧
        ofFileWith interpret (Machine.pathOf l) m = .ok config m' ∧
        (Route.ofText (Machine.pathOf l.dropLast)).absolute = true ∧
        loaded.nixpkgs
          = config.nixpkgs.map fun n => resolveNixpkgs n (Machine.pathOf l.dropLast) := by
  refine ⟨?_, fun h => resolveNixpkgs_of_not_isRelative h directory, ?_⟩
  · intro hdirectory h
    refine ⟨absolute_resolveNixpkgs hdirectory h, ?_,
      fun hroot => resolveNixpkgs_of_hidesRoot hroot directory⟩
    by_cases hroot : HidesRoot nixpkgs
    · rw [components_of_hidesRoot hroot, List.self_eq_append_left]
      exact ⟨fun hnone _ => hnone, fun hnone => hnone hroot⟩
    · exact ⟨fun _ hhidden => absurd hhidden hroot,
        fun _ => components_resolveNixpkgs h hroot directory⟩
  · intro interpret path m loaded m' hload
    obtain ⟨l, config, hat, hfile, hnixpkgs⟩ := loadWith_eq_ok hload
    exact ⟨l, config, hat, hfile, Machine.absolute_pathOf l.dropLast, hnixpkgs⟩

/-- A machine with a config that names a package set beside its own directory. -/
def besideMachine : Machine :=
  Machine.ofFiles ((Machine.FileTree.empty.put ["audio"] .directory).put ["audio", "shell.lua"]
    (.file (Text.encode "return \x7b target = 'aarch64-apple-darwin', nixpkgs = '../pkgs' \x7d")))

theorem relative_nixpkgs_resolved_beside :
    components (resolveNixpkgs "../pkgs" "/audio") = [.name "audio", .up, .name "pkgs"] ∧
      resolveNixpkgs "<nixpkgs>" "/audio" = "<nixpkgs>" ∧
      ∃ loaded m', load "audio/shell.lua" besideMachine = .ok loaded m' ∧
        ∃ l config, ofFile (Machine.pathOf l) besideMachine = .ok config m' ∧
          loaded.nixpkgs
            = config.nixpkgs.map fun n => resolveNixpkgs n (Machine.pathOf l.dropLast) := by
  obtain ⟨hrelative, -, hloads⟩ := relative_nixpkgs_resolved "../pkgs" "/audio"
  have hbelow := (hrelative (by decide) (by decide)).2.1.2 (by decide)
  have hother := (relative_nixpkgs_resolved "<nixpkgs>" "/audio").2.1 (by decide)
  refine ⟨hbelow.trans (by decide), hother, ?_⟩
  have hloaded : Machine.answers (load "audio/shell.lua") besideMachine (fun _ => true) = true := by
    decide +kernel
  obtain ⟨loaded, m', hload, -⟩ := Machine.exists_ok_of_answers hloaded
  obtain ⟨l, config, -, hfile, -, hnixpkgs⟩ := hloads _ _ _ _ _ hload
  exact ⟨loaded, m', hload, l, config, hfile, hnixpkgs⟩

/-- A second slash after the dot makes the path of the package set forget its directory. -/
theorem second_slash_forgets_directory :
    IsRelative ".//srv/nixpkgs" ∧ (Route.ofText "/home/me").absolute = true ∧
      resolveNixpkgs ".//srv/nixpkgs" "/home/me" = "/srv/nixpkgs" ∧
      components "/srv/nixpkgs" ≠ components "/home/me" ++ components ".//srv/nixpkgs" :=
  by decide

end CrossShell.Config
