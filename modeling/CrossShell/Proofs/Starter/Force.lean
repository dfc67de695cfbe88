import CrossShell.Proofs.Starter.Install

/-!
What a forced installation replaces.

With force the names of the two files are not looked at, and the files are written one after the
other. So the config is already replaced when the settings are refused, and this is the only way in
which an installation that fails changes a file.

That holds where the files are no links and where a write that fails does so when its file is
opened. A write that breaks off later leaves a part of its own file, and one through a link changes
the file that the link leads to.
-/

set_option autoImplicit false

namespace CrossShell.Starter

open Machine (FileTree Location Route)

/-- A text is in the file at a location, to which a path leads. -/
structure StoredAt (m : Machine) (path text : String) (l : Location) : Prop where
  leads : m.files.locationOf m.directory (Route.ofText path) = .ok l
  holds : m.files.get? l = some (.file (Text.encode text))

/-- An installation failed without a change to any file, or it replaced the config and failed at the
settings. -/
inductive Fails (m m' : Machine) (directory : String) (target : Target) : Error → Prop where
  | directory (fault : Machine.Fault) (hsame : FileTree.SameFilesBut m.files m'.files []) :
      Fails m m' directory target (.directory directory fault)
  | script (fault : Machine.Fault) (hsame : FileTree.SameFilesBut m.files m'.files []) :
      Fails m m' directory target (.file (filesIn directory).script fault)
  | settings (fault : Machine.Fault) (l : Location)
      (hscript : StoredAt m' (filesIn directory).script (script target) l)
      (hsame : FileTree.SameFilesBut m.files m'.files [l]) :
      Fails m m' directory target (.file (filesIn directory).settings fault)

/-- An installation put both files in their places and left every other file alone. -/
structure Replaces (m m' : Machine) (directory : String) (target : Target) (files : Files) :
    Prop where
  files_eq : files = filesIn directory
  stored : ∃ l₁ l₂, StoredAt m' files.script (script target) l₁ ∧
    StoredAt m' files.settings editorSettings l₂ ∧
    FileTree.SameFilesBut m.files m'.files [l₁, l₂]

variable {m m' : Machine} {directory : String} {target : Target} {files : Files}
  {between written : FileTree}

/-- The config is still in its place when the settings were written. -/
theorem script_stays {l : Location}
    (hleads : between.locationOf m.directory (scriptRoute directory) = .ok l)
    (hholds : between.get? l = some (.file (Text.encode (script target))))
    (hsettings : between.write m.directory (settingsRoute directory) (Text.encode editorSettings)
      = .ok written) :
    written.locationOf m.directory (scriptRoute directory) = .ok l ∧
      written.get? l = some (.file (Text.encode (script target))) := by
  obtain ⟨hspelling, e, hbefore⟩ := FileTree.locationOf_eq_ok.1 hleads
  have hafter := (FileTree.leads_write_of_ne (endsIn_settingsRoute directory)
    (endsIn_scriptRoute directory) settingsName_ne.symm hsettings).2 ⟨hbefore.1, hholds⟩
  exact ⟨FileTree.locationOf_eq_ok.2 ⟨hspelling, _, hafter⟩, hafter.2⟩

theorem replaces_of_ok (h : install directory target true m = .ok files m') :
    Replaces m m' directory target files := by
  have houtcome := outcome_install m directory target true
  rw [h] at houtcome
  cases houtcome with
  | written hmade _ hscript hsettings =>
    obtain ⟨l₁, hleads₁, hholds₁, hsame₁⟩ := FileTree.write_located hscript
    obtain ⟨l₂, hleads₂, hholds₂, hsame₂⟩ := FileTree.write_located hsettings
    obtain ⟨hleads, hholds⟩ := script_stays hleads₁ hholds₁ hsettings
    have hsame := ((FileTree.makeDirectories_adds hmade).sameFiles.trans hsame₁).trans hsame₂
    exact ⟨rfl, l₁, l₂, ⟨hleads, hholds⟩, ⟨hleads₂, hholds₂⟩, hsame⟩

theorem fails_of_error {e : Error} (h : install directory target true m = .error e m') :
    Fails m m' directory target e := by
  have houtcome := outcome_install m directory target true
  rw [h] at houtcome
  cases houtcome with
  | directory hmade => exact .directory _ (FileTree.makeDirectories_adds hmade).sameFiles
  | scriptTaken _ hforce | settingsTaken _ hforce => cases hforce
  | script hmade => exact .script _ (FileTree.makeDirectories_adds hmade).sameFiles
  | settings hmade _ hscript =>
    obtain ⟨l, hleads, hholds, hsame⟩ := FileTree.write_located hscript
    have hothers := (FileTree.makeDirectories_adds hmade).sameFiles.trans hsame
    exact .settings _ l ⟨hleads, hholds⟩ hothers

/-- With force, an installation that succeeds puts both files in their places, and one that fails
has changed no file unless it failed at the settings; then it has changed the config. All other
files are as they were. There are no links, and a write that fails is refused when its file is
opened. -/
theorem force_replaces (m m' : Machine) (directory : String) (target : Target) :
    (∀ files, install directory target true m = .ok files m' →
      Replaces m m' directory target files) ∧
    ∀ e, install directory target true m = .error e m' → Fails m m' directory target e :=
  ⟨fun _ => replaces_of_ok, fun _ => fails_of_error⟩

/-- A machine with a config beside which a directory has the name of the settings. -/
def obstructed : Machine :=
  let files := (FileTree.empty.put ["project"] .directory).put ["project", ".luarc.json"] .directory
  Machine.ofFiles (files.put ["project", "shell.lua"] (.file (Text.encode "return 1")))

theorem force_replaces_obstructed :
    (∃ m', install "project" darwin true obstructed =
        .error (.file "project/.luarc.json" .isADirectory) m' ∧
      Fails obstructed m' "project" darwin (.file "project/.luarc.json" .isADirectory)) ∧
    ∃ m', install "project" darwin true workplace = .ok (filesIn "project") m' ∧
      Replaces workplace m' "project" darwin (filesIn "project") := by
  let failed := Machine.after (install "project" darwin true) obstructed
  let done := Machine.after (install "project" darwin true) workplace
  have hfailed : install "project" darwin true obstructed =
      .error (.file "project/.luarc.json" .isADirectory) failed := by rfl
  have hdone : install "project" darwin true workplace = .ok (filesIn "project") done := by rfl
  exact ⟨⟨failed, hfailed, (force_replaces obstructed failed "project" darwin).2 _ hfailed⟩,
    done, hdone, (force_replaces workplace done "project" darwin).1 _ hdone⟩

/-- The installation fails, and the config that was there is lost. -/
theorem failed_force_loses_script :
    ∃ m', install "project" darwin true obstructed =
        .error (.file "project/.luarc.json" .isADirectory) m' ∧
      obstructed.files.get? ["project", "shell.lua"] = some (.file (Text.encode "return 1")) ∧
      m'.files.get? ["project", "shell.lua"] = some (.file (Text.encode (script darwin))) ∧
      Text.encode (script darwin) ≠ Text.encode "return 1" := by
  refine ⟨Machine.after (install "project" darwin true) obstructed, by rfl, by rfl, by rfl, ?_⟩
  decide +kernel

end CrossShell.Starter
