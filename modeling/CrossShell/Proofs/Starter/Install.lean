import CrossShell.Proofs.Machine.Stored
import CrossShell.Starter

/-!
Installing the starter files destroys nothing unless it is told to.

`Outcome` lists the ways in which an installation ends, with the files as they are then. Without
force both names are found free before either is written, so whatever stood anywhere stands there
afterwards; this holds as well where the second file is refused after the first was written.
-/

set_option autoImplicit false

namespace CrossShell.Starter

open Machine (Action FileTree Location Route after)

/-- The name of the settings, as `filesIn` has it. -/
def settingsName : String := ".luarc.json"

/-! ## The routes of the files -/

/-- The route to the config of a directory. -/
def scriptRoute (directory : String) : Route :=
  Route.ofText (filesIn directory).script

/-- The route to the settings of a directory. -/
def settingsRoute (directory : String) : Route :=
  Route.ofText (filesIn directory).settings

theorem endsIn_scriptRoute (directory : String) : (scriptRoute directory).EndsIn scriptName :=
  Route.endsIn_join directory (by decide) (by decide)

theorem endsIn_settingsRoute (directory : String) : (settingsRoute directory).EndsIn settingsName :=
  Route.endsIn_join directory (by decide) (by decide)

theorem settingsName_ne : settingsName ≠ scriptName := by decide

/-! ## How an installation ends -/

section Outcome

variable {m : Machine} {directory : String} {target : Target} {force : Bool}

/-- The ways in which an installation ends. -/
inductive Outcome (m : Machine) (directory : String) (target : Target) (force : Bool) :
    EStateM.Result Error Machine Files → Prop where
  /-- The directory was not made. -/
  | directory {fault : Machine.Fault} {made : FileTree}
      (hmade : m.files.makeDirectories m.directory (Route.ofText directory) = (some fault, made)) :
      Outcome m directory target force
        (.error (.directory directory fault) { m with files := made })
  /-- The name of the config was taken. -/
  | scriptTaken {made : FileTree}
      (hmade : m.files.makeDirectories m.directory (Route.ofText directory) = (none, made))
      (hforce : force = false) (hscript : made.has m.directory (scriptRoute directory) = true) :
      Outcome m directory target force
        (.error (.taken (filesIn directory).script) { m with files := made })
  /-- The name of the settings was taken, that of the config was free. -/
  | settingsTaken {made : FileTree}
      (hmade : m.files.makeDirectories m.directory (Route.ofText directory) = (none, made))
      (hforce : force = false) (hscript : made.has m.directory (scriptRoute directory) = false)
      (hsettings : made.has m.directory (settingsRoute directory) = true) :
      Outcome m directory target force
        (.error (.taken (filesIn directory).settings) { m with files := made })
  /-- The config was not written. -/
  | script {fault : Machine.Fault} {made : FileTree}
      (hmade : m.files.makeDirectories m.directory (Route.ofText directory) = (none, made))
      (hwrite : made.write m.directory (scriptRoute directory) (Text.encode (script target))
        = .error fault) :
      Outcome m directory target force
        (.error (.file (filesIn directory).script fault) { m with files := made })
  /-- The config was written, the settings were not. -/
  | settings {fault : Machine.Fault} {made between : FileTree}
      (hmade : m.files.makeDirectories m.directory (Route.ofText directory) = (none, made))
      (hfree : force = false → made.has m.directory (scriptRoute directory) = false ∧
        made.has m.directory (settingsRoute directory) = false)
      (hscript : made.write m.directory (scriptRoute directory) (Text.encode (script target))
        = .ok between)
      (hwrite : between.write m.directory (settingsRoute directory) (Text.encode editorSettings)
        = .error fault) :
      Outcome m directory target force
        (.error (.file (filesIn directory).settings fault) { m with files := between })
  /-- Both files were written. -/
  | written {made between files : FileTree}
      (hmade : m.files.makeDirectories m.directory (Route.ofText directory) = (none, made))
      (hfree : force = false → made.has m.directory (scriptRoute directory) = false ∧
        made.has m.directory (settingsRoute directory) = false)
      (hscript : made.write m.directory (scriptRoute directory) (Text.encode (script target))
        = .ok between)
      (hsettings : between.write m.directory (settingsRoute directory) (Text.encode editorSettings)
        = .ok files) :
      Outcome m directory target force (.ok (filesIn directory) { m with files := files })

theorem write_of_ok {path text : String} {files : FileTree}
    (h : m.files.write m.directory (Route.ofText path) (Text.encode text) = .ok files) :
    write path text m = .ok () { m with files := files } :=
  Machine.explain_of_ok (Machine.writeText_of_ok h)

theorem write_of_error {path text : String} {fault : Machine.Fault}
    (h : m.files.write m.directory (Route.ofText path) (Text.encode text) = .error fault) :
    write path text m = .error (.file path fault) m :=
  Machine.explain_of_error (Machine.writeText_of_error h)

theorem refuseTaken_of_not_has {path : String}
    (h : m.files.has m.directory (Route.ofText path) = false) : refuseTaken path m = .ok () m := by
  have hlook : (Machine.has path : Action Error Bool) m = .ok false m := by
    simp only [Machine.has, Machine.look, h]
  rw [refuseTaken, Action.bind_of_ok hlook]
  rfl

theorem refuseTaken_of_has {path : String}
    (h : m.files.has m.directory (Route.ofText path) = true) :
    refuseTaken path m = .error (.taken path) m := by
  have hlook : (Machine.has path : Action Error Bool) m = .ok true m := by
    simp only [Machine.has, Machine.look, h]
  rw [refuseTaken, Action.bind_of_ok hlook]
  rfl

/-- Writing both files into a directory that was made ends in one of the last three ways. -/
theorem outcome_writes {made : FileTree}
    (hmade : m.files.makeDirectories m.directory (Route.ofText directory) = (none, made))
    (hfree : force = false → made.has m.directory (scriptRoute directory) = false ∧
      made.has m.directory (settingsRoute directory) = false) :
    Outcome m directory target force
      ((do
        write (filesIn directory).script (script target)
        write (filesIn directory).settings editorSettings
        return filesIn directory : Action Error Files) { m with files := made }) := by
  cases hscript : made.write m.directory (scriptRoute directory) (Text.encode (script target)) with
  | error fault =>
    have hfirst := write_of_error (m := { m with files := made }) hscript
    rw [Action.bind_of_error hfirst]
    exact .script hmade hscript
  | ok between =>
    have hfirst := write_of_ok (m := { m with files := made }) hscript
    rw [Action.bind_of_ok hfirst]
    cases hsettings :
        between.write m.directory (settingsRoute directory) (Text.encode editorSettings) with
    | error fault =>
      have hsecond := write_of_error (m := { m with files := between }) hsettings
      rw [Action.bind_of_error hsecond]
      exact .settings hmade hfree hscript hsettings
    | ok files =>
      have hsecond := write_of_ok (m := { m with files := between }) hsettings
      rw [Action.bind_of_ok hsecond]
      exact .written hmade hfree hscript hsettings

theorem outcome_install (m : Machine) (directory : String) (target : Target) (force : Bool) :
    Outcome m directory target force (install directory target force m) := by
  cases hmade : m.files.makeDirectories m.directory (Route.ofText directory) with
  | mk fault? made =>
    cases fault? with
    | some fault =>
      have hrefused := Machine.explain_of_error (f := Error.directory directory)
        (Machine.makeDirectories_of_some hmade)
      rw [install, Action.bind_of_error hrefused]
      exact .directory hmade
    | none =>
      have hdirectory := Machine.explain_of_ok (f := Error.directory directory)
        (Machine.makeDirectories_of_none hmade)
      rw [install, Action.bind_of_ok hdirectory]
      cases force with
      | true => exact outcome_writes hmade nofun
      | false =>
        show Outcome m directory target false ((refuseTaken (filesIn directory).script >>= _) _)
        cases hscript : made.has m.directory (scriptRoute directory) with
        | true =>
          have hfirst := refuseTaken_of_has (m := { m with files := made }) hscript
          rw [Action.bind_of_error hfirst]
          exact .scriptTaken hmade rfl hscript
        | false =>
          have hfirst := refuseTaken_of_not_has (m := { m with files := made }) hscript
          rw [Action.bind_of_ok hfirst]
          cases hsettings : made.has m.directory (settingsRoute directory) with
          | true =>
            have hsecond := refuseTaken_of_has (m := { m with files := made }) hsettings
            rw [Action.bind_of_error hsecond]
            exact .settingsTaken hmade rfl hscript hsettings
          | false =>
            have hsecond := refuseTaken_of_not_has (m := { m with files := made }) hsettings
            rw [Action.bind_of_ok hsecond]
            exact outcome_writes hmade fun _ => ⟨hscript, hsettings⟩

end Outcome

/-! ## What is there afterwards -/

/-- An installation without force put two new files among those of the machine. -/
structure Installs (m m' : Machine) (directory : String) (target : Target) (files : Files) :
    Prop where
  files_eq : files = filesIn directory
  script_absent : m.files.has m.directory (Route.ofText files.script) = false
  settings_absent : m.files.has m.directory (Route.ofText files.settings) = false
  /-- Nothing stood where the two files are, and there is no other file that was not there. -/
  added : ∃ l₁ l₂,
    m'.files.locationOf m.directory (Route.ofText files.script) = .ok l₁ ∧
    m'.files.locationOf m.directory (Route.ofText files.settings) = .ok l₂ ∧
    m.files.get? l₁ = none ∧ m.files.get? l₂ = none ∧
    ∀ l c, m'.files.get? l = some (.file c) ↔
      m.files.get? l = some (.file c) ∨ (l = l₁ ∧ c = Text.encode (script target)) ∨
        (l = l₂ ∧ c = Text.encode editorSettings)

/-- An installation without force found a name taken, after it had made the directory. -/
structure Refuses (m m' : Machine) (directory path : String) : Prop where
  made : m.files.makeDirectories m.directory (Route.ofText directory) = (none, m'.files)
  path_eq : path =
    if m'.files.has m.directory (Route.ofText (filesIn directory).script)
    then (filesIn directory).script else (filesIn directory).settings
  taken : m'.files.has m.directory (Route.ofText path) = true
  same_files : ∀ l c, m'.files.get? l = some (.file c) ↔ m.files.get? l = some (.file c)

section Unforced

variable {m m' : Machine} {directory : String} {target : Target} {made between files : FileTree}

/-- Two files that are written at free names are at locations of their own. -/
theorem puts_of_written (hscriptFree : made.has m.directory (scriptRoute directory) = false)
    (hsettingsFree : made.has m.directory (settingsRoute directory) = false)
    (hscript : made.write m.directory (scriptRoute directory) (Text.encode (script target))
      = .ok between)
    (hsettings : between.write m.directory (settingsRoute directory) (Text.encode editorSettings)
      = .ok files) :
    ∃ l₁ l₂, files.locationOf m.directory (scriptRoute directory) = .ok l₁ ∧
      files.locationOf m.directory (settingsRoute directory) = .ok l₂ ∧
      made.get? l₁ = none ∧ made.get? l₂ = none ∧
      FileTree.Grows made files ∧
      ∀ l c, files.get? l = some (.file c) ↔
        made.get? l = some (.file c) ∨ (l = l₁ ∧ c = Text.encode (script target)) ∨
          (l = l₂ ∧ c = Text.encode editorSettings) := by
  have hstillFree : between.has m.directory (settingsRoute directory) = false := by
    rw [FileTree.has_write_of_ne (endsIn_scriptRoute directory) (endsIn_settingsRoute directory)
      settingsName_ne hscript]
    exact hsettingsFree
  obtain ⟨l₁, hat₁, hl₁, hnone₁, rfl⟩ := FileTree.write_of_not_has hscriptFree hscript
  obtain ⟨l₂, hat₂, hl₂, hnone₂, rfl⟩ := FileTree.write_of_not_has hstillFree hsettings
  have hgrows₁ := FileTree.grows_put (e := .file (Text.encode (script target))) hl₁ hnone₁
  have hgrows₂ := FileTree.grows_put (e := .file (Text.encode editorSettings)) hl₂ hnone₂
  refine ⟨l₁, l₂, FileTree.locationOf_of_grows hgrows₂ hat₁, hat₂, hnone₁,
    hgrows₁.get?_eq_none hnone₂, hgrows₁.trans hgrows₂, ?_⟩
  intro l c
  rw [FileTree.file_put_iff hl₂ hnone₂, FileTree.file_put_iff hl₁ hnone₁, or_assoc]

/-- Whatever stands anywhere stands there after an installation without force. -/
theorem grows_install (m : Machine) (directory : String) (target : Target) :
    FileTree.Grows m.files (after (install directory target false) m).files := by
  have houtcome := outcome_install m directory target false
  generalize hresult : install directory target false m = result at houtcome
  cases houtcome with
  | directory hmade | scriptTaken hmade | settingsTaken hmade | script hmade =>
    rw [Machine.after_of_error hresult]
    exact (FileTree.makeDirectories_adds hmade).grows
  | settings hmade hfree hscript =>
    rw [Machine.after_of_error hresult]
    obtain ⟨l, _, hl, hnone, rfl⟩ := FileTree.write_of_not_has (hfree rfl).1 hscript
    exact (FileTree.makeDirectories_adds hmade).grows.trans (FileTree.grows_put hl hnone)
  | written hmade hfree hscript hsettings =>
    rw [Machine.after_of_ok hresult]
    obtain ⟨_, _, _, _, _, _, hgrows, _⟩ :=
      puts_of_written (hfree rfl).1 (hfree rfl).2 hscript hsettings
    exact (FileTree.makeDirectories_adds hmade).grows.trans hgrows

/-- A route at which nothing stands after directories were made had nothing there before. -/
theorem not_has_of_made {cwd : Location} {r r' : Route} {fault? : Option Machine.Fault}
    (hmade : m.files.makeDirectories cwd r = (fault?, made)) (h : made.has cwd r' = false) :
    m.files.has cwd r' = false := by
  have hgrows := (FileTree.makeDirectories_adds hmade).grows
  rw [← Bool.not_eq_true] at h ⊢
  exact fun hhas => h (FileTree.has_of_grows hgrows hhas)

theorem installs_of_ok {files : Files} (h : install directory target false m = .ok files m') :
    Installs m m' directory target files := by
  have houtcome := outcome_install m directory target false
  rw [h] at houtcome
  cases houtcome with
  | written hmade hfree hscript hsettings =>
    obtain ⟨hscriptFree, hsettingsFree⟩ := hfree rfl
    have hadds := FileTree.makeDirectories_adds hmade
    obtain ⟨l₁, l₂, hat₁, hat₂, hnone₁, hnone₂, _, hfile⟩ :=
      puts_of_written hscriptFree hsettingsFree hscript hsettings
    refine ⟨rfl, not_has_of_made hmade hscriptFree, not_has_of_made hmade hsettingsFree,
      l₁, l₂, hat₁, hat₂, hadds.grows.get?_eq_none hnone₁, hadds.grows.get?_eq_none hnone₂, ?_⟩
    intro l c
    rw [hfile l c, hadds.file_iff l c]

theorem refuses_of_taken {path : String}
    (h : install directory target false m = .error (.taken path) m') :
    Refuses m m' directory path := by
  have houtcome := outcome_install m directory target false
  rw [h] at houtcome
  cases houtcome with
  | scriptTaken hmade _ hscript =>
    refine ⟨hmade, ?_, hscript, (FileTree.makeDirectories_adds hmade).file_iff⟩
    exact (if_pos hscript).symm
  | settingsTaken hmade _ hscript hsettings =>
    refine ⟨hmade, ?_, hsettings, (FileTree.makeDirectories_adds hmade).file_iff⟩
    exact (if_neg (Bool.not_eq_true _ ▸ hscript)).symm

/-- Without force an installation destroys nothing: whatever it answers, every file that was there
is there with its content. If it answers the files, nothing stood at either and they are the only
new ones; if it finds a name taken, no file is new. -/
theorem install_destroys_nothing (m : Machine) (directory : String) (target : Target) :
    (∀ l c, m.files.get? l = some (.file c) →
      (after (install directory target false) m).files.get? l = some (.file c)) ∧
    (∀ files m', install directory target false m = .ok files m' →
      Installs m m' directory target files) ∧
    ∀ path m', install directory target false m = .error (.taken path) m' →
      Refuses m m' directory path :=
  ⟨fun l c => grows_install m directory target l (.file c), fun _ _ => installs_of_ok,
    fun _ _ => refuses_of_taken⟩

/-- A machine with one file. -/
def workplace : Machine :=
  Machine.ofFiles (FileTree.empty.put ["notes"] (.file (Text.encode "to do")))

/-- A target that has no ABI. -/
def darwin : Target :=
  ⟨.aarch64, "apple", .macos, none, rfl⟩

theorem install_destroys_nothing_twice :
    ∃ first second, install "project" darwin false workplace = .ok (filesIn "project") first ∧
      Installs workplace first "project" darwin (filesIn "project") ∧
      install "project" darwin false first = .error (.taken "project/shell.lua") second ∧
      Refuses first second "project" "project/shell.lua" ∧
      second.files.get? ["notes"] = some (.file (Text.encode "to do")) := by
  let first := after (install "project" darwin false) workplace
  have hfirst : install "project" darwin false workplace = .ok (filesIn "project") first := by rfl
  have hsecond : install "project" darwin false first =
      .error (.taken "project/shell.lua") first := by rfl
  have hnotes : workplace.files.get? ["notes"] = some (.file (Text.encode "to do")) := by rfl
  obtain ⟨hkeeps, hinstalls, _⟩ := install_destroys_nothing workplace "project" darwin
  obtain ⟨_, _, hrefuses⟩ := install_destroys_nothing first "project" darwin
  exact ⟨first, first, hfirst, hinstalls _ _ hfirst, hsecond, hrefuses _ _ hsecond,
    hkeeps _ _ hnotes⟩

end Unforced

end CrossShell.Starter
