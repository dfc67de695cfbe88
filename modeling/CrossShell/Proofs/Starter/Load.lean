import CrossShell.Proofs.Config.Load
import CrossShell.Proofs.Machine.FullPath
import CrossShell.Proofs.Nix.Resolve
import CrossShell.Proofs.Starter.Install
import CrossShell.Proofs.Starter.Script

/-!
What an installation writes is read back.

The script is on file after the settings were written beside it, as long as neither name is a link
to the other. Reading a config looks for the file at its full path, finds the script there if that
path is not too long, and the script answers the config of its target, which is described without
fault. A directory that was named by a relative path may have too long a full path.
-/

set_option autoImplicit false

namespace CrossShell.Starter

open Machine (FileTree Route after)

/-- The descriptor of the starter config. -/
def descriptor (target : Target) : Descriptor :=
  ⟨target, [⟨"gcc", .nativeBuildInput⟩, ⟨"pkg-config", .nativeBuildInput⟩], [], SortedMap.empty⟩

theorem describe_scriptConfig (t : Target) :
    (scriptConfig t.triple).describe = .ok (descriptor t, []) := by
  have hkeys : Config.badKey? SortedMap.empty = none := rfl
  simp only [Config.describe, scriptConfig, Target.parse_triple, hkeys]
  rfl

theorem exists_render_descriptor (t : Target) (nixpkgs : String) (host : Option Platform) :
    ∃ text, Nix.render (descriptor t) nixpkgs host = .ok text := by
  have hall : ∀ x ∈ Dependency.listOf .nativeBuildInput nativeNames,
      Nix.isIdentifier x.name = true := by decide
  have hnames : ∀ x ∈ (descriptor t).nativeBuildInputs ++ (descriptor t).buildInputs,
      Nix.isIdentifier x.name = true := hall
  exact Nix.exists_render_of_names hnames nixpkgs host

variable {m m' : Machine} {directory : String} {target : Target} {force : Bool} {files : Files}

/-- The script is on file when both files were written. -/
theorem content_of_install (h : install directory target force m = .ok files m') :
    files = filesIn directory ∧
      m'.content files.script = .ok (Text.encode (script target)) := by
  have houtcome := outcome_install m directory target force
  rw [h] at houtcome
  cases houtcome with
  | written hmade hfree hscript hsettings =>
    have hread := FileTree.read_write hscript
    exact ⟨rfl, FileTree.read_write_of_ne (endsIn_settingsRoute directory)
      (endsIn_scriptRoute directory) settingsName_ne.symm hsettings hread⟩

/-- What an installation writes is read as a config of the target, which has the two packages that
run on the building machine and nothing else, and for which a shell expression can be rendered. The
paths of all that the script's path names have to be short enough to be handed over, or the config
is not found; if the directory was named by an absolute path, they are. -/
theorem load_installed (hinstall : install directory target force m = .ok files m')
    (hdirectory : (Route.ofText directory).absolute = false → m'.HasDirectory) :
    (FileTree.fits m'.directory (Route.ofText files.script) = true →
      Config.load files.script m' = .ok ⟨descriptor target, none, []⟩ m') ∧
    (FileTree.fits m'.directory (Route.ofText files.script) = false →
      Config.load files.script m' = .error (.unreadable files.script .nameTooLong) m') ∧
    ((Route.ofText directory).absolute = true →
      FileTree.fits m'.directory (Route.ofText files.script) = true) ∧
    ∀ nixpkgs host, ∃ text, Nix.render (descriptor target) nixpkgs host = .ok text := by
  obtain ⟨rfl, hcontent⟩ := content_of_install hinstall
  have habsolute : (Route.ofText directory).absolute = true →
      (Route.ofText (filesIn directory).script).absolute = true :=
    fun h => Machine.absolute_join h scriptName
  refine ⟨fun hfits => ?_, fun hlong => ?_, fun h => ?_, exists_render_descriptor target⟩
  · have hfound : (Route.ofText (filesIn directory).script).absolute = false → m'.HasDirectory := by
      intro hscript
      refine hdirectory (Bool.eq_false_iff.2 fun h => ?_)
      exact Bool.false_ne_true (hscript.symm.trans (habsolute h))
    obtain ⟨l, hat, hfull, hsource, hnul⟩ :=
      Machine.content_pathOf hcontent (endsIn_scriptRoute directory) hfound hfits
    exact Config.loadWith_of_script hat hfull (Machine.readText_of_content hsource)
      (ofSource_script target hnul m') (describe_scriptConfig target)
  · exact Config.loadWith_of_too_long (Machine.spellOut_of_content hcontent hlong)
  · exact Machine.fits_of_content hcontent (habsolute h)

/-- A machine on which the name of the config is taken. -/
def occupied : Machine :=
  Machine.ofFiles ((FileTree.empty.put ["project"] .directory).put ["project", "shell.lua"]
    (.file (Text.encode "return 1")))

theorem load_installed_over :
    ∃ m', install "project" darwin true occupied = .ok (filesIn "project") m' ∧
      m'.HasDirectory ∧ FileTree.fits m'.directory (Route.ofText "project/shell.lua") = true ∧
      Config.load "project/shell.lua" m' = .ok ⟨descriptor darwin, none, []⟩ m' ∧
      ∃ text, Nix.render (descriptor darwin) "<nixpkgs>" none = .ok text := by
  let m' := after (install "project" darwin true) occupied
  have hinstall : install "project" darwin true occupied = .ok (filesIn "project") m' := by rfl
  have hdirectory : m'.HasDirectory := (Machine.Real.nil m'.files).locationOf rfl
  have hfits : FileTree.fits m'.directory (Route.ofText "project/shell.lua") = true := by decide
  obtain ⟨hload, -, -, hrender⟩ := load_installed hinstall fun _ => hdirectory
  exact ⟨m', hinstall, hdirectory, hfits, hload hfits, hrender "<nixpkgs>" none⟩

/-- A name of a length. -/
def longName (length : Nat) : String :=
  String.ofList (List.replicate length 'd')

/-- A location whose path has 4089 bytes, so that what is in it can have a path that is too long. -/
def deepLocation : Machine.Location :=
  List.replicate 16 (longName 250) ++ [longName 72]

/-- A machine on which one is there. -/
def deepMachine : Machine :=
  let files : FileTree := { entries := deepLocation.inits.map fun l => (l, .directory) }
  { Machine.ofFiles files with directory := deepLocation }

theorem isName_longName {length : Nat} (h : 0 < length) : Machine.IsName (longName length) := by
  have hchars : (longName length).toList = List.replicate length 'd' := String.toList_ofList
  obtain ⟨rest, rfl⟩ := Nat.exists_eq_add_one.2 h
  constructor
  · rw [hchars]
    exact fun hmem => absurd (List.eq_of_mem_replicate hmem) (by decide)
  · rw [hchars]
    exact fun hmem => absurd (List.eq_of_mem_replicate hmem) (by decide)
  · rw [hchars, List.replicate_succ]
    rfl

theorem isName_of_mem_deepLocation : ∀ name ∈ deepLocation, Machine.IsName name := by
  intro name hmem
  obtain hmem | hmem := List.mem_append.1 hmem
  · obtain rfl := List.eq_of_mem_replicate hmem
    exact isName_longName (by decide)
  · obtain rfl := List.mem_singleton.1 hmem
    exact isName_longName (by decide)

/-- A config is installed where one is, and cannot be loaded from there. -/
theorem deep_script_is_not_found :
    ∃ m', install "." darwin false deepMachine = .ok (filesIn ".") m' ∧ m'.HasDirectory ∧
      Config.load (filesIn ".").script m'
        = .error (.unreadable (filesIn ".").script .nameTooLong) m' := by
  have hanswers : Machine.answers (install "." darwin false) deepMachine
      (fun files => decide (files = filesIn ".")) = true := by decide +kernel
  obtain ⟨files, m', hinstall, hfiles⟩ := Machine.exists_ok_of_answers hanswers
  obtain rfl := of_decide_eq_true hfiles
  have hafter := Machine.after_of_ok hinstall
  have hplace : m'.directory = deepLocation := by
    rw [← hafter]
    decide +kernel
  have hwalk : m'.files.walk [] (deepLocation.map .name) = .ok deepLocation := by
    rw [← hafter]
    decide +kernel
  have hthere : m'.files.get? deepLocation = some .directory := by
    rw [← hafter]
    decide +kernel
  have hdirectory : m'.HasDirectory := by
    have hreal : Machine.Real m'.files deepLocation := ⟨isName_of_mem_deepLocation, hwalk⟩
    rw [← hplace] at hreal hthere
    exact hreal.locationOf hthere
  have hlong : FileTree.fits deepLocation (Route.ofText (filesIn ".").script) = false := by
    decide +kernel
  rw [← hplace] at hlong
  have hcontent := (content_of_install hinstall).2
  exact ⟨m', hinstall, hdirectory,
    Config.loadWith_of_too_long (Machine.spellOut_of_content hcontent hlong)⟩

end CrossShell.Starter
