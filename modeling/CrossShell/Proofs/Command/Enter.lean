import CrossShell.Proofs.Command.Loaded
import CrossShell.Proofs.Nix.Resolve

/-!
How a shell ends is how the command ends.

`Opens` lists what can become of a config that has an expression: the expression cannot be stored,
the program for shells cannot be started, or it runs. A `Session` is a run of that program with all
that comes before it, the config's script included. Where there is one, it is the only program that
the command starts besides those that the script has started, and the command ends with its exit
code; where there is none, the command starts nothing and fails, unless the script has ended the
program with a code of its own.
-/

set_option autoImplicit false

namespace CrossShell.Command

open Machine (Action Fault FileTree after)
open Script (Interpreter)

/-! ## Opening a shell -/

/-- The start of the program for shells that opens one, or runs a command in one. -/
def shellStart (m : Machine) (loaded : Config.Loaded) (command : Option String) : Machine.Start :=
  ⟨(nixFor m loaded).shellProgram,
    Nix.Resolver.shellArguments ((nixFor m loaded).expressionPath loaded.descriptor) command⟩

/-- The ways in which a shell with an expression can go, with what the user is told and what is
left of the machine. -/
inductive Opens (m : Machine) (loaded : Config.Loaded) (text : String) (command : Option String) :
    Outcome × Machine → Prop where
  /-- The expression cannot be stored. -/
  | unstored {fault : Fault} {files : FileTree}
      (hfails : m.StoreFails (nixFor m loaded).shellsDirectory
        ((nixFor m loaded).expressionPath loaded.descriptor) text fault files) :
      Opens m loaded text command
        (about "Failed to write shell expression" ofResolveError (.system fault),
          { m with files := files })
  /-- The program cannot be started. -/
  | refused {fault : Fault} {files : FileTree}
      (hstores : m.Stores (nixFor m loaded).shellsDirectory
        ((nixFor m loaded).expressionPath loaded.descriptor) text files)
      (hlaunch : m.launch (shellStart m loaded command).program
        (shellStart m loaded command).arguments = .refused fault) :
      Opens m loaded text command
        (.failure (greeting loaded command) ("Failed to enter shell" ::
          ofResolveError (Nix.Resolver.startError (nixFor m loaded).shellProgram fault)),
          { m with files := files })
  /-- The program runs. -/
  | ran {files : FileTree} {ending : Machine.Ending}
      (hstores : m.Stores (nixFor m loaded).shellsDirectory
        ((nixFor m loaded).expressionPath loaded.descriptor) text files)
      (hlaunch : m.launch (shellStart m loaded command).program
        (shellStart m loaded command).arguments = .ran ending) :
      Opens m loaded text command
        (⟨Nix.exitCode ending, greeting loaded command ++ Text.decodeLossy ending.output,
          Text.decodeLossy ending.errors⟩,
          { m with files := files, started := m.started ++ [shellStart m loaded command] })

section Opens

variable {interpret : Interpreter} {m₀ m : Machine} {config text : String}
  {loaded : Config.Loaded} {files : FileTree}

theorem enter_of_ran {command : Option String} {ending : Machine.Ending}
    (hload : loadConfig interpret config m₀ = .ok loaded m)
    (hrender : (nixFor m loaded).render loaded.descriptor = .ok text)
    (hstores : m.Stores (nixFor m loaded).shellsDirectory
      ((nixFor m loaded).expressionPath loaded.descriptor) text files)
    (hlaunch : m.launch (shellStart m loaded command).program
      (shellStart m loaded command).arguments = .ran ending) :
    enter interpret config command m₀ =
      .ok ⟨Nix.exitCode ending, greeting loaded command ++ Text.decodeLossy ending.output,
        Text.decodeLossy ending.errors⟩
        { m with files := files, started := m.started ++ [shellStart m loaded command] } :=
  enter_of_ok hload (Nix.Resolver.writeExpression_of_stores hrender hstores)
    (Nix.Resolver.start_of_ran hlaunch)

theorem opens_enter (command : Option String)
    (hload : loadConfig interpret config m₀ = .ok loaded m)
    (hrender : (nixFor m loaded).render loaded.descriptor = .ok text) :
    Opens m loaded text command (conclusion (enter interpret config command m₀)) := by
  obtain ⟨files, hstores⟩ | ⟨fault, files, hfails⟩ := m.stores_or_storeFails
    (nixFor m loaded).shellsDirectory ((nixFor m loaded).expressionPath loaded.descriptor) text
  case inr =>
    rw [enter_of_unwritten hload (Nix.Resolver.writeExpression_of_storeFails hrender hfails)]
    exact .unstored hfails
  cases hlaunch : m.launch (shellStart m loaded command).program
      (shellStart m loaded command).arguments with
  | refused fault =>
    rw [enter_of_error hload (Nix.Resolver.writeExpression_of_stores hrender hstores)
      (Nix.Resolver.start_of_refused hlaunch)]
    exact .refused hstores hlaunch
  | ran ending =>
    rw [enter_of_ran hload hrender hstores hlaunch]
    exact .ran hstores hlaunch

end Opens

/-! ## Sessions -/

/-- A run of the program for shells: the config is loaded, its expression is stored, and the program
runs when it is started on that. -/
structure Session (interpret : Interpreter) (m : Machine) (config : String)
    (command : Option String) where
  loaded : Config.Loaded
  /-- The machine as the config's script leaves it. -/
  scripted : Machine
  /-- The expression of the config. -/
  text : String
  /-- The files when the program is started. -/
  files : FileTree
  ending : Machine.Ending
  loads : Config.loadWith interpret config m = .ok loaded scripted
  renders : (nixFor scripted loaded).render loaded.descriptor = .ok text
  stores : scripted.Stores (nixFor scripted loaded).shellsDirectory
    ((nixFor scripted loaded).expressionPath loaded.descriptor) text files
  runs : scripted.launch (shellStart scripted loaded command).program
    (shellStart scripted loaded command).arguments = .ran ending

namespace Session

variable {interpret : Interpreter} {m : Machine} {config : String} {command : Option String}

/-- The file of the expression. -/
def path (s : Session interpret m config command) : String :=
  (nixFor s.scripted s.loaded).expressionPath s.loaded.descriptor

/-- The machine when the program is started. -/
def ready (s : Session interpret m config command) : Machine :=
  { s.scripted with files := s.files }

def start (s : Session interpret m config command) : Machine.Start :=
  shellStart s.scripted s.loaded command

theorem content_path (s : Session interpret m config command) :
    s.ready.content s.path = .ok (Text.encode s.text) :=
  s.stores.content

theorem conclusion_enter (s : Session interpret m config command) :
    conclusion (enter interpret config command m) =
      (⟨Nix.exitCode s.ending, greeting s.loaded command ++ Text.decodeLossy s.ending.output,
        Text.decodeLossy s.ending.errors⟩,
        { s.ready with started := s.scripted.started ++ [s.start] }) := by
  rw [enter_of_ran (Machine.explain_of_ok s.loads) s.renders s.stores s.runs]
  rfl

/-- A session leaves its trace on the machine. -/
theorem not_nonempty (h : (conclusion (enter interpret config command m)).2.started =
    (after (Config.loadWith interpret config) m).started) :
    ¬ Nonempty (Session interpret m config command) := by
  rintro ⟨s⟩
  rw [s.conclusion_enter, Machine.after_of_ok s.loads] at h
  exact List.cons_ne_nil s.start [] (List.append_right_eq_self.1 h)

theorem exists_or_failure (command : Option String) (h : KeepsRunning interpret config m) :
    Nonempty (Session interpret m config command) ∨
      (conclusion (enter interpret config command m)).1.code = 1 ∧
        (conclusion (enter interpret config command m)).2.started =
          (after (Config.loadWith interpret config) m).started := by
  obtain ⟨loaded, m', hloaded, hload⟩ | ⟨outcome, hone, hload⟩ := loadConfig_ok_or_error h
  case inr =>
    have hrefused : enter interpret config command m = .error outcome _ :=
      Action.bind_of_error hload
    rw [hrefused]
    exact .inr ⟨hone, rfl⟩
  rw [Machine.after_of_ok hloaded]
  cases hrender : (nixFor m' loaded).render loaded.descriptor with
  | error e =>
    rw [enter_of_unwritten hload (Nix.Resolver.writeExpression_of_render_error hrender)]
    exact .inr ⟨rfl, rfl⟩
  | ok text =>
    -- Only the last way is a session; the others come before the start of the program.
    have hopens := opens_enter command hload hrender
    generalize conclusion (enter interpret config command m) = result at hopens ⊢
    cases hopens with
    | unstored hfails => exact .inr ⟨rfl, rfl⟩
    | refused hstores hlaunch => exact .inr ⟨rfl, rfl⟩
    | ran hstores hlaunch =>
      exact .inl ⟨loaded, m', text, _, _, hloaded, hrender, hstores, hlaunch⟩

end Session

theorem exitCode_eq_zero {ending : Machine.Ending} :
    Nix.exitCode ending = 0 ↔ ending.code = some 0 := by
  unfold Nix.exitCode
  cases ending.code with
  | none => simp
  | some code => simp

/-! ## Asking for a shell -/

/-- Arguments that ask for a shell with a config, or for a command in one, whatever the two are. -/
def shellLine (config : String) : Option String → List String
  | none => ["shell", "--", config]
  | some command => ["shell", "--command=" ++ command, "--", config]

def commandOption : Known :=
  ⟨"command", some 'c', .option⟩

theorem take_command (command : String) :
    Given.nothing.take [verbose, help, commandOption] 1 ("--command=" ++ command) =
      .ok { Given.nothing with options := [("command", command)] } := by
  have hchars : ("--command=" ++ command).toList =
      '-' :: '-' :: ("command".toList ++ '=' :: command.toList) := by
    rw [String.toList_append]
    rfl
  -- The name ends at the first equals sign, so the command may hold further ones.
  have hvalue : Given.nothing.takeLong [verbose, help, commandOption]
      ("command".toList ++ '=' :: command.toList) =
      Given.nothing.takeValue commandOption (String.ofList command.toList) := by rfl
  unfold Given.take
  rw [hchars]
  rw [String.ofList_toList] at hvalue
  exact hvalue

theorem parse_shellLine (config : String) (command : Option String) :
    parse (shellLine config command) = .ok (.enter config command) := by
  cases command with
  | none => rfl
  | some command =>
    have hread : parse (shellLine config (some command)) =
        (read [verbose, help, commandOption] 1 ["--command=" ++ command, "--", config]
          >>= ofGiven "shell") := by rfl
    rw [hread, read, List.foldlM_cons, take_command]
    rfl

/-! ## What the command reports -/

/-- For every config and command there are arguments that ask for a shell, and whatever arguments do
so, the command ends as the program for shells does, unless the config's script ends it: then it
ends with the code of that and as the script has left it. If the program for shells runs, it is the
only one that is started after the script. It gets the path of a file that holds the expression of
the config, and the command as it is, and its exit code is reported, or a one if it has none. If it
does not run, no program is started after the script and a one is reported. So a zero means that it
ran and reported a zero. -/
theorem shell_reports_ending (interpret : Interpreter) (config : String) (command : Option String)
    (m : Machine) :
    parse (shellLine config command) = .ok (.enter config command) ∧
      ∀ arguments, parse arguments = .ok (.enter config command) →
        (∀ code m', EndsProgram interpret config m code m' →
          runWith interpret arguments m = ((⟨code, "", ""⟩ : Outcome).between m m', m')) ∧
        (KeepsRunning interpret config m →
          ((∃ s : Session interpret m config command,
              s.ready.content s.path = .ok (Text.encode s.text) ∧
              s.start.program = s.scripted.env.shellProgram.getD "nix-shell" ∧
              s.start.arguments =
                (match command with
                  | none => [s.path]
                  | some text => [s.path, "--run", text]) ∧
              (runWith interpret arguments m).2 =
                { s.ready with started := s.scripted.started ++ [s.start] } ∧
              (runWith interpret arguments m).1.code = s.ending.code.getD 1) ∨
            (¬ Nonempty (Session interpret m config command) ∧
              (runWith interpret arguments m).2.started =
                (after (Config.loadWith interpret config) m).started ∧
              (runWith interpret arguments m).1.code = 1)) ∧
          ((runWith interpret arguments m).1.code = 0 ↔
            ∃ s : Session interpret m config command, s.ending.code = some 0)) := by
  refine ⟨parse_shellLine config command, ?_⟩
  intro arguments hparse
  have hrun : runWith interpret arguments m =
      seen m (conclusion (enter interpret config command m)) := runWith_of_parse hparse interpret m
  rw [hrun]
  refine ⟨fun code m' hends => ?_, fun hruns => ?_⟩
  · have hended : enter interpret config command m = .error ⟨code, "", ""⟩ m' :=
      Action.bind_of_error (loadConfig_of_endsProgram hends)
    rw [hended]
    rfl
  · rw [seen_code, seen_machine]
    have hways := Session.exists_or_failure command hruns
    constructor
    · obtain ⟨⟨s⟩⟩ | ⟨hone, hstarted⟩ := hways
      · refine .inl ⟨s, s.content_path, rfl, ?_, ?_, ?_⟩
        · cases command <;> rfl
        · rw [s.conclusion_enter]
        · rw [s.conclusion_enter]
          rfl
      · -- The failure itself rules out a session, whose start would be on record.
        exact .inr ⟨Session.not_nonempty hstarted, hstarted, hone⟩
    · constructor
      · intro hzero
        obtain ⟨⟨s⟩⟩ | ⟨hone, hstarted⟩ := hways
        · rw [s.conclusion_enter] at hzero
          exact ⟨s, exitCode_eq_zero.1 hzero⟩
        · exact absurd (hone.symm.trans hzero) Nat.one_ne_zero
      · rintro ⟨s, hcode⟩
        rw [s.conclusion_enter]
        exact exitCode_eq_zero.2 hcode

/-- A machine with a config, and with a program for shells that reports a code where it is given a
command and is ended by a signal otherwise. -/
def reporting : Machine :=
  let script := Text.encode "return \x7b target = 'aarch64-unknown-linux-gnu' \x7d"
  { Machine.ofFiles (FileTree.empty.put ["shell.lua"] (.file script)) with
    programs := fun _ arguments =>
      .ran ⟨if arguments.contains "--run" then some 3 else none, ByteArray.empty, ByteArray.empty⟩ }

/-- A machine with a config whose script ends the program. -/
def leaving : Machine :=
  Machine.ofFiles (FileTree.empty.put ["shell.lua"] (.file (Text.encode "os.exit(0)")))

theorem endsProgram_leaving : ∃ m', EndsProgram Script.interpreter "shell.lua" leaving 0 m' :=
  exists_endsProgram (by decide +kernel)

theorem shell_reports_ending_reporting :
    ((run ["shell", "-c", "make -j 'all'"] reporting).1.code = 3 ∧
      ∃ s : Session Script.interpreter reporting "shell.lua" (some "make -j 'all'"),
        s.start.arguments = [s.path, "--run", "make -j 'all'"] ∧
        (run ["shell", "-c", "make -j 'all'"] reporting).2.started =
          s.scripted.started ++ [s.start]) ∧
    ∃ m', EndsProgram Script.interpreter "shell.lua" leaving 0 m' ∧
      run ["shell"] leaving = ((⟨0, "", ""⟩ : Outcome).between leaving m', m') := by
  constructor
  · have hparse : parse ["shell", "-c", "make -j 'all'"] =
        .ok (.enter "shell.lua" (some "make -j 'all'")) := by rfl
    have hcode : (run ["shell", "-c", "make -j 'all'"] reporting).1.code = 3 := by decide +kernel
    have hruns : KeepsRunning Script.interpreter "shell.lua" reporting :=
      keepsRunning_of_load (by decide +kernel)
    obtain ⟨_, hreports⟩ :=
      shell_reports_ending Script.interpreter "shell.lua" (some "make -j 'all'") reporting
    obtain ⟨⟨s, _, _, harguments, hmachine, _⟩ | ⟨_, _, hone⟩, _⟩ :=
      (hreports _ hparse).2 hruns
    · exact ⟨hcode, s, harguments, congrArg Machine.started hmachine⟩
    · exact absurd (hcode.symm.trans hone) (by decide)
  · have hparse : parse ["shell"] = .ok (.enter "shell.lua" none) := by rfl
    obtain ⟨m', hends⟩ := endsProgram_leaving
    obtain ⟨_, hreports⟩ := shell_reports_ending Script.interpreter "shell.lua" none leaving
    exact ⟨m', hends, (hreports _ hparse).1 0 m' hends⟩

/-- Success is reported without a shell. -/
theorem script_ends_shell_command :
    (run ["shell"] leaving).1.code = 0 ∧ (run ["shell"] leaving).2.started = [] := by
  decide +kernel

end CrossShell.Command
