import CrossShell.Command.Run
import CrossShell.Proofs.Config.Load

/-!
What the commands on a config come to.

Every one of them loads the config first, and the config's script may change the machine, whatever
runs it, and may even end the program. If it does not, what a command does then is told here from
the results of its parts, once for the case that they succeed and once for each that fails; all of
it happens on the machine that the script has left.
-/

set_option autoImplicit false

namespace CrossShell.Command

open Machine (Action after)
open Script (Interpreter)

/-! ## Requests -/

/-- What a task came to, whether it broke off or not. -/
def conclusion : EStateM.Result Outcome Machine Outcome → Outcome × Machine
  | .ok outcome m => (outcome, m)
  | .error outcome m => (outcome, m)

/-- What is seen of a result: what scripts print stands around what the command says. -/
def seen (m : Machine) (result : Outcome × Machine) : Outcome × Machine :=
  (result.1.between m result.2, result.2)

@[simp] theorem seen_code (m : Machine) (result : Outcome × Machine) :
    (seen m result).1.code = result.1.code := rfl

@[simp] theorem seen_machine (m : Machine) (result : Outcome × Machine) :
    (seen m result).2 = result.2 := rfl

theorem runWith_of_parse {arguments : List String} {request : Request}
    (h : parse arguments = .ok request) (interpret : Interpreter) (m : Machine) :
    runWith interpret arguments m = seen m (conclusion (perform interpret request m)) := by
  unfold runWith
  rw [h]
  cases hperform : perform interpret request m with
  | ok outcome m' => simp only [hperform, conclusion, seen]
  | error outcome m' => simp only [hperform, conclusion, seen]

/-! ## Loading -/

section Loading

variable {interpret : Interpreter} {config : String} {m m' : Machine} {code : Nat}

/-- The config's script ends the program, with a code, and leaves a machine. -/
def EndsProgram (interpret : Interpreter) (config : String) (m : Machine) (code : Nat)
    (m' : Machine) : Prop :=
  Config.loadWith interpret config m = .error (.script (.exited code)) m'

/-- The config's script does not end the program, whatever else comes of it. -/
def KeepsRunning (interpret : Interpreter) (config : String) (m : Machine) : Prop :=
  ∀ code m', ¬ EndsProgram interpret config m code m'

theorem loadConfig_of_endsProgram (h : EndsProgram interpret config m code m') :
    loadConfig interpret config m = .error ⟨code, "", ""⟩ m' :=
  Machine.explain_of_error h

/-- Where the script does not end the program, there is a config, or the command fails with what the
script has left. -/
theorem loadConfig_ok_or_error (h : KeepsRunning interpret config m) :
    (∃ loaded m', Config.loadWith interpret config m = .ok loaded m' ∧
      loadConfig interpret config m = .ok loaded m') ∨
    ∃ outcome, outcome.code = 1 ∧ loadConfig interpret config m =
      .error outcome (after (Config.loadWith interpret config) m) := by
  cases hload : Config.loadWith interpret config m with
  | ok loaded m' => exact .inl ⟨loaded, m', rfl, Machine.explain_of_ok hload⟩
  | error e m' =>
    refine .inr ⟨ofUnloaded config e, ?_, ?_⟩
    · unfold ofUnloaded
      split
      · exact absurd hload (h _ m')
      · rfl
    · rw [Machine.after_of_error hload]
      exact Machine.explain_of_error hload

/-- Whether an error says that the script has ended the program with a code. -/
def isExit (code : Nat) : ConfigError → Bool
  | .script (.exited own) => own == code
  | _ => false

theorem exists_endsProgram
    (h : Machine.refuses (Config.loadWith interpret config) m (isExit code) = true) :
    ∃ m', EndsProgram interpret config m code m' := by
  obtain ⟨e, m', hload, hexit⟩ := Machine.exists_error_of_refuses h
  unfold isExit at hexit
  split at hexit
  · rw [eq_of_beq hexit] at hload
    exact ⟨m', hload⟩
  · cases hexit

theorem keepsRunning_of_load
    (h : Machine.answers (Config.loadWith interpret config) m (fun _ => true) = true) :
    KeepsRunning interpret config m := by
  intro code m' hends
  obtain ⟨loaded, m₁, hload, -⟩ := Machine.exists_ok_of_answers h
  cases hload.symm.trans hends

end Loading

/-! ## Commands on a config that was loaded -/

section Loaded

variable {interpret : Interpreter} {config : String} {m₀ m m' m'' : Machine}
  {loaded : Config.Loaded}

theorem render_of_ok {text : String} (hload : loadConfig interpret config m₀ = .ok loaded m)
    (hrender : (nixFor m loaded).render loaded.descriptor = .ok text) :
    render interpret config m₀ = .ok (.success text) m := by
  have hshown : Machine.explain (about "Failed to render shell expression" ofResolveError)
      (Machine.answer ((nixFor m loaded).render loaded.descriptor)) m = .ok text m := by
    rw [hrender]
    rfl
  unfold render
  rw [Action.bind_of_ok hload, Action.get_bind]
  exact Action.bind_of_ok hshown

theorem render_of_error {e : ResolveError} (hload : loadConfig interpret config m₀ = .ok loaded m)
    (hrender : (nixFor m loaded).render loaded.descriptor = .error e) :
    render interpret config m₀ =
      .error (about "Failed to render shell expression" ofResolveError e) m := by
  have hrefused : Machine.explain (about "Failed to render shell expression" ofResolveError)
      (Machine.answer ((nixFor m loaded).render loaded.descriptor)) m =
      .error (about "Failed to render shell expression" ofResolveError e) m := by
    rw [hrender]
    rfl
  unfold render
  rw [Action.bind_of_ok hload, Action.get_bind]
  exact Action.bind_of_error hrefused

theorem plan_of_load (hload : loadConfig interpret config m₀ = .ok loaded m) :
    plan interpret config true m₀ =
      .ok (.success (line (planJson loaded.descriptor).sortFields.pretty)) m := by
  unfold plan
  rw [Action.bind_of_ok hload]
  rfl

/-- How a check resolves a config. -/
def resolution (catalog : Option String) (loaded : Config.Loaded) : Task Handle :=
  match catalog with
  | some file => checkCatalog file loaded.descriptor
  | none => fun m => checkNix (nixFor m loaded) loaded.descriptor m

theorem resolution_of_ok {handle : Handle}
    (hresolve : (nixFor m loaded).resolve loaded.descriptor m = .ok handle m') :
    resolution none loaded m = .ok handle m' :=
  Machine.explain_of_ok hresolve

theorem resolution_of_error {e : ResolveError}
    (hresolve : (nixFor m loaded).resolve loaded.descriptor m = .error e m') :
    resolution none loaded m =
      .error (about "Resolution failed (nix)" ofResolveError e) m' :=
  Machine.explain_of_error hresolve

theorem check_of_ok {catalog : Option String} {asJson : Bool} {handle : Handle}
    (hload : loadConfig interpret config m₀ = .ok loaded m)
    (hresolve : resolution catalog loaded m = .ok handle m') :
    check interpret config catalog asJson m₀ =
      .ok (.success (if asJson then line handle.toJson.pretty else handleLines handle)) m' := by
  unfold check
  rw [Action.bind_of_ok hload]
  -- The continuation of the command stands in both branches of its choice of a resolver.
  cases catalog with
  | some file => exact Action.bind_of_ok hresolve
  | none =>
    have hnix : checkNix (nixFor m loaded) loaded.descriptor m = .ok handle m' := hresolve
    exact (Action.get_bind _ m).trans (Action.bind_of_ok hnix)

theorem check_of_error {catalog : Option String} {asJson : Bool} {outcome : Outcome}
    (hload : loadConfig interpret config m₀ = .ok loaded m)
    (hresolve : resolution catalog loaded m = .error outcome m') :
    check interpret config catalog asJson m₀ = .error outcome m' := by
  unfold check
  rw [Action.bind_of_ok hload]
  cases catalog with
  | some file => exact Action.bind_of_error hresolve
  | none =>
    have hnix : checkNix (nixFor m loaded) loaded.descriptor m = .error outcome m' := hresolve
    exact (Action.get_bind _ m).trans (Action.bind_of_error hnix)

theorem enter_of_unwritten {command : Option String} {e : ResolveError}
    (hload : loadConfig interpret config m₀ = .ok loaded m)
    (hwrite : (nixFor m loaded).writeExpression loaded.descriptor m = .error e m') :
    enter interpret config command m₀ =
      .error (about "Failed to write shell expression" ofResolveError e) m' := by
  unfold enter
  rw [Action.bind_of_ok hload, Action.get_bind]
  exact Action.bind_of_error (Machine.explain_of_error hwrite)

/-- What is said before a shell opens. -/
def greeting (loaded : Config.Loaded) (command : Option String) : String :=
  if command.isNone then infoLine ("Entering " ++ loaded.descriptor.target.triple ++ " shell")
  else ""

theorem enter_of_error {command : Option String} {path : String} {e : ResolveError}
    (hload : loadConfig interpret config m₀ = .ok loaded m)
    (hwrite : (nixFor m loaded).writeExpression loaded.descriptor m = .ok path m')
    (henter : (nixFor m loaded).enter path command m' = .error e m'') :
    enter interpret config command m₀ =
      .error (.failure (greeting loaded command) ("Failed to enter shell" :: ofResolveError e))
        m'' := by
  unfold enter
  rw [Action.bind_of_ok hload, Action.get_bind]
  have hwritten := Machine.explain_of_ok
    (f := about "Failed to write shell expression" ofResolveError) hwrite
  exact (Action.bind_of_ok hwritten).trans (Action.bind_of_error (Machine.explain_of_error henter))

theorem enter_of_ok {command : Option String} {path : String} {ending : Machine.Ending}
    (hload : loadConfig interpret config m₀ = .ok loaded m)
    (hwrite : (nixFor m loaded).writeExpression loaded.descriptor m = .ok path m')
    (henter : (nixFor m loaded).enter path command m' = .ok ending m'') :
    enter interpret config command m₀ =
      .ok ⟨Nix.exitCode ending, greeting loaded command ++ Text.decodeLossy ending.output,
        Text.decodeLossy ending.errors⟩ m'' := by
  unfold enter
  rw [Action.bind_of_ok hload, Action.get_bind]
  have hwritten := Machine.explain_of_ok
    (f := about "Failed to write shell expression" ofResolveError) hwrite
  exact (Action.bind_of_ok hwritten).trans (Action.bind_of_ok (Machine.explain_of_ok henter))

end Loaded

end CrossShell.Command
