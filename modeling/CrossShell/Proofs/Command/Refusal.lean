import CrossShell.Proofs.Command.Loaded
import CrossShell.Proofs.Nix.Resolve

/-!
A package whose name is no identifier is refused before anything happens.

The names of a descriptor are looked at before its expression is rendered, and that is rendered
before a directory is made, a file is written or a program is started. So whoever needs the
expression of such a descriptor gets the first bad name of it, and the machine is as it was: as the
config's script has left it, where the descriptor comes from a config.
-/

set_option autoImplicit false

namespace CrossShell

/-! ## The first bad name -/

namespace Nix

/-- The first name of a descriptor that is no identifier, among the names of the native inputs and
then those of the others. -/
structure FirstBadName (d : Descriptor) (before : List String) (name : String)
    (after : List String) : Prop where
  names : d.nativeBuildInputs.map (·.name) ++ d.buildInputs.map (·.name) = before ++ name :: after
  bad : isIdentifier name = false
  first : ∀ other ∈ before, isIdentifier other = true

variable {d : Descriptor} {name : String}

theorem badName?_eq_some :
    Expression.badName? d = some name ↔ ∃ before after, FirstBadName d before name after := by
  have hnames : d.dependencies.map (·.name) =
      d.nativeBuildInputs.map (·.name) ++ d.buildInputs.map (·.name) := List.map_append
  unfold Expression.badName?
  rw [hnames, List.find?_eq_some_iff_append]
  constructor
  · rintro ⟨hbad, before, after, hsplit, hfirst⟩
    refine ⟨before, after, hsplit, by simpa using hbad, ?_⟩
    intro other hother
    simpa using hfirst other hother
  · rintro ⟨before, after, hsplit, hbad, hfirst⟩
    refine ⟨by simpa using hbad, before, after, hsplit, ?_⟩
    intro other hother
    simpa using hfirst other hother

theorem exists_firstBadName
    (h : ∃ x ∈ d.nativeBuildInputs ++ d.buildInputs, isIdentifier x.name = false) :
    ∃ before name after, FirstBadName d before name after := by
  obtain ⟨x, hx, hbad⟩ := h
  have hsome : (Expression.badName? d).isSome = true :=
    List.find?_isSome.2 ⟨x.name, List.mem_map_of_mem hx, by simp [hbad]⟩
  obtain ⟨name, hname⟩ := Option.isSome_iff_exists.1 hsome
  obtain ⟨before, after, hfirst⟩ := badName?_eq_some.1 hname
  exact ⟨before, name, after, hfirst⟩

theorem FirstBadName.render {before after : List String} (h : FirstBadName d before name after)
    (r : Resolver) : r.render d = .error (.packageNotFound name) := by
  unfold Resolver.render Nix.render Expression.ofDescriptor
  rw [badName?_eq_some.2 ⟨before, after, h⟩]
  rfl

end Nix

namespace Command

open Machine (FileTree)
open Script (Interpreter)

/-! ## Refusals -/

/-- What a command says that was about to do something with a package of the name. -/
def missing (attempt name : String) : Outcome :=
  .failure "" [attempt, "package not found: " ++ name]

theorem about_packageNotFound (attempt name : String) :
    about attempt ofResolveError (.packageNotFound name) = missing attempt name := by
  -- The texts are kept as they are; computing them to compare them would not end.
  have hparts : ofResolveError (.packageNotFound name) = ["package not found: " ++ name] := by
    unfold ofResolveError ResolveError.message
    dsimp only
  unfold about missing
  rw [hparts]

section Refusals

variable {interpret : Interpreter} {config : String} {m m' : Machine} {loaded : Config.Loaded}
  {name : String} {before after : List String}

theorem enter_of_firstBadName (command : Option String)
    (hload : Config.loadWith interpret config m = .ok loaded m')
    (h : Nix.FirstBadName loaded.descriptor before name after) :
    enter interpret config command m =
      .error (missing "Failed to write shell expression" name) m' := by
  rw [← about_packageNotFound]
  exact enter_of_unwritten (Machine.explain_of_ok hload)
    (Nix.Resolver.writeExpression_of_render_error (h.render (nixFor m' loaded)))

theorem check_of_firstBadName (asJson : Bool)
    (hload : Config.loadWith interpret config m = .ok loaded m')
    (h : Nix.FirstBadName loaded.descriptor before name after) :
    check interpret config none asJson m =
      .error (missing "Resolution failed (nix)" name) m' := by
  rw [← about_packageNotFound]
  exact check_of_error (Machine.explain_of_ok hload)
    (resolution_of_error (Nix.Resolver.resolve_of_render_error (h.render (nixFor m' loaded))))

end Refusals

/-- A descriptor with a name that is no identifier is refused for the first such name by all that
need its expression, whatever the settings, the host and the machine are, and the machine is then as
it was: nothing is written and no program is started. The commands that would act on a config with
that descriptor fail and name that package, and they leave the machine as the config's script has
left it, whatever runs that. A descriptor whose names are identifiers always has an expression. -/
theorem bad_name_changes_nothing (d : Descriptor) :
    ((∃ x ∈ d.nativeBuildInputs ++ d.buildInputs, Nix.isIdentifier x.name = false) →
      ∃ before name after, Nix.FirstBadName d before name after ∧
        (∀ (r : Nix.Resolver) (m : Machine),
          r.render d = .error (.packageNotFound name) ∧
          r.writeExpression d m = .error (.packageNotFound name) m ∧
          r.resolve d m = .error (.packageNotFound name) m) ∧
        ∀ (interpret : Interpreter) (config : String) (m m' : Machine) (loaded : Config.Loaded),
          Config.loadWith interpret config m = .ok loaded m' → loaded.descriptor = d →
          (∀ arguments command, parse arguments = .ok (.enter config command) →
            runWith interpret arguments m =
              ((missing "Failed to write shell expression" name).between m m', m')) ∧
          ∀ arguments asJson, parse arguments = .ok (.check config none asJson) →
            runWith interpret arguments m =
              ((missing "Resolution failed (nix)" name).between m m', m')) ∧
    ((∀ x ∈ d.nativeBuildInputs ++ d.buildInputs, Nix.isIdentifier x.name = true) →
      ∀ r : Nix.Resolver, ∃ text, r.render d = .ok text) := by
  refine ⟨?_, fun hnames r => r.exists_render hnames⟩
  intro hbad
  obtain ⟨before, name, after, hfirst⟩ := Nix.exists_firstBadName hbad
  refine ⟨before, name, after, hfirst, ?_, ?_⟩
  · intro r m
    have hrender := hfirst.render r
    exact ⟨hrender, Nix.Resolver.writeExpression_of_render_error hrender,
      Nix.Resolver.resolve_of_render_error hrender⟩
  · rintro interpret config m m' loaded hload rfl
    constructor
    · intro arguments command hparse
      have hrefused : perform interpret (.enter config command) m = .error _ m' :=
        enter_of_firstBadName command hload hfirst
      rw [runWith_of_parse hparse, hrefused]
      rfl
    · intro arguments asJson hparse
      have hrefused : perform interpret (.check config none asJson) m = .error _ m' :=
        check_of_firstBadName asJson hload hfirst
      rw [runWith_of_parse hparse, hrefused]
      rfl

/-- A machine with a config that asks for two packages whose names are no identifiers. -/
def misnamed : Machine :=
  let script := Text.encode ("return \x7b target = 'aarch64-unknown-linux-gnu', " ++
    "native_build_inputs = \x7b 'gcc' \x7d, " ++
    "build_inputs = \x7b 'python3Packages.numpy', 'gnu make' \x7d \x7d")
  { Machine.ofFiles (FileTree.empty.put ["shell.lua"] (.file script)) with
    programs := fun _ _ => .ran ⟨some 0, ByteArray.empty, ByteArray.empty⟩ }

def misnamedDescriptor : Descriptor :=
  ⟨Target.aarch64Linux, [⟨"gcc", .nativeBuildInput⟩],
    [⟨"python3Packages.numpy", .buildInput⟩, ⟨"gnu make", .buildInput⟩], SortedMap.empty⟩

theorem bad_name_changes_nothing_misnamed :
    (∃ m', (∃ loaded, Config.load "shell.lua" misnamed = .ok loaded m') ∧
      run ["shell"] misnamed =
        ((missing "Failed to write shell expression" "python3Packages.numpy").between misnamed m',
          m') ∧
      run ["check"] misnamed =
        ((missing "Resolution failed (nix)" "python3Packages.numpy").between misnamed m', m')) ∧
      ∃ text, Nix.Resolver.plainResolver.render Nix.Resolver.gccDescriptor = .ok text := by
  have henter : parse ["shell"] = .ok (.enter "shell.lua" none) := by rfl
  have hcheck : parse ["check"] = .ok (.check "shell.lua" none false) := by rfl
  have hloads : Machine.answers (Config.load "shell.lua") misnamed
      (fun loaded => loaded.descriptor = misnamedDescriptor) = true := by decide +kernel
  obtain ⟨loaded, m', hload, hdescriptor⟩ := Machine.exists_ok_of_answers hloads
  have hbad : ∃ x ∈ misnamedDescriptor.nativeBuildInputs ++ misnamedDescriptor.buildInputs,
      Nix.isIdentifier x.name = false := by decide
  obtain ⟨before, name, after, hfirst, _, hrefused⟩ :=
    (bad_name_changes_nothing misnamedDescriptor).1 hbad
  obtain ⟨hentered, hchecked⟩ := hrefused Script.interpreter "shell.lua" misnamed m' loaded hload
    (of_decide_eq_true hdescriptor)
  have hname : name = "python3Packages.numpy" := by
    have hfound : Nix.Expression.badName? misnamedDescriptor = some "python3Packages.numpy" := by
      decide
    have hfound' := Nix.badName?_eq_some.2 ⟨before, after, hfirst⟩
    rw [hfound] at hfound'
    exact (Option.some.inj hfound').symm
  rw [hname] at hentered hchecked
  have hnames : ∀ x ∈ Nix.Resolver.gccDescriptor.nativeBuildInputs ++
      Nix.Resolver.gccDescriptor.buildInputs, Nix.isIdentifier x.name = true := by decide
  exact ⟨⟨m', ⟨loaded, hload⟩, hentered _ none henter, hchecked _ false hcheck⟩,
    (bad_name_changes_nothing Nix.Resolver.gccDescriptor).2 hnames Nix.Resolver.plainResolver⟩

/-- A machine with a config whose script makes a file, and which asks for a package whose name is no
identifier. -/
def making : Machine :=
  let script := Text.encode ("io.open('made', 'w') " ++
    "return \x7b target = 'aarch64-unknown-linux-gnu', build_inputs = \x7b 'gnu make' \x7d \x7d")
  Machine.ofFiles (FileTree.empty.put ["shell.lua"] (.file script))

/-- The file is there when the command has failed for the name. -/
theorem script_makes_file :
    (∃ loaded m', Config.load "shell.lua" making = .ok loaded m' ∧
      ∃ x ∈ loaded.descriptor.buildInputs, Nix.isIdentifier x.name = false) ∧
    making.files.get? ["made"] = none ∧ (run ["check"] making).1.code = 1 ∧
      (run ["check"] making).2.files.get? ["made"] = some (.file ByteArray.empty) := by
  have hloads : Machine.answers (Config.load "shell.lua") making (fun loaded =>
      decide (∃ x ∈ loaded.descriptor.buildInputs, Nix.isIdentifier x.name = false)) = true := by
    decide +kernel
  obtain ⟨loaded, m', hload, hbad⟩ := Machine.exists_ok_of_answers hloads
  exact ⟨⟨loaded, m', hload, of_decide_eq_true hbad⟩, by decide +kernel⟩

end Command

end CrossShell
