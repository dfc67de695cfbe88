import CrossShell.Proofs.Catalog.Check
import CrossShell.Proofs.Command.Enter
import CrossShell.Proofs.Json.Pretty

/-!
What is shown is what is run.

The commands that show something of a config and those that act on it load it on their own and set
up Nix on their own, each after a run of the config's script. Where the script does the same every
time, they agree: what `render` prints after the script is the expression that is stored and handed
to the programs of Nix, what cannot be printed is not acted on, and the digest of a plan is the
digest of whatever the plan is resolved to. A script that ends the program ends them all alike.
-/

set_option autoImplicit false

namespace CrossShell.Command

open Machine (Action Fault FileTree after)
open Script (Interpreter)

/-! ## Handing over an expression -/

/-- The text is stored at the path if that can be done, and the program is then started with the
arguments if that can be done. Nothing else happens to the machine. -/
inductive HandsOver (m : Machine) (path text program : String) (arguments : List String) :
    Outcome × Machine → Prop where
  | started {outcome : Outcome} {files : FileTree} {ending : Machine.Ending}
      (hstores : m.Stores m.env.shellsDirectory path text files)
      (hlaunch : m.launch program arguments = .ran ending) :
      HandsOver m path text program arguments
        (outcome, { m with files := files, started := m.started ++ [⟨program, arguments⟩] })
  | refused {outcome : Outcome} {files : FileTree} {fault : Fault}
      (hstores : m.Stores m.env.shellsDirectory path text files)
      (hlaunch : m.launch program arguments = .refused fault) (hcode : outcome.code = 1) :
      HandsOver m path text program arguments (outcome, { m with files := files })
  | unstored {outcome : Outcome} {files : FileTree} {fault : Fault}
      (hfails : m.StoreFails m.env.shellsDirectory path text fault files)
      (hcode : outcome.code = 1) :
      HandsOver m path text program arguments (outcome, { m with files := files })

variable {interpret : Interpreter} {m₀ m m' : Machine} {config text : String}
  {loaded : Config.Loaded}

theorem HandsOver.content {path program : String} {arguments : List String}
    {result : Outcome × Machine} {files : FileTree}
    (h : HandsOver m path text program arguments result)
    (hstores : m.Stores m.env.shellsDirectory path text files) :
    result.2.content path = .ok (Text.encode text) := by
  cases h with
  | started hstored hlaunch => exact hstored.content
  | refused hstored hlaunch hcode => exact hstored.content
  | unstored hfails hcode => exact absurd hfails hstores.not_storeFails

/-- Where the command succeeds, the text was stored and the program was started. -/
theorem HandsOver.of_success {path program : String} {arguments : List String}
    {result : Outcome × Machine} (h : HandsOver m path text program arguments result)
    (hcode : result.1.code = 0) :
    (∃ files, m.Stores m.env.shellsDirectory path text files) ∧
      result.2.started = m.started ++ [⟨program, arguments⟩] := by
  cases h with
  | started hstores hlaunch => exact ⟨⟨_, hstores⟩, rfl⟩
  | refused hstores hlaunch hone => exact absurd (hone.symm.trans hcode) Nat.one_ne_zero
  | unstored hfails hone => exact absurd (hone.symm.trans hcode) Nat.one_ne_zero

/-- What scripts print changes nothing of it. -/
theorem HandsOver.seen {path program : String} {arguments : List String}
    {result : Outcome × Machine} (h : HandsOver m path text program arguments result) :
    HandsOver m path text program arguments (seen m₀ result) := by
  cases h with
  | started hstores hlaunch => exact .started hstores hlaunch
  | refused hstores hlaunch hcode => exact .refused hstores hlaunch hcode
  | unstored hfails hcode => exact .unstored hfails hcode

theorem handsOver_check (asJson : Bool) (hload : loadConfig interpret config m₀ = .ok loaded m)
    (hrender : (nixFor m loaded).render loaded.descriptor = .ok text) :
    HandsOver m ((nixFor m loaded).expressionPath loaded.descriptor) text
      (nixFor m loaded).instantiateProgram [(nixFor m loaded).expressionPath loaded.descriptor]
      (conclusion (check interpret config none asJson m₀)) := by
  obtain ⟨result, hresolves⟩ :=
    Nix.Resolver.exists_resolves (nixFor m loaded) loaded.descriptor text m
  have hresolve := Nix.Resolver.resolve_of_resolves hrender hresolves
  -- How the program ends decides what the command says, but not what it leaves behind.
  cases hresolves with
  | unstored hfails =>
    rw [check_of_error hload (resolution_of_error hresolve)]
    exact .unstored hfails rfl
  | missing hstores hlaunch =>
    rw [check_of_error hload (resolution_of_error hresolve)]
    exact .refused hstores hlaunch rfl
  | refused hstores hlaunch hfault =>
    rw [check_of_error hload (resolution_of_error hresolve)]
    exact .refused hstores hlaunch rfl
  | failed hstores hlaunch hcode =>
    rw [check_of_error hload (resolution_of_error hresolve)]
    exact .started hstores hlaunch
  | silent hstores hlaunch hcode hblank =>
    rw [check_of_error hload (resolution_of_error hresolve)]
    exact .started hstores hlaunch
  | resolved hstores hlaunch hcode hderivation =>
    rw [check_of_ok hload (resolution_of_ok hresolve)]
    exact .started hstores hlaunch

theorem handsOver_enter (command : Option String)
    (hload : loadConfig interpret config m₀ = .ok loaded m)
    (hrender : (nixFor m loaded).render loaded.descriptor = .ok text) :
    HandsOver m ((nixFor m loaded).expressionPath loaded.descriptor) text
      (nixFor m loaded).shellProgram
      (Nix.Resolver.shellArguments ((nixFor m loaded).expressionPath loaded.descriptor) command)
      (conclusion (enter interpret config command m₀)) := by
  have hopens := opens_enter command hload hrender
  generalize conclusion (enter interpret config command m₀) = result at hopens ⊢
  cases hopens with
  | unstored hfails => exact .unstored hfails rfl
  | refused hstores hlaunch => exact .refused hstores hlaunch rfl
  | ran hstores hlaunch => exact .started hstores hlaunch

/-! ## Reporting a digest -/

/-- The output is an object with the digest. -/
def Reports (output hash : String) : Prop :=
  ∃ fields, output = line (Json.object fields).pretty ∧
    fields.lookup "hash" = some (.string hash)

theorem line_injective {text text' : String} (h : line text = line text') : text = text' := by
  have hchars := congrArg String.toList h
  unfold line at hchars
  rw [String.toList_append, String.toList_append] at hchars
  exact String.toList_inj.1 (List.append_cancel_right hchars)

/-- No output reports two digests. -/
theorem Reports.iff_eq {output hash hash' : String} (h : Reports output hash) :
    Reports output hash' ↔ hash' = hash := by
  constructor
  · intro h'
    obtain ⟨fields, rfl, hlookup⟩ := h
    obtain ⟨fields', houtput, hlookup'⟩ := h'
    have hobject := Json.pretty_injective (line_injective houtput)
    injection hobject with hfields
    rw [hfields, hlookup'] at hlookup
    injection hlookup with hstring
    injection hstring
  · rintro rfl
    exact h

theorem reports_planJson (d : Descriptor) :
    Reports (line (planJson d).sortFields.pretty) d.digest.text := by
  have hget : (SortedMap.ofList [("hash", Json.string d.digest.text),
      ("environment", d.toJson.sortFields)]).get? "hash" = some (.string d.digest.text) := by
    simp [SortedMap.ofList, SortedMap.insertAll]
  exact ⟨_, rfl, hget⟩

theorem reports_handle (h : Handle) : Reports (line h.toJson.pretty) h.digest.text :=
  ⟨_, rfl, rfl⟩

/-! ## Agreement -/

section Agreement

variable {renderArguments checkArguments enterArguments planArguments reportArguments : List String}
  {asJson : Bool} {command catalog : Option String}

/-- Where the script has not ended the program, what `render` prints of its own is what is stored
and handed over. -/
theorem handsOver_of_render (hrender : parse renderArguments = .ok (.render config))
    (hcheck : parse checkArguments = .ok (.check config none asJson))
    (henter : parse enterArguments = .ok (.enter config command))
    (hruns : KeepsRunning interpret config m)
    (hcode : (runWith interpret renderArguments m).1.code = 0) :
    ∃ loaded m' text nix path, Config.loadWith interpret config m = .ok loaded m' ∧
      runWith interpret renderArguments m = ((Outcome.success text).between m m', m') ∧
      nix = nixFor m' loaded ∧ path = nix.expressionPath loaded.descriptor ∧
      HandsOver m' path text nix.instantiateProgram [path] (runWith interpret checkArguments m) ∧
      HandsOver m' path text nix.shellProgram (Nix.Resolver.shellArguments path command)
        (runWith interpret enterArguments m) := by
  rw [runWith_of_parse hrender] at hcode ⊢
  rw [runWith_of_parse hcheck, runWith_of_parse henter]
  rw [seen_code] at hcode
  obtain ⟨loaded, m', hloaded, hload⟩ | ⟨outcome, hone, hload⟩ := loadConfig_ok_or_error hruns
  case inr =>
    have hrefused : perform interpret (.render config) m = .error outcome _ :=
      Action.bind_of_error hload
    rw [hrefused] at hcode
    exact absurd (hone.symm.trans hcode) Nat.one_ne_zero
  cases htext : (nixFor m' loaded).render loaded.descriptor with
  | error e =>
    have hrefused : perform interpret (.render config) m = .error _ m' :=
      render_of_error hload htext
    rw [hrefused] at hcode
    exact absurd hcode Nat.one_ne_zero
  | ok text =>
    have hshown : perform interpret (.render config) m = .ok (.success text) m' :=
      render_of_ok hload htext
    rw [hshown]
    exact ⟨loaded, m', text, nixFor m' loaded, _, hloaded, rfl, rfl, rfl,
      (handsOver_check asJson hload htext).seen, (handsOver_enter command hload htext).seen⟩

/-- What cannot be printed is not acted on: all that is done is done by the script. -/
theorem unchanged_of_render (hrender : parse renderArguments = .ok (.render config))
    (hcheck : parse checkArguments = .ok (.check config none asJson))
    (henter : parse enterArguments = .ok (.enter config command))
    (hruns : KeepsRunning interpret config m)
    (hcode : (runWith interpret renderArguments m).1.code ≠ 0) :
    ((runWith interpret checkArguments m).1.code = 1 ∧
        (runWith interpret checkArguments m).2 = after (Config.loadWith interpret config) m) ∧
      (runWith interpret enterArguments m).1.code = 1 ∧
        (runWith interpret enterArguments m).2 = after (Config.loadWith interpret config) m := by
  rw [runWith_of_parse hrender, seen_code] at hcode
  rw [runWith_of_parse hcheck, runWith_of_parse henter]
  simp only [seen_code, seen_machine]
  obtain ⟨loaded, m', hloaded, hload⟩ | ⟨outcome, hone, hload⟩ := loadConfig_ok_or_error hruns
  case inr =>
    have hchecked : perform interpret (.check config none asJson) m = .error outcome _ :=
      Action.bind_of_error hload
    have hentered : perform interpret (.enter config command) m = .error outcome _ :=
      Action.bind_of_error hload
    rw [hchecked, hentered]
    exact ⟨⟨hone, rfl⟩, hone, rfl⟩
  rw [Machine.after_of_ok hloaded]
  cases htext : (nixFor m' loaded).render loaded.descriptor with
  | ok text =>
    have hshown : perform interpret (.render config) m = .ok (.success text) m' :=
      render_of_ok hload htext
    rw [hshown] at hcode
    exact absurd rfl hcode
  | error e =>
    have hchecked : perform interpret (.check config none asJson) m = .error _ m' :=
      check_of_error hload (resolution_of_error (Nix.Resolver.resolve_of_render_error htext))
    have hentered : perform interpret (.enter config command) m = .error _ m' :=
      enter_of_unwritten hload (Nix.Resolver.writeExpression_of_render_error htext)
    rw [hchecked, hentered]
    exact ⟨⟨rfl, rfl⟩, rfl, rfl⟩

/-- A script that ends the program ends every command that loads the config. -/
theorem runWith_of_endsProgram {arguments : List String} {request : Request} {code : Nat}
    (hparse : parse arguments = .ok request)
    (hloads : ∀ outcome, loadConfig interpret config m = .error outcome m' →
      perform interpret request m = .error outcome m')
    (hends : EndsProgram interpret config m code m') :
    runWith interpret arguments m = ((⟨code, "", ""⟩ : Outcome).between m m', m') := by
  rw [runWith_of_parse hparse, hloads _ (loadConfig_of_endsProgram hends)]
  rfl

theorem digest_of_resolution {handle : Handle}
    (h : resolution catalog loaded m = .ok handle m') :
    handle.digest = loaded.descriptor.digest := by
  cases catalog with
  | none => exact Nix.Resolver.digest_of_resolve (Machine.explain_eq_ok h)
  | some file =>
    obtain ⟨c, m₁, _, hchecked⟩ := Action.bind_eq_ok h
    obtain ⟨hanswer, _⟩ := Machine.answer_eq_ok (Machine.explain_eq_ok hchecked)
    exact Catalog.digest_of_check hanswer

theorem code_of_resolution {outcome : Outcome}
    (h : resolution catalog loaded m = .error outcome m') : outcome.code = 1 := by
  cases catalog with
  | none =>
    obtain ⟨e, _, rfl⟩ := Machine.explain_eq_error h
    rfl
  | some file =>
    obtain hunread | ⟨c, m₁, _, hunchecked⟩ := Action.bind_eq_error h
    · obtain ⟨e, _, rfl⟩ := Machine.explain_eq_error hunread
      rfl
    · obtain ⟨e, _, rfl⟩ := Machine.explain_eq_error hunchecked
      rfl

/-- A plan and a check of one config report one digest, each in what it prints of its own. -/
theorem reports_of_plan (hplan : parse planArguments = .ok (.plan config true))
    (hreport : parse reportArguments = .ok (.check config catalog true))
    (hruns : KeepsRunning interpret config m)
    (hplanned : (runWith interpret planArguments m).1.code = 0)
    (hreported : (runWith interpret reportArguments m).1.code = 0) :
    ∃ loaded m₁ m₂ planned reported, Config.loadWith interpret config m = .ok loaded m₁ ∧
      runWith interpret planArguments m = ((Outcome.success planned).between m m₁, m₁) ∧
      runWith interpret reportArguments m = ((Outcome.success reported).between m m₂, m₂) ∧
      Reports planned loaded.descriptor.digest.text ∧
      Reports reported loaded.descriptor.digest.text := by
  rw [runWith_of_parse hplan] at hplanned ⊢
  rw [runWith_of_parse hreport] at hreported ⊢
  rw [seen_code] at hplanned hreported
  obtain ⟨loaded, m₁, hloaded, hload⟩ | ⟨outcome, hone, hload⟩ := loadConfig_ok_or_error hruns
  case inr =>
    have hrefused : perform interpret (.plan config true) m = .error outcome _ :=
      Action.bind_of_error hload
    rw [hrefused] at hplanned
    exact absurd (hone.symm.trans hplanned) Nat.one_ne_zero
  have hshown : perform interpret (.plan config true) m = .ok _ m₁ := plan_of_load hload
  rw [hshown]
  cases hresolution : resolution catalog loaded m₁ with
  | error outcome m₂ =>
    have hrefused : perform interpret (.check config catalog true) m = .error outcome m₂ :=
      check_of_error hload hresolution
    rw [hrefused] at hreported
    exact absurd (hreported.symm.trans (code_of_resolution hresolution)) Nat.zero_ne_one
  | ok handle m₂ =>
    have hresolved : perform interpret (.check config catalog true) m = .ok _ m₂ :=
      check_of_ok hload hresolution
    rw [hresolved]
    refine ⟨loaded, m₁, m₂, _, _, hloaded, rfl, rfl, reports_planJson loaded.descriptor, ?_⟩
    rw [← digest_of_resolution hresolution]
    exact reports_handle handle

/-- The commands on a config agree on every machine and whatever runs scripts. If the script ends
the program, it ends all of them with its code, and they do nothing. Otherwise, what `render` prints
of its own is stored in one file by `check` and by `shell`, and its path is handed to the programs
of Nix. Where `render` fails, neither does anything. A plan and a check, by Nix or by a catalog,
report the digest of one descriptor. What the script does to the machine comes before all that, and
what it prints stands around what the commands print. -/
theorem commands_agree (hrender : parse renderArguments = .ok (.render config))
    (hcheck : parse checkArguments = .ok (.check config none asJson))
    (henter : parse enterArguments = .ok (.enter config command))
    (hplan : parse planArguments = .ok (.plan config true))
    (hreport : parse reportArguments = .ok (.check config catalog true))
    (interpret : Interpreter) (m : Machine) :
    (∀ code m', EndsProgram interpret config m code m' →
      ∀ arguments ∈ [renderArguments, checkArguments, enterArguments, planArguments,
          reportArguments],
        runWith interpret arguments m = ((⟨code, "", ""⟩ : Outcome).between m m', m')) ∧
    (KeepsRunning interpret config m →
      ((runWith interpret renderArguments m).1.code = 0 →
        ∃ loaded m' text nix path, Config.loadWith interpret config m = .ok loaded m' ∧
          runWith interpret renderArguments m = ((Outcome.success text).between m m', m') ∧
          nix = nixFor m' loaded ∧ path = nix.expressionPath loaded.descriptor ∧
          HandsOver m' path text nix.instantiateProgram [path]
            (runWith interpret checkArguments m) ∧
          HandsOver m' path text nix.shellProgram (Nix.Resolver.shellArguments path command)
            (runWith interpret enterArguments m) ∧
          ∀ files, m'.Stores nix.shellsDirectory path text files →
            (runWith interpret checkArguments m).2.content path = .ok (Text.encode text) ∧
              (runWith interpret enterArguments m).2.content path = .ok (Text.encode text)) ∧
      ((runWith interpret renderArguments m).1.code ≠ 0 →
        ((runWith interpret checkArguments m).1.code = 1 ∧
            (runWith interpret checkArguments m).2 = after (Config.loadWith interpret config) m) ∧
          (runWith interpret enterArguments m).1.code = 1 ∧
            (runWith interpret enterArguments m).2 = after (Config.loadWith interpret config) m) ∧
      ((runWith interpret planArguments m).1.code = 0 →
        (runWith interpret reportArguments m).1.code = 0 →
          ∃ loaded m₁ m₂ planned reported, Config.loadWith interpret config m = .ok loaded m₁ ∧
            runWith interpret planArguments m = ((Outcome.success planned).between m m₁, m₁) ∧
            runWith interpret reportArguments m = ((Outcome.success reported).between m m₂, m₂) ∧
            ∀ hash, (Reports planned hash ↔ hash = loaded.descriptor.digest.text) ∧
              (Reports reported hash ↔ hash = loaded.descriptor.digest.text))) := by
  refine ⟨?_, fun hruns => ⟨?_, unchanged_of_render hrender hcheck henter hruns, ?_⟩⟩
  · intro code m' hends arguments harguments
    simp only [List.mem_cons, List.not_mem_nil, or_false] at harguments
    obtain rfl | rfl | rfl | rfl | rfl := harguments
    · exact runWith_of_endsProgram hrender (fun _ => Action.bind_of_error) hends
    · exact runWith_of_endsProgram hcheck (fun _ => Action.bind_of_error) hends
    · exact runWith_of_endsProgram henter (fun _ => Action.bind_of_error) hends
    · exact runWith_of_endsProgram hplan (fun _ => Action.bind_of_error) hends
    · exact runWith_of_endsProgram hreport (fun _ => Action.bind_of_error) hends
  · intro hcode
    obtain ⟨loaded, m', text, nix, path, hload, hshown, hnix, hpath, hchecked, hentered⟩ :=
      handsOver_of_render hrender hcheck henter hruns hcode
    refine ⟨loaded, m', text, nix, path, hload, hshown, hnix, hpath, hchecked, hentered, ?_⟩
    intro files hstores
    rw [hnix] at hstores
    exact ⟨hchecked.content hstores, hentered.content hstores⟩
  · intro hplanned hreported
    obtain ⟨loaded, m₁, m₂, planned, reported, hload, hshown, hresolved, hplan, hcheck⟩ :=
      reports_of_plan hplan hreport hruns hplanned hreported
    exact ⟨loaded, m₁, m₂, planned, reported, hload, hshown, hresolved,
      fun hash => ⟨hplan.iff_eq, hcheck.iff_eq⟩⟩

/-- A machine with a config, a catalog and a Nix that succeeds. -/
def configured : Machine :=
  let script := Text.encode "return \x7b target = 'aarch64-unknown-linux-gnu' \x7d"
  let catalog := Text.encode "\x7b\"packages\": \x7b\x7d\x7d"
  let files := FileTree.empty.put ["shell.lua"] (.file script)
  { Machine.ofFiles (files.put ["catalog.json"] (.file catalog)) with
    programs := fun _ _ => .ran ⟨some 0, Text.encode "/nix/store/shell.drv\n", ByteArray.empty⟩ }

theorem commands_agree_configured :
    (∃ m' text program path files,
      run ["render"] configured = ((Outcome.success text).between configured m', m') ∧
        m'.Stores m'.env.shellsDirectory path text files ∧
        (run ["check"] configured).2.started = m'.started ++ [⟨program, [path]⟩] ∧
        (run ["check"] configured).2.content path = .ok (Text.encode text) ∧
        (run ["shell"] configured).2.content path = .ok (Text.encode text)) ∧
    (∃ m₁ m₂ planned reported hash,
      run ["plan", "--json"] configured = ((Outcome.success planned).between configured m₁, m₁) ∧
        run ["check", "--catalog", "catalog.json", "--json"] configured =
          ((Outcome.success reported).between configured m₂, m₂) ∧
        Reports planned hash ∧ Reports reported hash) ∧
    ∃ m', EndsProgram Script.interpreter "shell.lua" leaving 0 m' ∧
      run ["render"] leaving = ((⟨0, "", ""⟩ : Outcome).between leaving m', m') ∧
      run ["check"] leaving = ((⟨0, "", ""⟩ : Outcome).between leaving m', m') := by
  have hrender : parse ["render"] = .ok (.render "shell.lua") := by rfl
  have hcheck : parse ["check"] = .ok (.check "shell.lua" none false) := by rfl
  have hshell : parse ["shell"] = .ok (.enter "shell.lua" none) := by rfl
  have hplan : parse ["plan", "--json"] = .ok (.plan "shell.lua" true) := by rfl
  have hreport : parse ["check", "--catalog", "catalog.json", "--json"] =
      .ok (.check "shell.lua" (some "catalog.json") true) := by rfl
  have hagree := commands_agree hrender hcheck hshell hplan hreport Script.interpreter
  have hrendered : (run ["render"] configured).1.code = 0 := by decide +kernel
  have hchecked : (run ["check"] configured).1.code = 0 := by decide +kernel
  have hplanned : (run ["plan", "--json"] configured).1.code = 0 := by decide +kernel
  have hreported :
      (run ["check", "--catalog", "catalog.json", "--json"] configured).1.code = 0 := by
    decide +kernel
  have hruns : KeepsRunning Script.interpreter "shell.lua" configured :=
    keepsRunning_of_load (by decide +kernel)
  obtain ⟨hhands, _, hdigest⟩ := (hagree configured).2 hruns
  refine ⟨?_, ?_, ?_⟩
  · obtain ⟨loaded, m', text, nix, path, _, hshown, rfl, _, hhanded, _, hcontents⟩ :=
      hhands hrendered
    obtain ⟨⟨files, hstores⟩, hstarted⟩ := hhanded.of_success hchecked
    obtain ⟨hcontent, hcontent'⟩ := hcontents files hstores
    exact ⟨m', text, _, path, files, hshown, hstores, hstarted, hcontent, hcontent'⟩
  · obtain ⟨loaded, m₁, m₂, planned, reported, _, hshown, hresolved, hreports⟩ :=
      hdigest hplanned hreported
    exact ⟨m₁, m₂, planned, reported, _, hshown, hresolved, (hreports _).1.2 rfl,
      (hreports _).2.2 rfl⟩
  · obtain ⟨m', hends⟩ := endsProgram_leaving
    have hended := (hagree leaving).1 0 m' hends
    exact ⟨m', hends, hended _ (by simp), hended _ (by simp)⟩

/-- A machine with a config whose script prints a line, and with programs that succeed. -/
def printing : Machine :=
  let script := Text.encode "print('x') return \x7b target = 'aarch64-unknown-linux-gnu' \x7d"
  { Machine.ofFiles (FileTree.empty.put ["shell.lua"] (.file script)) with
    programs := fun _ _ => .ran ⟨some 0, Text.encode "/nix/store/shell.drv\n", ByteArray.empty⟩ }

/-- The first argument that was given to a program. -/
def firstArgument (m : Machine) : String :=
  (m.started.flatMap (·.arguments)).headD ""

/-- What the script prints is printed by the command and is not in the file that is handed over. -/
theorem printed_line_is_not_stored : (run ["render"] printing).1.code = 0 ∧
    ∃ path, (run ["check"] printing).2.started = [⟨"nix-instantiate", [path]⟩] ∧
      (run ["check"] printing).2.content path ≠
        .ok (Text.encode (run ["render"] printing).1.output) := by
  have hrendered : (run ["render"] printing).1.code = 0 := by decide +kernel
  exact ⟨hrendered, firstArgument (run ["check"] printing).2, by decide +kernel⟩

end Agreement

end CrossShell.Command
