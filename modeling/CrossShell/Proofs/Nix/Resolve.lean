import CrossShell.Nix.Resolver
import CrossShell.Proofs.Machine.Stored
import CrossShell.Proofs.Target
import CrossShell.Proofs.Text.Split
import CrossShell.Proofs.Text.Trim

/-!
What becomes of a resolution.

`Resolves` lists the ways in which the resolution of a descriptor that has an expression can go,
each with its answer and with what it leaves of the machine: the expression cannot be stored, the
program cannot be started, it fails, it names no derivation, or it names one. Exactly one of them
happens on every machine, whatever the program does.
-/

set_option autoImplicit false

namespace CrossShell.Nix

open Machine (Fault FileTree Route)

/-! ## The derivation -/

/-- What is named on the last line that is not blank. Lines end at line feeds. -/
def IsDerivation (output derivation : List Char) : Prop :=
  ∃ before line after, Text.fields '\n' output = before ++ line :: after ∧
    Text.isAllBlank line = false ∧ (∀ l ∈ after, Text.isAllBlank l = true) ∧
    Text.IsTrimmed line derivation

/-- A descriptor whose names are identifiers has an expression. -/
theorem exists_render_of_names {d : Descriptor}
    (hnames : ∀ x ∈ d.nativeBuildInputs ++ d.buildInputs, isIdentifier x.name = true)
    (nixpkgs : String) (host : Option Platform) : ∃ text, render d nixpkgs host = .ok text := by
  have hnone : Expression.badName? d = none := by
    unfold Expression.badName?
    rw [List.find?_eq_none]
    intro name hname
    obtain ⟨x, hx, rfl⟩ := List.mem_map.1 hname
    simp [hnames x hx]
  unfold render Expression.ofDescriptor
  rw [hnone]
  exact ⟨_, rfl⟩

namespace Resolver

theorem derivation?_eq (output : List Char) :
    derivation? output =
      ((Text.fields '\n' output).reverse.find? fun line => !Text.isAllBlank line).map Text.trim :=
  Text.find?_reverse_lines rfl (fun line => by rw [Text.isAllBlank_dropReturn]) output

theorem derivation?_eq_some {output derivation : List Char} :
    derivation? output = some derivation ↔ IsDerivation output derivation := by
  rw [derivation?_eq, Option.map_eq_some_iff]
  constructor
  · rintro ⟨line, hfind, htrim⟩
    obtain ⟨hline, after, before, hsplit, hafter⟩ := List.find?_eq_some_iff_append.1 hfind
    have hfields : Text.fields '\n' output = before.reverse ++ line :: after.reverse := by
      have hreverse := congrArg List.reverse hsplit
      simpa using hreverse
    refine ⟨before.reverse, line, after.reverse, hfields, by simpa using hline, ?_,
      Text.trim_eq_iff.1 htrim⟩
    intro l hl
    simpa using hafter l (List.mem_reverse.1 hl)
  · rintro ⟨before, line, after, hfields, hline, hafter, htrim⟩
    refine ⟨line, List.find?_eq_some_iff_append.2 ⟨by simpa using hline, after.reverse,
      before.reverse, ?_, ?_⟩, Text.trim_eq_iff.2 htrim⟩
    · simp [hfields]
    · intro l hl
      simpa using hafter l (List.mem_reverse.1 hl)

theorem derivation?_eq_none {output : List Char} :
    derivation? output = none ↔ ∀ line ∈ Text.fields '\n' output, Text.isAllBlank line = true := by
  rw [derivation?_eq, Option.map_eq_none_iff, List.find?_eq_none]
  simp

/-- A derivation stands on one line, is not empty and has no blank at its ends. -/
theorem properties_of_isDerivation {output derivation : List Char}
    (h : IsDerivation output derivation) :
    derivation ≠ [] ∧ '\n' ∉ derivation ∧
      (∀ c, derivation.head? = some c → Text.isBlank c = false) ∧
      ∀ c, derivation.getLast? = some c → Text.isBlank c = false := by
  obtain ⟨before, line, after, hfields, hline, _, htrim⟩ := h
  have hnonempty : derivation ≠ [] := by
    rw [← Text.trim_of_isTrimmed htrim]
    exact Text.trim_ne_nil hline
  obtain ⟨start, stop, hsplit, _, _, hhead, hlast⟩ := htrim
  refine ⟨hnonempty, ?_, hhead, hlast⟩
  have hmem : line ∈ Text.fields '\n' output := by
    rw [hfields]
    exact List.mem_append_right before List.mem_cons_self
  intro hnewline
  apply Text.not_mem_of_mem_fields hmem
  rw [hsplit]
  exact List.mem_append_left stop (List.mem_append_right start hnewline)

/-! ## Writing the expression -/

variable {r : Resolver} {d : Descriptor} {m : Machine} {text : String} {files : FileTree}

theorem writeExpression_of_stores (hrender : r.render d = .ok text)
    (h : m.Stores r.shellsDirectory (r.expressionPath d) text files) :
    r.writeExpression d m = .ok (r.expressionPath d) { m with files := files } := by
  obtain ⟨between, hmake, hwrite⟩ := h
  have hanswer : Machine.answer (r.render d) m = .ok text m := by rw [hrender]; rfl
  have hmade : Machine.explain ResolveError.system (Machine.makeDirectories r.shellsDirectory) m
      = .ok () { m with files := between } :=
    Machine.explain_of_ok (Machine.makeDirectories_of_none hmake)
  have hwritten : Machine.explain ResolveError.system
      (Machine.writeText (r.expressionPath d) text) { m with files := between }
      = .ok () { m with files := files } :=
    Machine.explain_of_ok (Machine.writeText_of_ok hwrite)
  unfold writeExpression
  rw [Machine.Action.bind_of_ok hanswer, Machine.Action.bind_of_ok hmade,
    Machine.Action.bind_of_ok hwritten]
  rfl

theorem writeExpression_of_storeFails {fault : Fault} (hrender : r.render d = .ok text)
    (h : m.StoreFails r.shellsDirectory (r.expressionPath d) text fault files) :
    r.writeExpression d m = .error (.system fault) { m with files := files } := by
  have hanswer : Machine.answer (r.render d) m = .ok text m := by rw [hrender]; rfl
  unfold writeExpression
  rw [Machine.Action.bind_of_ok hanswer]
  cases h with
  | directory hmake =>
    have hfailed : Machine.explain ResolveError.system
        (Machine.makeDirectories r.shellsDirectory) m
        = .error (.system fault) { m with files := files } :=
      Machine.explain_of_error (Machine.makeDirectories_of_some hmake)
    rw [Machine.Action.bind_of_error hfailed]
  | file hmake hwrite =>
    have hmade : Machine.explain ResolveError.system (Machine.makeDirectories r.shellsDirectory) m
        = .ok () { m with files := files } :=
      Machine.explain_of_ok (Machine.makeDirectories_of_none hmake)
    have hfailed : Machine.explain ResolveError.system
        (Machine.writeText (r.expressionPath d) text) { m with files := files }
        = .error (.system fault) { m with files := files } :=
      Machine.explain_of_error (Machine.writeText_of_error hwrite)
    rw [Machine.Action.bind_of_ok hmade, Machine.Action.bind_of_error hfailed]

theorem writeExpression_of_render_error {e : ResolveError} (hrender : r.render d = .error e) :
    r.writeExpression d m = .error e m := by
  have hanswer : Machine.answer (r.render d) m = .error e m := by rw [hrender]; rfl
  unfold writeExpression
  rw [Machine.Action.bind_of_error hanswer]

theorem resolve_of_render_error {e : ResolveError} (hrender : r.render d = .error e) :
    r.resolve d m = .error e m := by
  unfold resolve
  rw [Machine.Action.bind_of_error (writeExpression_of_render_error hrender)]

theorem exists_render (r : Resolver)
    (hnames : ∀ x ∈ d.nativeBuildInputs ++ d.buildInputs, isIdentifier x.name = true) :
    ∃ text, r.render d = .ok text :=
  exists_render_of_names hnames r.nixpkgs r.host

/-! ## Starting programs -/

theorem start_of_refused {program : String} {arguments : List String} {fault : Fault}
    (h : m.launch program arguments = .refused fault) :
    start program arguments m = .error (startError program fault) m := by
  have hstart : Machine.start program arguments m = .error fault m := by
    unfold Machine.start
    rw [h]
  exact Machine.explain_of_error hstart

theorem start_of_ran {program : String} {arguments : List String} {ending : Machine.Ending}
    (h : m.launch program arguments = .ran ending) :
    start program arguments m =
      .ok ending { m with started := m.started ++ [⟨program, arguments⟩] } := by
  have hstart : Machine.start program arguments m =
      .ok ending { m with started := m.started ++ [⟨program, arguments⟩] } := by
    unfold Machine.start
    rw [h]
  exact Machine.explain_of_ok hstart

theorem startError_of_ne {program : String} {fault : Fault} (h : fault ≠ .notFound) :
    startError program fault = .system fault := by
  cases fault with
  | notFound => exact absurd rfl h
  | _ => rfl

/-! ## Resolutions -/

/-- The machine after the program for instantiating was started on the stored expression. -/
def afterStart (r : Resolver) (d : Descriptor) (m : Machine) (files : FileTree) : Machine :=
  { m with
    files := files
    started := m.started ++ [⟨r.instantiateProgram, [r.expressionPath d]⟩] }

/-- The ways in which the resolution of a descriptor with an expression can go. -/
inductive Resolves (r : Resolver) (d : Descriptor) (text : String) (m : Machine) :
    EStateM.Result ResolveError Machine Handle → Prop where
  /-- The expression cannot be stored, and no program is started. -/
  | unstored {fault : Fault} {files : FileTree}
      (hfails : m.StoreFails r.shellsDirectory (r.expressionPath d) text fault files) :
      Resolves r d text m (.error (.system fault) { m with files := files })
  /-- The program is not there. -/
  | missing {files : FileTree}
      (hstores : m.Stores r.shellsDirectory (r.expressionPath d) text files)
      (hlaunch : m.launch r.instantiateProgram [r.expressionPath d] = .refused .notFound) :
      Resolves r d text m (.error (.unavailable r.instantiateProgram) { m with files := files })
  /-- The program cannot be started although it is there. -/
  | refused {fault : Fault} {files : FileTree}
      (hstores : m.Stores r.shellsDirectory (r.expressionPath d) text files)
      (hlaunch : m.launch r.instantiateProgram [r.expressionPath d] = .refused fault)
      (hfault : fault ≠ .notFound) :
      Resolves r d text m (.error (.system fault) { m with files := files })
  /-- The program ends with another exit code than zero, or with none. -/
  | failed {files : FileTree} {ending : Machine.Ending}
      (hstores : m.Stores r.shellsDirectory (r.expressionPath d) text files)
      (hlaunch : m.launch r.instantiateProgram [r.expressionPath d] = .ran ending)
      (hcode : ending.code ≠ some 0) :
      Resolves r d text m
        (.error (diagnose (Text.decodeLossy ending.errors) d.target.triple d.packageNames)
          (r.afterStart d m files))
  /-- The program succeeds and says nothing. -/
  | silent {files : FileTree} {ending : Machine.Ending}
      (hstores : m.Stores r.shellsDirectory (r.expressionPath d) text files)
      (hlaunch : m.launch r.instantiateProgram [r.expressionPath d] = .ran ending)
      (hcode : ending.code = some 0)
      (hblank : ∀ line ∈ Text.fields '\n' (Text.decodeLossy ending.output).toList,
        Text.isAllBlank line = true) :
      Resolves r d text m
        (.error (.buildFailure (r.instantiateProgram ++ " produced no derivation path"))
          (r.afterStart d m files))
  /-- The program succeeds and names a derivation. -/
  | resolved {files : FileTree} {ending : Machine.Ending} {derivation : List Char}
      (hstores : m.Stores r.shellsDirectory (r.expressionPath d) text files)
      (hlaunch : m.launch r.instantiateProgram [r.expressionPath d] = .ran ending)
      (hcode : ending.code = some 0)
      (hderivation : IsDerivation (Text.decodeLossy ending.output).toList derivation) :
      Resolves r d text m
        (.ok ⟨d.digest, d.target, .nix (r.expressionPath d) (String.ofList derivation)⟩
          (r.afterStart d m files))

theorem resolve_of_refused {fault : Fault} (hrender : r.render d = .ok text)
    (hstores : m.Stores r.shellsDirectory (r.expressionPath d) text files)
    (hlaunch : m.launch r.instantiateProgram [r.expressionPath d] = .refused fault) :
    r.resolve d m = .error (startError r.instantiateProgram fault) { m with files := files } := by
  have hwritten := writeExpression_of_stores hrender hstores
  have hstart : start r.instantiateProgram [r.expressionPath d] { m with files := files }
      = .error (startError r.instantiateProgram fault) { m with files := files } :=
    start_of_refused hlaunch
  unfold resolve
  rw [Machine.Action.bind_of_ok hwritten, Machine.Action.bind_of_error hstart]

theorem resolve_of_ran {ending : Machine.Ending} (hrender : r.render d = .ok text)
    (hstores : m.Stores r.shellsDirectory (r.expressionPath d) text files)
    (hlaunch : m.launch r.instantiateProgram [r.expressionPath d] = .ran ending) :
    r.resolve d m =
      Machine.answer (r.conclude d (r.expressionPath d) ending) (r.afterStart d m files) := by
  have hwritten := writeExpression_of_stores hrender hstores
  have hstart : start r.instantiateProgram [r.expressionPath d] { m with files := files }
      = .ok ending (r.afterStart d m files) :=
    start_of_ran hlaunch
  unfold resolve
  rw [Machine.Action.bind_of_ok hwritten, Machine.Action.bind_of_ok hstart]

theorem resolve_of_resolves {result : EStateM.Result ResolveError Machine Handle}
    (hrender : r.render d = .ok text) (h : Resolves r d text m result) :
    r.resolve d m = result := by
  cases h with
  | unstored hfails =>
    unfold resolve
    rw [Machine.Action.bind_of_error (writeExpression_of_storeFails hrender hfails)]
  | missing hstores hlaunch => exact resolve_of_refused hrender hstores hlaunch
  | refused hstores hlaunch hfault =>
    rw [resolve_of_refused hrender hstores hlaunch, startError_of_ne hfault]
  | failed hstores hlaunch hcode =>
    rw [resolve_of_ran hrender hstores hlaunch, conclude, if_pos hcode]
    rfl
  | silent hstores hlaunch hcode hblank =>
    rw [resolve_of_ran hrender hstores hlaunch, conclude, if_neg (not_not_intro hcode),
      derivation?_eq_none.2 hblank]
    rfl
  | resolved hstores hlaunch hcode hderivation =>
    rw [resolve_of_ran hrender hstores hlaunch, conclude, if_neg (not_not_intro hcode),
      derivation?_eq_some.2 hderivation]
    rfl

theorem exists_resolves (r : Resolver) (d : Descriptor) (text : String) (m : Machine) :
    ∃ result, Resolves r d text m result := by
  obtain ⟨files, hstores⟩ | ⟨fault, files, hfails⟩ :=
    m.stores_or_storeFails r.shellsDirectory (r.expressionPath d) text
  case inr => exact ⟨_, .unstored hfails⟩
  cases hlaunch : m.launch r.instantiateProgram [r.expressionPath d] with
  | refused fault =>
    by_cases hfault : fault = .notFound
    · subst hfault
      exact ⟨_, .missing hstores hlaunch⟩
    · exact ⟨_, .refused hstores hlaunch hfault⟩
  | ran ending =>
    by_cases hcode : ending.code = some 0
    · cases hderivation : derivation? (Text.decodeLossy ending.output).toList with
      | none => exact ⟨_, .silent hstores hlaunch hcode (derivation?_eq_none.1 hderivation)⟩
      | some derivation =>
        exact ⟨_, .resolved hstores hlaunch hcode (derivation?_eq_some.1 hderivation)⟩
    · exact ⟨_, .failed hstores hlaunch hcode⟩

/-- A resolution goes in exactly one of the ways. -/
theorem resolve_eq_iff (hrender : r.render d = .ok text)
    {result : EStateM.Result ResolveError Machine Handle} :
    r.resolve d m = result ↔ Resolves r d text m result := by
  refine ⟨?_, resolve_of_resolves hrender⟩
  rintro rfl
  obtain ⟨result, h⟩ := exists_resolves r d text m
  rw [resolve_of_resolves hrender h]
  exact h

/-- A handle is on the descriptor that was resolved. -/
theorem digest_of_resolve {handle : Handle} {m' : Machine} (h : r.resolve d m = .ok handle m') :
    handle.digest = d.digest := by
  cases hrender : r.render d with
  | error e =>
    rw [resolve_of_render_error hrender] at h
    cases h
  | ok text =>
    cases (resolve_eq_iff hrender).1 h with
    | resolved _ _ _ _ => rfl

/-- A resolution succeeds exactly if the expression is stored and the program, started with its
path, succeeds and writes a line that is not blank. -/
theorem exists_resolve_eq_ok_iff (hrender : r.render d = .ok text) :
    (∃ handle m', r.resolve d m = .ok handle m') ↔
      ∃ files ending line, m.Stores r.shellsDirectory (r.expressionPath d) text files ∧
        m.launch r.instantiateProgram [r.expressionPath d] = .ran ending ∧
        ending.code = some 0 ∧ line ∈ Text.fields '\n' (Text.decodeLossy ending.output).toList ∧
        Text.isAllBlank line = false := by
  constructor
  · rintro ⟨handle, m', h⟩
    cases (resolve_eq_iff hrender).1 h with
    | @resolved files ending derivation hstores hlaunch hcode hderivation =>
      obtain ⟨before, line, after, hfields, hline, _⟩ := hderivation
      refine ⟨files, ending, line, hstores, hlaunch, hcode, ?_, hline⟩
      rw [hfields]
      exact List.mem_append_right before List.mem_cons_self
  · rintro ⟨files, ending, line, hstores, hlaunch, hcode, hmem, hline⟩
    cases hderivation : derivation? (Text.decodeLossy ending.output).toList with
    | none =>
      have hblank := derivation?_eq_none.1 hderivation line hmem
      rw [hline] at hblank
      cases hblank
    | some derivation =>
      exact ⟨_, _, resolve_of_resolves hrender
        (.resolved hstores hlaunch hcode (derivation?_eq_some.1 hderivation))⟩

/-- What a resolution of a descriptor whose names are identifiers comes to, on any machine and for
any behaviour of the program. -/
theorem resolve_exact (r : Resolver) (d : Descriptor) (m : Machine)
    (hnames : ∀ x ∈ d.nativeBuildInputs ++ d.buildInputs, isIdentifier x.name = true) :
    ∃ text, r.render d = .ok text ∧
      (∀ result, r.resolve d m = result ↔ Resolves r d text m result) ∧
      ((∃ handle m', r.resolve d m = .ok handle m') ↔
        ∃ files ending line, m.Stores r.shellsDirectory (r.expressionPath d) text files ∧
          m.launch r.instantiateProgram [r.expressionPath d] = .ran ending ∧
          ending.code = some 0 ∧ line ∈ Text.fields '\n' (Text.decodeLossy ending.output).toList ∧
          Text.isAllBlank line = false) ∧
      ∀ handle m', r.resolve d m = .ok handle m' →
        handle.digest = d.digest ∧ handle.target = d.target ∧
        m'.content (r.expressionPath d) = .ok (Text.encode text) ∧
        ∃ ending derivation, m.launch r.instantiateProgram [r.expressionPath d] = .ran ending ∧
          handle.realization = .nix (r.expressionPath d) (String.ofList derivation) ∧
          IsDerivation (Text.decodeLossy ending.output).toList derivation ∧
          derivation ≠ [] ∧ '\n' ∉ derivation ∧
          (∀ c, derivation.head? = some c → Text.isBlank c = false) ∧
          ∀ c, derivation.getLast? = some c → Text.isBlank c = false := by
  obtain ⟨text, hrender⟩ := exists_render r hnames
  refine ⟨text, hrender, fun result => resolve_eq_iff hrender, exists_resolve_eq_ok_iff hrender, ?_⟩
  intro handle m' h
  cases (resolve_eq_iff hrender).1 h with
  | @resolved files ending derivation hstores hlaunch hcode hderivation =>
    have hcontent :
        (r.afterStart d m files).content (r.expressionPath d) = .ok (Text.encode text) :=
      hstores.content
    exact ⟨rfl, rfl, hcontent, ending, derivation, hlaunch, rfl, hderivation,
      properties_of_isDerivation hderivation⟩

/-- A machine whose program for instantiating names a derivation between blanks. -/
def instantiating : Machine :=
  { Machine.ofFiles FileTree.empty with
    programs := fun _ _ =>
      .ran ⟨some 0, Text.encode "copying\n /nix/store/shell.drv \r\n\n", ByteArray.empty⟩ }

/-- A resolver for trying things out. -/
def plainResolver : Resolver :=
  ⟨"<nixpkgs>", "nix-instantiate", "nix-shell", "shells", none⟩

/-- A descriptor for trying things out. -/
def gccDescriptor : Descriptor :=
  ⟨Target.aarch64Linux, [⟨"gcc", .nativeBuildInput⟩], [], SortedMap.empty⟩

theorem resolve_exact_instantiating :
    ∃ text handle m', plainResolver.render gccDescriptor = .ok text ∧
      plainResolver.resolve gccDescriptor instantiating = .ok handle m' ∧
      handle.digest = gccDescriptor.digest ∧
      m'.content (plainResolver.expressionPath gccDescriptor) = .ok (Text.encode text) := by
  have hnames : ∀ x ∈ gccDescriptor.nativeBuildInputs ++ gccDescriptor.buildInputs,
      isIdentifier x.name = true := by decide
  obtain ⟨text, hrender, _, _, hhandle⟩ :=
    resolve_exact plainResolver gccDescriptor instantiating hnames
  cases hresolve : plainResolver.resolve gccDescriptor instantiating with
  | error e m' =>
    have hsucceeds : (match plainResolver.resolve gccDescriptor instantiating with
      | .ok _ _ => true
      | .error _ _ => false) = true := by decide +kernel
    rw [hresolve] at hsucceeds
    cases hsucceeds
  | ok handle m' =>
    obtain ⟨hdigest, _, hcontent, _⟩ := hhandle handle m' hresolve
    exact ⟨text, handle, m', hrender, rfl, hdigest, hcontent⟩

end Resolver

end CrossShell.Nix
