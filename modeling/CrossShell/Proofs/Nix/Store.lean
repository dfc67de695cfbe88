import CrossShell.Nix.Resolver
import CrossShell.Proofs.Digest
import CrossShell.Proofs.Machine.Stored
import CrossShell.Proofs.Nix.Key

/-!
Shell expressions on file stay what they are.

Resolvers that share a directory keep each expression in a file that the digest of its key names. A
call makes directories, which only adds to the files, and writes one file. Calls of one key write
one text, so that a file once written keeps its content under every later call, whatever package
set, host and descriptor that call is about. The one assumption is that the digest tells the keys of
the calls apart.
-/

set_option autoImplicit false

namespace CrossShell

namespace Nix.Resolver

open Machine (FileTree Route)

variable {r : Resolver} {d : Descriptor} {m m' : Machine}

/-! ## Names of files -/

/-- The name of the file of a descriptor's shell expression. -/
def fileName (r : Resolver) (d : Descriptor) : String :=
  (expressionDigest d r.nixpkgs r.host).text ++ ".nix"

theorem toList_fileName (r : Resolver) (d : Descriptor) :
    (r.fileName d).toList
      = (expressionDigest d r.nixpkgs r.host).text.toList ++ ['.', 'n', 'i', 'x'] := by
  have hsuffix : ".nix".toList = ['.', 'n', 'i', 'x'] := by decide
  rw [fileName, String.toList_append, hsuffix]

theorem slash_not_mem_fileName (r : Resolver) (d : Descriptor) :
    '/' ∉ (r.fileName d).toList := by
  rw [toList_fileName]
  intro hmem
  cases List.mem_append.1 hmem with
  | inl hdigest => exact absurd (Digest.mem_digits_of_mem_ofText hdigest) (by decide)
  | inr hsuffix => exact absurd hsuffix (by decide)

theorem endsIn_expressionPath (r : Resolver) (d : Descriptor) :
    (Route.ofText (r.expressionPath d)).EndsIn (r.fileName d) := by
  apply Route.endsIn_join _ (slash_not_mem_fileName r d)
  rw [toList_fileName, List.length_append, List.length_cons, List.length_cons, List.length_cons]
  omega

theorem expressionDigest_of_fileName {r r' : Resolver} {d d' : Descriptor}
    (h : r.fileName d = r'.fileName d') :
    expressionDigest d r.nixpkgs r.host = expressionDigest d' r'.nixpkgs r'.host := by
  have htext := congrArg String.toList h
  rw [toList_fileName, toList_fileName] at htext
  have hdigits := String.toList_inj.1 (List.append_cancel_right htext)
  cases hd : expressionDigest d r.nixpkgs r.host with
  | mk digits =>
    cases hd' : expressionDigest d' r'.nixpkgs r'.host with
    | mk digits' =>
      rw [hd, hd'] at hdigits
      exact congrArg Digest.mk hdigits

theorem fileName_of_expressionPath {r r' : Resolver} {d d' : Descriptor}
    (hdirectory : r.shellsDirectory = r'.shellsDirectory)
    (h : r.expressionPath d = r'.expressionPath d') : r.fileName d = r'.fileName d' := by
  have hjoin : Machine.join r.shellsDirectory (r.fileName d)
      = Machine.join r.shellsDirectory (r'.fileName d') := by
    rw [show Machine.join r.shellsDirectory (r.fileName d) = r.expressionPath d from rfl, h,
      hdirectory]
    rfl
  exact Machine.join_injective (slash_not_mem_fileName r d) (slash_not_mem_fileName r' d') hjoin

/-! ## What writing an expression does -/

/-- An expression that was written is on file, in place of what a tree with more directories had
there. -/
theorem writeExpression_ok {path : String} (h : r.writeExpression d m = .ok path m') :
    path = r.expressionPath d ∧ ∃ text files, r.render d = .ok text ∧
      FileTree.Grows m.files files ∧
      files.write m.directory (Route.ofText (r.expressionPath d)) (Text.encode text)
        = .ok m'.files ∧
      m'.directory = m.directory := by
  obtain ⟨text, m₁, hanswer, hrest⟩ := Machine.Action.bind_eq_ok h
  obtain ⟨hrender, rfl⟩ := Machine.answer_eq_ok hanswer
  obtain ⟨_, m₂, hmade, hrest⟩ := Machine.Action.bind_eq_ok hrest
  obtain ⟨files, hmake, rfl⟩ := Machine.makeDirectories_eq_ok (Machine.explain_eq_ok hmade)
  obtain ⟨_, m₃, hwritten, hrest⟩ := Machine.Action.bind_eq_ok hrest
  obtain ⟨files', hwrite, rfl⟩ := Machine.writeText_eq_ok (Machine.explain_eq_ok hwritten)
  obtain ⟨rfl, rfl⟩ := EStateM.Result.ok.inj hrest
  have hgrows := (FileTree.makeDirectories_adds hmake).grows
  exact ⟨rfl, text, files, hrender, hgrows, hwrite, rfl⟩

/-- An attempt to write an expression that fails has made directories at most. -/
theorem writeExpression_error {e : ResolveError} (h : r.writeExpression d m = .error e m') :
    FileTree.Grows m.files m'.files ∧ m'.directory = m.directory := by
  obtain hanswer | ⟨text, m₁, hanswer, hrest⟩ := Machine.Action.bind_eq_error h
  · obtain ⟨_, rfl⟩ := Machine.answer_eq_error hanswer
    exact ⟨FileTree.Grows.refl _, rfl⟩
  obtain ⟨_, rfl⟩ := Machine.answer_eq_ok hanswer
  obtain hfailed | ⟨_, m₂, hmade, hrest⟩ := Machine.Action.bind_eq_error hrest
  · obtain ⟨fault, hfailed, _⟩ := Machine.explain_eq_error hfailed
    obtain ⟨files, hmake, rfl⟩ := Machine.makeDirectories_eq_error hfailed
    exact ⟨(FileTree.makeDirectories_adds hmake).grows, rfl⟩
  obtain ⟨files, hmake, rfl⟩ := Machine.makeDirectories_eq_ok (Machine.explain_eq_ok hmade)
  have hgrows := (FileTree.makeDirectories_adds hmake).grows
  obtain hfailed | ⟨_, m₃, _, hrest⟩ := Machine.Action.bind_eq_error hrest
  · obtain ⟨fault, hfailed, _⟩ := Machine.explain_eq_error hfailed
    obtain ⟨_, rfl⟩ := Machine.writeText_eq_error hfailed
    exact ⟨hgrows, rfl⟩
  · cases hrest

/-- Resolving a descriptor leaves the files as writing its expression does. -/
theorem after_resolve (r : Resolver) (d : Descriptor) (m : Machine) :
    (Machine.after (r.resolve d) m).files = (Machine.after (r.writeExpression d) m).files ∧
      (Machine.after (r.resolve d) m).directory
        = (Machine.after (r.writeExpression d) m).directory := by
  cases hw : r.writeExpression d m with
  | error e m₁ =>
    have hresolve : r.resolve d m = .error e m₁ := by
      unfold resolve
      simp only [bind, EStateM.bind, hw]
    rw [Machine.after_of_error hresolve, Machine.after_of_error hw]
    exact ⟨rfl, rfl⟩
  | ok path m₁ =>
    have hstarted := Machine.after_start r.instantiateProgram [path] m₁
    rw [Machine.after_of_ok hw]
    cases hs : Machine.start r.instantiateProgram [path] m₁ with
    | error fault m₂ =>
      have hresolve : r.resolve d m = .error (startError r.instantiateProgram fault) m₂ := by
        unfold resolve start
        simp only [bind, EStateM.bind, hw, Machine.explain, hs]
      rw [Machine.after_of_error hs] at hstarted
      rw [Machine.after_of_error hresolve]
      exact hstarted
    | ok ending m₂ =>
      have hresolve : r.resolve d m = Machine.answer (r.conclude d path ending) m₂ := by
        unfold resolve start
        simp only [bind, EStateM.bind, hw, Machine.explain, hs]
      rw [Machine.after_of_ok hs] at hstarted
      have hafter : Machine.after (r.resolve d) m = m₂ := by
        unfold Machine.after
        rw [hresolve]
        cases r.conclude d path ending with
        | ok handle => rfl
        | error e => rfl
      rw [hafter]
      exact hstarted

end Nix.Resolver

namespace Nix

open Machine (FileTree Route)

/-! ## Calls -/

/-- A call of a resolver about a descriptor. -/
structure Call where
  resolver : Resolver
  descriptor : Descriptor
  /-- Whether the expression is instantiated once it is written. -/
  instantiates : Bool

namespace Call

variable {c c' : Call} {m m' : Machine} {directory text text' : String}

/-- The file that a call is about. -/
def path (c : Call) : String :=
  c.resolver.expressionPath c.descriptor

/-- The expression that a call is about. -/
def render (c : Call) : Except ResolveError String :=
  c.resolver.render c.descriptor

/-- The text that the digest of a call is taken of. -/
def key (c : Call) : String :=
  (expressionKey c.descriptor c.resolver.nixpkgs c.resolver.host).compact

def perform (c : Call) (m : Machine) : Machine :=
  if c.instantiates then Machine.after (c.resolver.resolve c.descriptor) m
  else Machine.after (c.resolver.writeExpression c.descriptor) m

/-- Whether a call writes its expression. -/
def writes (c : Call) (m : Machine) : Bool :=
  match c.resolver.writeExpression c.descriptor m with
  | .ok _ _ => true
  | .error _ _ => false

theorem perform_eq (c : Call) (m : Machine) :
    (c.perform m).files = (Machine.after (c.resolver.writeExpression c.descriptor) m).files ∧
      (c.perform m).directory
        = (Machine.after (c.resolver.writeExpression c.descriptor) m).directory := by
  unfold perform
  split
  · exact c.resolver.after_resolve c.descriptor m
  · exact ⟨rfl, rfl⟩

/-- All that a call does to files. -/
theorem perform_cases (c : Call) (m : Machine) :
    (c.perform m).directory = m.directory ∧
      ((c.writes m = true ∧ ∃ text files, c.render = .ok text ∧ FileTree.Grows m.files files ∧
          files.write m.directory (Route.ofText c.path) (Text.encode text)
            = .ok (c.perform m).files) ∨
        (c.writes m = false ∧ FileTree.Grows m.files (c.perform m).files)) := by
  obtain ⟨hfiles, hdirectory⟩ := c.perform_eq m
  unfold writes
  cases hw : c.resolver.writeExpression c.descriptor m with
  | ok path m₁ =>
    rw [Machine.after_of_ok hw] at hfiles hdirectory
    obtain ⟨_, text, files, hrender, hgrows, hwrite, hsame⟩ := Resolver.writeExpression_ok hw
    refine ⟨hdirectory.trans hsame, Or.inl ⟨rfl, text, files, hrender, hgrows, ?_⟩⟩
    rw [hfiles]
    exact hwrite
  | error e m₁ =>
    rw [Machine.after_of_error hw] at hfiles hdirectory
    obtain ⟨hgrows, hsame⟩ := Resolver.writeExpression_error hw
    refine ⟨hdirectory.trans hsame, Or.inr ⟨rfl, ?_⟩⟩
    rw [hfiles]
    exact hgrows

theorem content_perform_of_writes (h : c.writes m = true) :
    ∃ text, c.render = .ok text ∧ (c.perform m).content c.path = .ok (Text.encode text) := by
  obtain ⟨hdirectory, ⟨_, text, files, hrender, _, hwrite⟩ | ⟨hfails, _⟩⟩ := c.perform_cases m
  · refine ⟨text, hrender, ?_⟩
    unfold Machine.content
    rw [hdirectory]
    exact FileTree.read_write hwrite
  · rw [h] at hfails
    cases hfails

/-- A call leaves a file as it is, unless it is about the same file and another expression. -/
theorem content_perform (hdirectory : c'.resolver.shellsDirectory = c.resolver.shellsDirectory)
    (hagree : ∀ text', c'.path = c.path → c.render = .ok text' → text = text')
    (h : m.content c'.path = .ok (Text.encode text)) :
    (c.perform m).content c'.path = .ok (Text.encode text) := by
  unfold Machine.content at h ⊢
  obtain ⟨hsame, ⟨_, written, files, hwritten, hgrows, hwrite⟩ | ⟨_, hgrows⟩⟩ := c.perform_cases m
  · rw [hsame]
    have hkept := FileTree.read_of_grows hgrows h
    by_cases hpath : c'.path = c.path
    · rw [hpath, hagree written hpath hwritten]
      exact FileTree.read_write hwrite
    · have hname : c'.resolver.fileName c'.descriptor ≠ c.resolver.fileName c.descriptor := by
        intro heq
        apply hpath
        show Machine.join c'.resolver.shellsDirectory (c'.resolver.fileName c'.descriptor) = _
        rw [heq, hdirectory]
        rfl
      exact FileTree.read_write_of_ne (c.resolver.endsIn_expressionPath c.descriptor)
        (c'.resolver.endsIn_expressionPath c'.descriptor) hname hwrite hkept
  · rw [hsame]
    exact FileTree.read_of_grows hgrows h

end Call

/-! ## Runs -/

/-- The digest tells the keys of the calls apart that have an expression. -/
def Collisionless (calls : List Call) : Prop :=
  ∀ c ∈ calls, ∀ c' ∈ calls, c.render.isOk = true → c'.render.isOk = true →
    Digest.ofText c.key = Digest.ofText c'.key → c.key = c'.key

/-- What calls about one directory come to: the calls that were made, the latest one first, those of
them that wrote their expression, and the machine. Between calls the machine may change in any way
that leaves the files of the directory as they are. -/
inductive Run (directory : String) (start : Machine) : List Call → List Call → Machine → Prop where
  | begin : Run directory start [] [] start
  | call {calls written : List Call} {m : Machine} (run : Run directory start calls written m)
      (c : Call) (hdirectory : c.resolver.shellsDirectory = directory) :
      Run directory start (c :: calls) (if c.writes m then c :: written else written) (c.perform m)
  | elsewhere {calls written : List Call} {m m' : Machine}
      (run : Run directory start calls written m)
      (hquiet : ∀ name : String, '/' ∉ name.toList →
        m'.content (Machine.join directory name) = m.content (Machine.join directory name)) :
      Run directory start calls written m'

/-- Every call's file holds the call's expression. -/
def OnFile (written : List Call) (m : Machine) : Prop :=
  ∀ c ∈ written, ∃ text, c.render = .ok text ∧ m.content c.path = .ok (Text.encode text)

variable {directory : String} {start m : Machine} {calls written : List Call}

theorem Collisionless.of_cons {c : Call} (h : Collisionless (c :: calls)) : Collisionless calls :=
  fun a ha b hb => h a (List.mem_cons_of_mem c ha) b (List.mem_cons_of_mem c hb)

/-- Calls about one file are about one expression. -/
theorem Collisionless.render_eq (h : Collisionless calls) {c c' : Call} (hc : c ∈ calls)
    (hc' : c' ∈ calls) (hdirectory : c.resolver.shellsDirectory = c'.resolver.shellsDirectory)
    (hpath : c.path = c'.path) {text text' : String} (hrender : c.render = .ok text)
    (hrender' : c'.render = .ok text') : text = text' := by
  have hdigest : Digest.ofText c.key = Digest.ofText c'.key :=
    Resolver.expressionDigest_of_fileName (Resolver.fileName_of_expressionPath hdirectory hpath)
  have hkey : c.key = c'.key :=
    h c hc c' hc' (by rw [hrender]; rfl) (by rw [hrender']; rfl) hdigest
  have hsame : c.render = c'.render := render_eq_of_expressionKey hkey
  rw [hrender, hrender'] at hsame
  injection hsame

namespace Run

theorem directory_of_mem (run : Run directory start calls written m) :
    ∀ c ∈ calls, c.resolver.shellsDirectory = directory := by
  induction run with
  | begin => intro c hc; cases hc
  | call run c hdirectory ih =>
    intro c' hc'
    cases hc' with
    | head => exact hdirectory
    | tail _ hc' => exact ih c' hc'
  | elsewhere run hquiet ih => exact ih

theorem mem_of_mem_written (run : Run directory start calls written m) :
    ∀ c ∈ written, c ∈ calls := by
  induction run with
  | begin => intro c hc; cases hc
  | @call calls written m run c hdirectory ih =>
    intro c' hc'
    by_cases hw : c.writes m = true
    · rw [if_pos hw] at hc'
      cases hc' with
      | head => exact List.mem_cons_self
      | tail _ hc' => exact List.mem_cons_of_mem c (ih c' hc')
    · rw [if_neg hw] at hc'
      exact List.mem_cons_of_mem c (ih c' hc')
  | elsewhere run hquiet ih => exact ih

end Run

/-- One call keeps every expression on file that was there, and adds its own if it writes it. -/
theorem OnFile.perform (hkept : OnFile written m) (c : Call)
    (hdirectory : ∀ c' ∈ written, c'.resolver.shellsDirectory = c.resolver.shellsDirectory)
    (hagree : ∀ c' ∈ written, ∀ text text', c'.path = c.path → c'.render = .ok text →
      c.render = .ok text' → text = text') :
    OnFile (if c.writes m then c :: written else written) (c.perform m) := by
  have hold : OnFile written (c.perform m) := by
    intro c' hc'
    obtain ⟨text, hrender, hcontent⟩ := hkept c' hc'
    refine ⟨text, hrender, Call.content_perform (hdirectory c' hc') ?_ hcontent⟩
    intro text' hpath hrender'
    exact hagree c' hc' text text' hpath hrender hrender'
  by_cases hw : c.writes m = true
  · rw [if_pos hw]
    intro c' hc'
    cases hc' with
    | head => exact Call.content_perform_of_writes hw
    | tail _ hc' => exact hold c' hc'
  · rw [if_neg hw]
    exact hold

/-- A call about the same directory that comes after a run keeps what is on file. -/
theorem Run.onFile_call (run : Run directory start calls written m) (hkept : OnFile written m)
    (c : Call) (hdirectory : c.resolver.shellsDirectory = directory)
    (hdistinct : Collisionless (c :: calls)) :
    OnFile (if c.writes m then c :: written else written) (c.perform m) := by
  have hshared : ∀ c' ∈ written, c'.resolver.shellsDirectory = c.resolver.shellsDirectory := by
    intro c' hc'
    rw [hdirectory]
    exact run.directory_of_mem c' (run.mem_of_mem_written c' hc')
  refine hkept.perform c hshared ?_
  intro c' hc' text text' hpath hrender hrender'
  have hmem : c' ∈ c :: calls := List.mem_cons_of_mem c (run.mem_of_mem_written c' hc')
  exact hdistinct.render_eq hmem List.mem_cons_self (hshared c' hc') hpath hrender hrender'

/-- At every point of a run every expression that was written is on file. -/
theorem Run.onFile (run : Run directory start calls written m) (hdistinct : Collisionless calls) :
    OnFile written m := by
  induction run with
  | begin => intro c hc; cases hc
  | call run c hdirectory ih => exact run.onFile_call (ih hdistinct.of_cons) c hdirectory hdistinct
  | elsewhere run hquiet ih =>
    intro c hc
    obtain ⟨text, hrender, hcontent⟩ := ih hdistinct c hc
    have hdirectory := run.directory_of_mem c (run.mem_of_mem_written c hc)
    have hunchanged := hquiet _ (c.resolver.slash_not_mem_fileName c.descriptor)
    rw [← hdirectory] at hunchanged
    exact ⟨text, hrender, hunchanged.trans hcontent⟩

/-- The files of a directory of expressions are told apart by what they hold: at every point of a
run each file that a call wrote holds that call's expression, calls that share a file have one
expression, and no further call about the directory changes any of the files. -/
theorem written_expressions_stay (run : Run directory start calls written m)
    (hdistinct : Collisionless calls) :
    (∀ c ∈ written, ∃ text, c.render = .ok text ∧ m.content c.path = .ok (Text.encode text)) ∧
      (∀ c ∈ calls, ∀ c' ∈ calls, ∀ text text', c.render = .ok text → c'.render = .ok text' →
        c.path = c'.path → text = text') ∧
      ∀ next : Call, next.resolver.shellsDirectory = directory →
        Collisionless (next :: calls) →
        ∀ c ∈ written, (next.perform m).content c.path = m.content c.path := by
  have hkept := run.onFile hdistinct
  refine ⟨hkept, ?_, ?_⟩
  · intro c hc c' hc' text text' hrender hrender' hpath
    have hshared : c.resolver.shellsDirectory = c'.resolver.shellsDirectory := by
      rw [run.directory_of_mem c hc, run.directory_of_mem c' hc']
    exact hdistinct.render_eq hc hc' hshared hpath hrender hrender'
  · intro next hdirectory hnext c hc
    have hlater := run.onFile_call hkept next hdirectory hnext
    have hmem : c ∈ if next.writes m then next :: written else written := by
      split
      · exact List.mem_cons_of_mem next hc
      · exact hc
    obtain ⟨text, hrender, hcontent⟩ := hkept c hc
    obtain ⟨text', hrender', hcontent'⟩ := hlater c hmem
    have htext : text = text' := Except.ok.inj (hrender.symm.trans hrender')
    rw [hcontent, hcontent', htext]

/-- A call about one package and the directory `shells`. -/
def callOn (host : Option Platform) (instantiates : Bool) : Call :=
  { resolver := ⟨"<nixpkgs>", "nix-instantiate", "nix-shell", "shells", host⟩
    descriptor := ⟨Target.aarch64Linux, [⟨"gcc", .nativeBuildInput⟩], [], SortedMap.empty⟩
    instantiates := instantiates }

/-- Two calls about different hosts share a file, the second one after the first wrote it. -/
def sharingCalls : List Call :=
  [callOn (some ⟨.x86_64, .linux, some .gnu⟩) false, callOn none true]

theorem written_expressions_stay_shared :
    ∃ written m, Run "shells" (Machine.ofFiles Machine.FileTree.empty) sharingCalls written m ∧
      Collisionless sharingCalls ∧ callOn none true ∈ written ∧
      ∃ text, (callOn none true).render = .ok text ∧
        m.content (callOn none true).path = .ok (Text.encode text) := by
  have hkeys : ∀ c ∈ sharingCalls, c.key = (callOn none true).key := by
    intro c hc
    cases hc with
    | head => rfl
    | tail _ hc => rw [List.mem_singleton.1 hc]
  have hdistinct : Collisionless sharingCalls := by
    intro c hc c' hc' _ _ _
    rw [hkeys c hc, hkeys c' hc']
  have hwrites : (callOn none true).writes (Machine.ofFiles Machine.FileTree.empty) = true := by
    decide +kernel
  have hstart : Run "shells" (Machine.ofFiles Machine.FileTree.empty) [] []
      (Machine.ofFiles Machine.FileTree.empty) := Run.begin
  have hfirst := hstart.call (callOn none true) rfl
  rw [if_pos hwrites] at hfirst
  have hboth := hfirst.call (callOn (some ⟨.x86_64, .linux, some .gnu⟩) false) rfl
  have hmem : callOn none true ∈ if (callOn (some ⟨.x86_64, .linux, some .gnu⟩) false).writes
      ((callOn none true).perform (Machine.ofFiles Machine.FileTree.empty)) then
        sharingCalls else [callOn none true] := by
    split
    · exact List.mem_cons_of_mem _ List.mem_cons_self
    · exact List.mem_cons_self
  exact ⟨_, _, hboth, hdistinct, hmem, (written_expressions_stay hboth hdistinct).1 _ hmem⟩

end Nix

end CrossShell
