import CrossShell.Proofs.Config.Nixpkgs
import CrossShell.Proofs.Nix.ReadBack

/-!
What a package set beside a config is read as where a shell expression imports it.

The path of such a package set stands in the expression as it is, and in brackets if it has blanks.
The language takes it for one path if and only if the directory of the config is spelt with the
characters of path literals alone. A blank in the directory makes it an application of several
operands.
-/

set_option autoImplicit false

namespace CrossShell.Nix

open Machine (Route)
open Text (fields)

variable {word source : List Char} {c : Char}

/-! ## Path literals -/

/-- Whether a path literal can have a character between its slashes. -/
def isPathChar (c : Char) : Bool :=
  c.isAlphanum || c == '.' || c == '_' || c == '+' || c == '-'

/-- Whether a text can stand between the slashes of a path literal. -/
def isSegment (piece : List Char) : Bool :=
  !piece.isEmpty && piece.all isPathChar

/-- Whether a text is a path literal, which has a slash before every segment but a first one. -/
def isPathLiteral (text : List Char) : Bool :=
  match fields '/' text with
  | first :: second :: more => first.all isPathChar && (second :: more).all isSegment
  | _ => false

/-- Whether a text is made of segments with single slashes between them. -/
def isPlainPath (text : List Char) : Bool :=
  (fields '/' text).all isSegment

/-- A path below an absolute one is a path literal if both parts are spelt like that. -/
theorem isPathLiteral_append_slash (habsolute : source.head? = some '/') (path : List Char) :
    isPathLiteral (source ++ '/' :: path) = (isPathLiteral source && isPlainPath path) := by
  obtain ⟨steps, rfl⟩ := List.head?_eq_some_iff.1 habsolute
  have hslash : fields '/' ('/' :: steps) = [] :: fields '/' steps :=
    Text.fields_append '/' [] steps
  unfold isPathLiteral isPlainPath
  rw [Text.fields_append, hslash]
  cases hsteps : fields '/' steps with
  | nil => exact absurd hsteps (Text.fields_ne_nil '/' steps)
  | cons first more => simp [Bool.and_assoc]

theorem isPathChar_of_mem_isSegment {piece : List Char} (h : isSegment piece = true)
    (hc : c ∈ piece) : isPathChar c = true := by
  unfold isSegment at h
  exact List.all_eq_true.1 (Bool.and_eq_true_iff.1 h).2 c hc

theorem isPathChar_of_isPathLiteral (h : isPathLiteral source = true) (hc : c ∈ source) :
    c = '/' ∨ isPathChar c = true := by
  rw [← Text.joinFields_fields '/' source] at hc
  refine (Text.of_mem_joinFields hc).imp_right ?_
  rintro ⟨piece, hpiece, hmem⟩
  unfold isPathLiteral at h
  split at h
  next first second more hfields =>
    obtain ⟨hfirst, hmore⟩ := Bool.and_eq_true_iff.1 h
    rw [hfields] at hpiece
    obtain rfl | hpiece := List.mem_cons.1 hpiece
    · exact List.all_eq_true.1 hfirst c hmem
    · exact isPathChar_of_mem_isSegment (List.all_eq_true.1 hmore piece hpiece) hmem
  next => cases h

theorem not_isBlank_of_isPathLiteral (h : isPathLiteral source = true) :
    ∀ c ∈ source, Lexer.isBlank c = false := by
  intro c hc
  cases hblank : Lexer.isBlank c with
  | false => rfl
  | true =>
    have hcases : ((c = ' ' ∨ c = '\t') ∨ c = '\r') ∨ c = '\n' := by
      simpa [Lexer.isBlank] using hblank
    obtain hslash | hchar := isPathChar_of_isPathLiteral h hc
    · rw [hslash] at hblank
      exact absurd hblank (by decide)
    · obtain ((rfl | rfl) | rfl) | rfl := hcases <;> exact absurd hchar (by decide)

/-! ## Operands -/

/-- What an application of paths and names is made of. -/
inductive Operand where
  | path (text : String)
  | name (text : String)
  deriving DecidableEq, Repr

/-- The words of a source, which blanks separate. -/
def words (source : List Char) : List (List Char) :=
  (fields ' ' (source.map fun c => if Lexer.isBlank c then ' ' else c)).filter (· ≠ [])

def operand? (word : List Char) : Option Operand :=
  if isPathLiteral word then some (.path (String.ofList word))
  else if isIdentifier (String.ofList word) then some (.name (String.ofList word))
  else none

/-- What a source that has nothing but paths and names is read as. More than one operand is the
application of the first one to the others. -/
def operands? (source : List Char) : Option (List Operand) :=
  (words source).mapM operand?

/-- A source without the brackets around it. -/
def withoutBrackets (source : List Char) : List Char :=
  match source with
  | '(' :: rest => if rest.getLast? = some ')' then rest.dropLast else source
  | _ => source

theorem words_append_blank (hblank : Lexer.isBlank c = true) (a b : List Char) :
    words (a ++ c :: b) = words a ++ words b := by
  unfold words
  rw [List.map_append, List.map_cons, if_pos hblank, Text.fields_append, List.filter_append]

theorem words_of_not_isBlank (hne : source ≠ []) (h : ∀ c ∈ source, Lexer.isBlank c = false) :
    words source = [source] := by
  have hsame : source.map (fun c => if Lexer.isBlank c then ' ' else c) = source := by
    refine (List.map_congr_left fun c hc => ?_).trans (List.map_id source)
    rw [h c hc]
    rfl
  have hspace : ' ' ∉ source := fun hmem => absurd (h ' ' hmem) (by decide)
  unfold words
  rw [hsame, Text.fields_of_not_mem hspace]
  simp [hne]

theorem words_ne_nil (hc : c ∈ source) (hblank : Lexer.isBlank c = false) : words source ≠ [] := by
  have hmem : c ∈ source.map fun c => if Lexer.isBlank c then ' ' else c :=
    List.mem_map.2 ⟨c, hc, by rw [hblank]; rfl⟩
  rw [← Text.joinFields_fields ' ' (source.map _)] at hmem
  obtain rfl | ⟨piece, hpiece, hinside⟩ := Text.of_mem_joinFields hmem
  · exact absurd hblank (by decide)
  · have hword : piece ∈ words source :=
      List.mem_filter.2 ⟨hpiece, decide_eq_true (List.ne_nil_of_mem hinside)⟩
    exact List.ne_nil_of_mem hword

theorem operand?_eq_path {path : String} (h : operand? word = some (.path path)) :
    isPathLiteral word = true ∧ path.toList = word := by
  unfold operand? at h
  split at h
  next hpath =>
    cases h
    exact ⟨hpath, String.toList_ofList⟩
  next => split at h <;> cases h

theorem mapM_cons_eq_some {words : List (List Char)} {operands : List Operand}
    (h : (word :: words).mapM operand? = some operands) :
    ∃ first more, operand? word = some first ∧ words.mapM operand? = some more ∧
      operands = first :: more := by
  rw [List.mapM_cons] at h
  obtain ⟨first, hfirst, h⟩ := Option.bind_eq_some_iff.1 h
  obtain ⟨more, hmore, h⟩ := Option.bind_eq_some_iff.1 h
  cases h
  exact ⟨first, more, hfirst, hmore, rfl⟩

/-- Every word is one operand. -/
theorem length_operands {words : List (List Char)} {operands : List Operand}
    (h : words.mapM operand? = some operands) : operands.length = words.length := by
  induction words generalizing operands with
  | nil =>
    cases h
    rfl
  | cons word words ih =>
    obtain ⟨first, more, -, hmore, rfl⟩ := mapM_cons_eq_some h
    rw [List.length_cons, List.length_cons, ih hmore]

/-- A source is read as the path that it spells if and only if it is a path literal. -/
theorem operands?_eq_path_iff {path : String} :
    operands? path.toList = some [.path path] ↔ isPathLiteral path.toList = true := by
  constructor
  · intro h
    unfold operands? at h
    cases hwords : words path.toList with
    | nil =>
      rw [hwords] at h
      cases h
    | cons word rest =>
      rw [hwords] at h
      obtain ⟨first, more, hfirst, -, heq⟩ := mapM_cons_eq_some h
      obtain ⟨rfl, -⟩ := List.cons.inj heq
      obtain ⟨hpath, hword⟩ := operand?_eq_path hfirst
      rw [hword]
      exact hpath
  · intro h
    have hne : path.toList ≠ [] := by
      intro hnil
      rw [hnil] at h
      cases h
    unfold operands?
    rw [words_of_not_isBlank hne (not_isBlank_of_isPathLiteral h), List.mapM_cons, operand?,
      if_pos h, String.ofList_toList]
    rfl

/-- A source with a blank between words is an application if it is read at all. -/
theorem two_le_length_operands {front back : List Char} {operands : List Operand}
    (hblank : Lexer.isBlank c = true) (hfront : words front ≠ []) (hback : words back ≠ [])
    (h : operands? (front ++ c :: back) = some operands) : 2 ≤ operands.length := by
  have hbefore := List.length_pos_iff.2 hfront
  have hafter := List.length_pos_iff.2 hback
  rw [length_operands h, words_append_blank hblank, List.length_append]
  omega

/-! ## Imports -/

theorem withoutBrackets_importArgument {nixpkgs : String}
    (h : nixpkgs.toList.head? ≠ some '(') :
    withoutBrackets (Expression.importArgument nixpkgs).toList = nixpkgs.toList := by
  have hbrackets : ("(" ++ nixpkgs ++ ")").toList = '(' :: (nixpkgs.toList ++ [')']) := by
    simp [String.toList_append]
  unfold Expression.importArgument
  split
  · rw [hbrackets, withoutBrackets, List.getLast?_concat, if_pos rfl, List.dropLast_concat]
  · unfold withoutBrackets
    split
    next rest hchars =>
      rw [hchars] at h
      exact absurd rfl h
    next => rfl

/-- The text before the argument of the import. -/
def importHead (target : Target) : String :=
  "# Generated by crossenv for " ++ target.triple ++ "\nlet\n  pkgs = import "

theorem importText_eq (e : Expression) :
    ∃ after, e.importText
      = importHead e.target ++ Expression.importArgument e.source ++ " \x7b" ++ after := by
  -- Said of any texts, since rewriting would take the literal ones apart.
  have hopened : ∀ {opening rest : String}, opening = " \x7b" ++ rest →
      ∀ before middle close last, before ++ (opening ++ middle ++ close) ++ last
        = before ++ " \x7b" ++ (rest ++ middle ++ close ++ last) := by
    rintro _ rest rfl before middle close last
    simp only [String.append_assoc]
  unfold Expression.importText
  cases e.cross with
  | true =>
    have hopen : " \x7b\n    crossSystem = \x7b\n      config = "
        = " \x7b" ++ "\n    crossSystem = \x7b\n      config = " := by decide
    exact ⟨_, hopened hopen ..⟩
  | false =>
    have hopen : " \x7b \x7d;\n" = " \x7b" ++ " \x7d;\n" := by decide
    have hclosed := hopened hopen (importHead e.target ++ Expression.importArgument e.source) "" ""
      "in\n"
    rw [String.append_empty, String.append_empty] at hclosed
    exact ⟨_, hclosed⟩

theorem exists_import_of_render {d : Descriptor} {nixpkgs text : String} {host : Option Platform}
    (h : render d nixpkgs host = .ok text) :
    ∃ after, text
      = importHead d.target ++ Expression.importArgument nixpkgs ++ " \x7b" ++ after := by
  obtain ⟨e, he, rfl⟩ := render_eq_ok h
  obtain ⟨after, hafter⟩ := importText_eq e
  refine ⟨after ++ e.shellText, ?_⟩
  rw [hafter, String.append_assoc]
  obtain ⟨-, rfl⟩ := Expression.ofDescriptor_ok he
  rfl

/-! ## Package sets beside a config -/

section Beside

variable {directory relative : String}

/-- A path of segments, and the directory of a config that it is relative to. -/
structure IsBeside (directory relative : String) : Prop where
  absolute : (Route.ofText directory).absolute = true
  unclosed : directory.toList.getLast? ≠ some '/'
  plain : isPlainPath relative.toList = true

theorem resolveNixpkgs_beside (h : IsBeside directory relative) :
    Config.resolveNixpkgs ("./" ++ relative) directory = directory ++ "/" ++ relative := by
  have hchars : ("./" ++ relative).toList = '.' :: '/' :: relative.toList := by
    simp [String.toList_append]
  have hhead : relative.toList.head? ≠ some '/' := by
    intro hslash
    obtain ⟨rest, hrest⟩ := List.head?_eq_some_iff.1 hslash
    have hplain := h.plain
    rw [hrest] at hplain
    cases hplain
  have hne : directory.toList ≠ [] := by
    intro hnil
    exact absurd (of_decide_eq_true h.absolute) (by rw [hnil]; nofun)
  rw [Config.resolveNixpkgs_here hchars, String.ofList_toList]
  exact Machine.join_of_unclosed hhead hne h.unclosed

theorem toList_beside (directory relative : String) :
    (directory ++ "/" ++ relative).toList = directory.toList ++ '/' :: relative.toList := by
  simp [String.toList_append]

theorem two_le_length_operands_beside (hdirectory : directory.toList.head? = some '/')
    (hblank : ∃ c ∈ directory.toList, Lexer.isBlank c = true) {operands : List Operand}
    (h : operands? (directory ++ "/" ++ relative).toList = some operands) :
    2 ≤ operands.length := by
  have hslash : Lexer.isBlank '/' = false := by decide
  obtain ⟨c, hc, hblank⟩ := hblank
  obtain ⟨front, back, hparts⟩ := List.append_of_mem hc
  have hfront : '/' ∈ front := by
    cases front with
    | nil =>
      rw [hparts] at hdirectory
      obtain rfl : c = '/' := Option.some_inj.1 hdirectory
      exact absurd hblank (by decide)
    | cons first front =>
      rw [hparts] at hdirectory
      obtain rfl : first = '/' := Option.some_inj.1 hdirectory
      exact List.mem_cons_self
  have hback : '/' ∈ back ++ '/' :: relative.toList := List.mem_append_right back List.mem_cons_self
  rw [toList_beside, hparts, List.append_assoc, List.cons_append] at h
  exact two_le_length_operands hblank (words_ne_nil hfront hslash) (words_ne_nil hback hslash) h

theorem load_nixpkgs_beside (h : IsBeside directory relative) {interpret : Script.Interpreter}
    {path : String} {m m' : Machine} {loaded : Config.Loaded}
    (hload : Config.loadWith interpret path m = .ok loaded m') :
    ∃ l config, m.files.locationOf m.directory (Route.ofText path) = .ok l ∧
      Config.ofFileWith interpret (Machine.pathOf l) m = .ok config m' ∧
      (Machine.pathOf l.dropLast = directory → config.nixpkgs = some ("./" ++ relative) →
        loaded.nixpkgs = some (directory ++ "/" ++ relative)) := by
  obtain ⟨l, config, hat, hfile, hnixpkgs⟩ := Config.loadWith_eq_ok hload
  refine ⟨l, config, hat, hfile, fun hplace hnamed => ?_⟩
  rw [hnixpkgs, hnamed, hplace, Option.map_some, resolveNixpkgs_beside h]

/-- A config that names a package set beside itself is loaded with the path of that. The path stands
alone or in brackets as the argument of an import. It is read as that one path if and only if the
directory of the config is spelt like a path literal. Where the directory has a blank it is nothing
but an application, if it is anything. -/
theorem import_of_relative_nixpkgs (h : IsBeside directory relative) :
    (∀ interpret path m loaded m', Config.loadWith interpret path m = .ok loaded m' →
      ∃ l config, m.files.locationOf m.directory (Route.ofText path) = .ok l ∧
        Config.ofFileWith interpret (Machine.pathOf l) m = .ok config m' ∧
        (Machine.pathOf l.dropLast = directory → config.nixpkgs = some ("./" ++ relative) →
          loaded.nixpkgs = some (directory ++ "/" ++ relative))) ∧
    ∀ d host text, render d (directory ++ "/" ++ relative) host = .ok text →
      ∃ argument after, text = importHead d.target ++ argument ++ " \x7b" ++ after ∧
        (argument = directory ++ "/" ++ relative ∨
          argument = "(" ++ (directory ++ "/" ++ relative) ++ ")") ∧
        (operands? (withoutBrackets argument.toList) = some [.path (directory ++ "/" ++ relative)] ↔
          isPathLiteral directory.toList = true) ∧
        ((∃ c ∈ directory.toList, Lexer.isBlank c = true) → ∀ operands,
          operands? (withoutBrackets argument.toList) = some operands → 2 ≤ operands.length) := by
  refine ⟨fun interpret path m loaded m' hload => load_nixpkgs_beside h hload, ?_⟩
  intro d host text hrender
  have habsolute : directory.toList.head? = some '/' := of_decide_eq_true h.absolute
  obtain ⟨rest, hrest⟩ := List.head?_eq_some_iff.1 habsolute
  have hbare : withoutBrackets (Expression.importArgument (directory ++ "/" ++ relative)).toList
      = (directory ++ "/" ++ relative).toList := by
    apply withoutBrackets_importArgument
    rw [toList_beside, hrest]
    exact fun hhead => absurd (Option.some_inj.1 hhead) (by decide)
  obtain ⟨after, htext⟩ := exists_import_of_render hrender
  refine ⟨_, after, htext, ?_, ?_, ?_⟩
  · unfold Expression.importArgument
    split
    · exact .inr rfl
    · exact .inl rfl
  · rw [hbare, operands?_eq_path_iff, toList_beside, isPathLiteral_append_slash habsolute,
      h.plain, Bool.and_true]
  · intro hblank operands hoperands
    rw [hbare] at hoperands
    exact two_le_length_operands_beside habsolute hblank hoperands

end Beside

/-- A descriptor with one package and no variables. -/
def compilerDescriptor : Descriptor :=
  ⟨Target.aarch64Linux, [⟨"gcc", .nativeBuildInput⟩], [], SortedMap.empty⟩

/-- A machine with a config that names a package set two directories below its own. -/
def nestedMachine : Machine :=
  Machine.ofFiles ((Machine.FileTree.empty.put ["audio"] .directory).put ["audio", "shell.lua"]
    (.file (Text.encode "return \x7b target = 'aarch64-apple-darwin', nixpkgs = './a/b-1' \x7d")))

theorem import_of_relative_nixpkgs_nested :
    (∃ loaded m', Config.load "audio/shell.lua" nestedMachine = .ok loaded m' ∧
      loaded.nixpkgs = some "/audio/a/b-1") ∧
    ∃ text argument after, render compilerDescriptor "/audio/a/b-1" none = .ok text ∧
      text = importHead Target.aarch64Linux ++ argument ++ " \x7b" ++ after ∧
      operands? (withoutBrackets argument.toList) = some [.path "/audio/a/b-1"] := by
  have hjoined : "/audio" ++ "/" ++ "a/b-1" = "/audio/a/b-1" := by decide
  have hbeside : IsBeside "/audio" "a/b-1" := ⟨by decide, by decide, by decide⟩
  obtain ⟨hloads, himports⟩ := import_of_relative_nixpkgs hbeside
  rw [hjoined] at hloads himports
  constructor
  · have hloaded : Machine.answers (Config.load "audio/shell.lua") nestedMachine
        (fun _ => true) = true := by decide +kernel
    have hnamed : Machine.answers (Config.ofFile (Machine.pathOf ["audio", "shell.lua"]))
        nestedMachine (fun config => config.nixpkgs == some "./a/b-1") = true := by decide +kernel
    obtain ⟨loaded, m', hload, -⟩ := Machine.exists_ok_of_answers hloaded
    obtain ⟨l, config, hat, hfile, hnixpkgs⟩ := hloads _ _ _ _ _ hload
    obtain rfl : ["audio", "shell.lua"] = l := Except.ok.inj (Eq.trans (by rfl) hat)
    obtain ⟨config', _, hfile', hset⟩ := Machine.exists_ok_of_answers hnamed
    obtain ⟨rfl, -⟩ := EStateM.Result.ok.inj (hfile'.symm.trans hfile)
    exact ⟨loaded, m', hload, hnixpkgs (by decide) (eq_of_beq hset)⟩
  · obtain ⟨text, hrender⟩ : ∃ text, render compilerDescriptor "/audio/a/b-1" none = .ok text :=
      ⟨_, rfl⟩
    obtain ⟨argument, after, htext, -, hreads, -⟩ := himports _ _ _ hrender
    exact ⟨text, argument, after, hrender, htext, hreads.2 (by decide)⟩

/-- A blank in the directory of a config makes the path of the package set an application. -/
theorem blank_makes_application :
    IsBeside "/home/me/my work" "nixpkgs" ∧
      Config.resolveNixpkgs "./nixpkgs" "/home/me/my work" = "/home/me/my work/nixpkgs" ∧
      (∃ text after, render compilerDescriptor "/home/me/my work/nixpkgs" none = .ok text ∧
        text = importHead Target.aarch64Linux ++ "(/home/me/my work/nixpkgs)" ++ " \x7b" ++ after) ∧
      operands? (withoutBrackets "(/home/me/my work/nixpkgs)".toList)
        = some [.path "/home/me/my", .path "work/nixpkgs"] := by
  refine ⟨⟨by decide, by decide, by decide⟩, by decide, ?_, by decide⟩
  obtain ⟨text, hrender⟩ : ∃ text,
      render compilerDescriptor "/home/me/my work/nixpkgs" none = .ok text := ⟨_, rfl⟩
  obtain ⟨after, htext⟩ := exists_import_of_render hrender
  have hargument : Expression.importArgument "/home/me/my work/nixpkgs"
      = "(/home/me/my work/nixpkgs)" := by decide
  rw [hargument] at htext
  exact ⟨text, after, hrender, htext⟩

end CrossShell.Nix
