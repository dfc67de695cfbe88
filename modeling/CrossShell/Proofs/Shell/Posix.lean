import CrossShell.Proofs.Shell.Script
import CrossShell.Proofs.ShellEnv
import CrossShell.Proofs.Text.Leads
import CrossShell.Proofs.Text.Names

/-!
How a POSIX shell reads the lines that export variables.

`read` splits a text into commands and these into words. Between single quotes every character is
literal, and a backslash outside of them makes the next character literal. A sharp sign where no
word has begun starts a comment, a line feed outside quotes ends a command. Outside quotes no other
characters are accepted than those of names and the equals sign: all others may mean something to a
shell. A word keeps for each of its characters whether it was quoted, since an assignment is one
only if its name and its equals sign are not.
-/

set_option autoImplicit false

namespace CrossShell.Posix

open Text (Leads startsName continuesName startsName_eq continuesName_eq)

/-! ## The reader -/

/-- Whether a text is the name of a variable. -/
def isName : List Char → Bool
  | [] => false
  | c :: rest => startsName c && rest.all continuesName

structure Piece where
  char : Char
  quoted : Bool
  deriving DecidableEq, Repr

abbrev Word : Type := List Piece

abbrev Command : Type := List Word

/-- A text that stands outside quotes. -/
def bareText (text : List Char) : Word :=
  text.map (⟨·, false⟩)

/-- A text that was quoted, character by character or as a whole. -/
def quotedText (text : List Char) : Word :=
  text.map (⟨·, true⟩)

inductive Mode where
  | between
  | comment
  | word
  | quoted
  | escaped
  deriving DecidableEq, Repr

/-- What a reader has read: a part of the present word, the words of the present command before it,
and the commands before that. -/
structure State where
  mode : Mode
  word : Word
  words : Command
  commands : List Command

namespace State

def add (s : State) (mode : Mode) (c : Char) (quoted : Bool) : State :=
  { s with mode := mode, word := s.word ++ [⟨c, quoted⟩] }

def endWord (s : State) : State :=
  { s with mode := .between, word := [], words := s.words ++ [s.word] }

def endCommand (s : State) : State :=
  ⟨.between, s.word, [], s.commands ++ if s.words = [] then [] else [s.words]⟩

/-- A character outside quotes that neither a word nor a command ends with. -/
def bare (s : State) (c : Char) : Option State :=
  if c = '\'' then some { s with mode := .quoted }
  else if c = '\\' then some { s with mode := .escaped }
  else if continuesName c || c == '=' then some (s.add .word c false)
  else none

end State

def step (s : State) (c : Char) : Option State :=
  match s.mode with
  | .between =>
    if c = ' ' ∨ c = '\t' then some s
    else if c = '\n' then some s.endCommand
    else if c = '#' then some { s with mode := .comment }
    else s.bare c
  | .comment => if c = '\n' then some s.endCommand else some s
  | .word =>
    if c = ' ' ∨ c = '\t' then some s.endWord
    else if c = '\n' then some s.endWord.endCommand
    else s.bare c
  | .quoted => if c = '\'' then some { s with mode := .word } else some (s.add .quoted c true)
  | .escaped => if c = '\n' then none else some (s.add .word c true)

/-- The reader after some commands, at the start of a line. -/
def atLine (commands : List Command) : State :=
  ⟨.between, [], [], commands⟩

/-- The commands of a text. A text that breaks off inside a line is refused. -/
def read (text : List Char) : Option (List Command) :=
  match text.foldlM step (atLine []) with
  | some ⟨.between, [], [], commands⟩ => some commands
  | _ => none

/-- Whether a piece belongs to the name of an assignment, if the word is one. -/
def inName (p : Piece) : Bool :=
  !p.quoted && p.char != '='

/-- The name and the value of the one variable that a command exports. -/
def exported? : Command → Option (String × String)
  | [command, word] =>
    let name := (word.takeWhile inName).map (·.char)
    match word.dropWhile inName with
    | ⟨'=', false⟩ :: value =>
      if command = bareText "export".toList ∧ isName name then
        some (String.ofList name, String.ofList (value.map (·.char)))
      else none
    | _ => none
  | _ => none

/-- The variables that a text exports. A text that does anything else has none. -/
def readExports (text : String) : Option (List (String × String)) :=
  (read text.toList).bind fun commands => commands.mapM exported?

/-! ## Texts in words -/

theorem bareText_concat (text : List Char) (c : Char) :
    bareText (text ++ [c]) = bareText text ++ [⟨c, false⟩] := by
  simp [bareText]

theorem map_char_bareText (text : List Char) : (bareText text).map (·.char) = text := by
  simp [bareText, Function.comp_def]

theorem map_char_quotedText (text : List Char) : (quotedText text).map (·.char) = text := by
  simp [quotedText, Function.comp_def]

/-! ## Reading what needs no quotes -/

variable {c : Char} {w : Word} {ws : Command} {cs : List Command}

/-- The characters that mean something to the reader outside quotes. -/
def specials : List Char :=
  [' ', '\t', '\n', '\'', '\\', '#']

theorem ne_special (h : (continuesName c || c == '=') = true) : ∀ d ∈ specials, c ≠ d := by
  intro d hd heq
  subst heq
  have hnone : (specials.all fun d => !(continuesName d || d == '=')) = true := by decide
  have hc := List.all_eq_true.1 hnone c hd
  rw [h] at hc
  cases hc

theorem bare_ordinary (h : (continuesName c || c == '=') = true) (s : State) :
    s.bare c = some (s.add .word c false) := by
  have hne := ne_special h
  unfold State.bare
  rw [if_neg (hne '\'' (by decide)), if_neg (hne '\\' (by decide)), if_pos h]

theorem step_word_ordinary (h : (continuesName c || c == '=') = true) :
    step ⟨.word, w, ws, cs⟩ c = some ⟨.word, w ++ [⟨c, false⟩], ws, cs⟩ := by
  have hne := ne_special h
  have hblank : ¬ (c = ' ' ∨ c = '\t') := not_or.2 ⟨hne ' ' (by decide), hne '\t' (by decide)⟩
  show (if c = ' ' ∨ c = '\t' then _ else if c = '\n' then _ else State.bare _ c) = _
  rw [if_neg hblank, if_neg (hne '\n' (by decide)), bare_ordinary h]
  rfl

theorem step_between_ordinary (h : (continuesName c || c == '=') = true) :
    step ⟨.between, w, ws, cs⟩ c = some ⟨.word, w ++ [⟨c, false⟩], ws, cs⟩ := by
  have hne := ne_special h
  have hblank : ¬ (c = ' ' ∨ c = '\t') := not_or.2 ⟨hne ' ' (by decide), hne '\t' (by decide)⟩
  show (if c = ' ' ∨ c = '\t' then _ else if c = '\n' then _ else if c = '#' then _
    else State.bare _ c) = _
  rw [if_neg hblank, if_neg (hne '\n' (by decide)), if_neg (hne '#' (by decide)), bare_ordinary h]
  rfl

theorem leads_word {text : List Char} (h : ∀ c ∈ text, (continuesName c || c == '=') = true)
    (before : List Char) :
    Leads step ⟨.word, bareText before, ws, cs⟩ text ⟨.word, bareText (before ++ text), ws, cs⟩ := by
  refine Leads.each (fun chars => (⟨.word, bareText chars, ws, cs⟩ : State))
    (fun before c hc => ?_) before
  rw [step_word_ordinary (h c hc), bareText_concat]

/-- A word that stands outside quotes is begun by its first character. -/
theorem leads_bareText {text : List Char} (hne : text ≠ [])
    (h : ∀ c ∈ text, (continuesName c || c == '=') = true) :
    Leads step ⟨.between, [], ws, cs⟩ text ⟨.word, bareText text, ws, cs⟩ := by
  cases text with
  | nil => exact absurd rfl hne
  | cons c text =>
    have hrest : Leads step ⟨.word, bareText [c], ws, cs⟩ text
        ⟨.word, bareText ([c] ++ text), ws, cs⟩ :=
      leads_word (fun d hd => h d (List.mem_cons_of_mem c hd)) [c]
    exact Leads.cons (step_between_ordinary (h c List.mem_cons_self)) hrest

theorem leads_comment {text : List Char} (h : '\n' ∉ text) :
    Leads step (atLine cs) ('#' :: text ++ ['\n']) (atLine cs) := by
  have hskip : Leads step ⟨.comment, [], [], cs⟩ text ⟨.comment, [], [], cs⟩ := by
    refine Leads.each (fun _ => (⟨.comment, [], [], cs⟩ : State)) (fun _ c hc => ?_) []
    have hne : ¬ c = '\n' := fun heq => h (heq ▸ hc)
    simp only [step, if_neg hne]
  have hend : step ⟨.comment, [], [], cs⟩ '\n' = some (atLine cs) := by
    show some (⟨.between, [], [], cs ++ []⟩ : State) = _
    rw [List.append_nil]
    rfl
  exact Leads.cons rfl (hskip.append (Leads.single hend))

/-! ## Reading what is quoted -/

/-- Between the quotes a value is read as it is; a quote in it is read outside of them. -/
theorem leads_quoted (value : List Char) :
    Leads step ⟨.quoted, w, ws, cs⟩
      (value.flatMap fun c => if c = '\'' then ['\'', '\\', '\'', '\''] else [c])
      ⟨.quoted, w ++ quotedText value, ws, cs⟩ := by
  induction value generalizing w with
  | nil =>
    show Leads step _ _ ⟨.quoted, w ++ [], ws, cs⟩
    rw [List.append_nil]
    exact Leads.nil step _
  | cons c value ih =>
    have hrest := ih (w := w ++ [⟨c, true⟩])
    rw [List.append_assoc] at hrest
    rw [List.flatMap_cons]
    refine Leads.append ?_ hrest
    by_cases hc : c = '\''
    · rw [if_pos hc, hc]
      exact Leads.cons rfl (Leads.cons rfl (Leads.cons rfl (Leads.cons rfl (Leads.nil step _))))
    · rw [if_neg hc]
      have hstep : step ⟨.quoted, w, ws, cs⟩ c = some ⟨.quoted, w ++ [⟨c, true⟩], ws, cs⟩ := by
        simp only [step, if_neg hc, State.add]
      exact Leads.single hstep

/-! ## Reading export lines -/

theorem continuesName_of_isName {name : List Char} (h : isName name = true) :
    ∀ c ∈ name, continuesName c = true := by
  cases name with
  | nil => cases h
  | cons c rest =>
    obtain ⟨hc, hrest⟩ := Bool.and_eq_true_iff.1 h
    intro d hd
    cases hd with
    | head =>
      unfold continuesName
      rw [hc]
      rfl
    | tail _ hd => exact List.all_eq_true.1 hrest d hd

/-- The command that exports a variable. -/
def exportCommand (name value : List Char) : Command :=
  [bareText "export".toList, bareText (name ++ ['=']) ++ quotedText value]

theorem exported?_exportCommand {name value : List Char} (h : isName name = true) :
    exported? (exportCommand name value) = some (String.ofList name, String.ofList value) := by
  have hname : ∀ p ∈ bareText name, inName p = true := by
    intro p hp
    obtain ⟨c, hc, rfl⟩ := List.mem_map.1 hp
    have hne : c ≠ '=' := by
      intro heq
      have hcontinues := continuesName_of_isName h c hc
      rw [heq] at hcontinues
      exact absurd hcontinues (by decide)
    simp [inName, hne]
  have hword : bareText (name ++ ['=']) ++ quotedText value
      = bareText name ++ ⟨'=', false⟩ :: quotedText value := by
    unfold bareText
    rw [List.map_append, List.append_assoc]
    rfl
  have hend : ¬ inName ⟨'=', false⟩ = true := by decide
  unfold exported? exportCommand
  simp only [hword]
  rw [List.takeWhile_append_of_pos hname, List.dropWhile_append_of_pos hname,
    List.takeWhile_cons_of_neg hend, List.dropWhile_cons_of_neg hend, List.append_nil]
  simp only [map_char_bareText, map_char_quotedText, h, and_self, if_true]

theorem mapM_exportCommand {entries : List (String × String)}
    (h : ∀ e ∈ entries, isName e.1.toList = true) :
    (entries.map fun e => exportCommand e.1.toList e.2.toList).mapM exported? = some entries := by
  induction entries with
  | nil => rfl
  | cons e entries ih =>
    rw [List.map_cons, List.mapM_cons, exported?_exportCommand (h e List.mem_cons_self),
      ih fun e' he => h e' (List.mem_cons_of_mem e he)]
    simp

/-- Whether a POSIX shell reads the lines of a shell. -/
def isPosix : Shell → Bool
  | .bash => true
  | .zsh => true
  | .sh => true
  | .fish => false
  | .powershell => false

theorem toList_exportLine {s : Shell} (h : isPosix s = true) (key value : String) :
    (s.exportLine key value).toList
      = "export".toList ++ ' ' :: (key.toList ++ ['=']) ++ '\'' ::
        (value.toList.flatMap fun c => if c = '\'' then ['\'', '\\', '\'', '\''] else [c])
        ++ ['\''] := by
  have hexport : "export ".toList = "export".toList ++ [' '] := by decide
  have hequals : "=".toList = ['='] := by decide
  have hline : s.exportLine key value
      = "export " ++ key ++ "=" ++ Shell.singleQuoted ['\'', '\\', '\'', '\''] value := by
    cases s with
    | bash => rfl
    | zsh => rfl
    | sh => rfl
    | fish => cases h
    | powershell => cases h
  rw [hline, String.toList_append, String.toList_append, String.toList_append, hexport, hequals,
    Shell.toList_singleQuoted]
  simp only [List.append_assoc, List.cons_append, List.nil_append]

theorem leads_exportLine {s : Shell} (h : isPosix s = true) {key : String} (value : String)
    (hkey : isName key.toList = true) :
    Leads step (atLine cs) ((s.exportLine key value).toList ++ ['\n'])
      (atLine (cs ++ [exportCommand key.toList value.toList])) := by
  have hordinary : ("export".toList.all fun c => continuesName c || c == '=') = true := by decide
  have hexport : Leads step (atLine cs) "export".toList
      ⟨.word, bareText "export".toList, [], cs⟩ :=
    leads_bareText (by decide) (List.all_eq_true.1 hordinary)
  have hblank : step ⟨.word, bareText "export".toList, [], cs⟩ ' '
      = some ⟨.between, [], [bareText "export".toList], cs⟩ := rfl
  have hname : Leads step ⟨.between, [], [bareText "export".toList], cs⟩ (key.toList ++ ['='])
      ⟨.word, bareText (key.toList ++ ['=']), [bareText "export".toList], cs⟩ := by
    apply leads_bareText (by simp)
    intro c hc
    cases List.mem_append.1 hc with
    | inl hc => rw [continuesName_of_isName hkey c hc]; rfl
    | inr hc => rw [List.mem_singleton.1 hc]; decide
  have hopen : step ⟨.word, bareText (key.toList ++ ['=']), [bareText "export".toList], cs⟩ '\''
      = some ⟨.quoted, bareText (key.toList ++ ['=']), [bareText "export".toList], cs⟩ := rfl
  have hclose : Leads step ⟨.quoted, bareText (key.toList ++ ['=']) ++ quotedText value.toList,
      [bareText "export".toList], cs⟩ ['\'', '\n']
        (atLine (cs ++ [exportCommand key.toList value.toList])) :=
    Leads.cons rfl (Leads.single rfl)
  have hvalue := (leads_quoted value.toList).append hclose
  have hline := hexport.append (Leads.cons hblank (hname.append (Leads.cons hopen hvalue)))
  rw [toList_exportLine h]
  simp only [List.append_assoc, List.cons_append, List.nil_append] at hline ⊢
  exact hline

/-! ## Reading scripts -/

theorem leads_exportLines {s : Shell} (h : isPosix s = true) {entries : List (String × String)}
    (hkeys : ∀ e ∈ entries, isName e.1.toList = true) :
    Leads step (atLine cs) (entries.flatMap fun e => (s.exportLine e.1 e.2).toList ++ ['\n'])
      (atLine (cs ++ entries.map fun e => exportCommand e.1.toList e.2.toList)) := by
  induction entries generalizing cs with
  | nil =>
    rw [List.map_nil, List.append_nil]
    exact Leads.nil step _
  | cons e entries ih =>
    have hfirst : Leads step (atLine cs) ((s.exportLine e.1 e.2).toList ++ ['\n'])
        (atLine (cs ++ [exportCommand e.1.toList e.2.toList])) :=
      leads_exportLine h e.2 (hkeys e List.mem_cons_self)
    have hall := hfirst.append (ih fun e' he => hkeys e' (List.mem_cons_of_mem e he))
    rw [List.append_assoc cs] at hall
    exact hall

/-- A POSIX shell reads a script as the variables that it was made from. -/
theorem readExports_exportScript {s : Shell} (h : isPosix s = true) {header : String}
    (hheader : '\n' ∉ header.toList) {env : SortedMap String}
    (hkeys : ∀ e ∈ env.entries, isName e.1.toList = true) :
    readExports (s.exportScript header env) = some env.entries := by
  have hcomment : Leads step (atLine []) ('#' :: (' ' :: header.toList) ++ ['\n']) (atLine []) :=
    leads_comment (by simp [hheader])
  have hscript := hcomment.append (leads_exportLines h hkeys)
  rw [← Shell.toList_exportScript] at hscript
  have hread : read (s.exportScript header env).toList
      = some (env.entries.map fun e => exportCommand e.1.toList e.2.toList) := by
    unfold read
    rw [hscript]
    rfl
  unfold readExports
  rw [hread]
  exact mapM_exportCommand hkeys

/-! ## The script of an environment -/

theorem isName_toList (key : String) : isName key.toList = Config.isVariableName key := by
  unfold Config.isVariableName
  cases key.toList with
  | nil => rfl
  | cons c rest =>
    show (startsName c && rest.all continuesName) = _
    rw [startsName_eq, funext continuesName_eq]

/-- The script for an environment gives a POSIX shell the variables of the environment and nothing
else: one line for every key, in ascending order, with the user's values over those of the
target. -/
theorem export_script_faithful {c : Config} {d : Descriptor} {warnings : List Warning}
    (h : c.describe = .ok (d, warnings)) (host : Option Platform) {s : Shell}
    (hs : s ∈ [Shell.bash, Shell.zsh, Shell.sh]) :
    readExports (s.exportScript ("crossenv environment for " ++ d.target.triple) (d.shellEnv host))
        = some (d.shellEnv host).entries ∧
      ((d.shellEnv host).entries.Pairwise fun a b => a.1 < b.1) ∧
      (∀ e ∈ (d.shellEnv host).entries, isName e.1.toList = true) ∧
      ∀ key, (d.shellEnv host).entries.lookup key
        = (c.env.get? key).or ((Descriptor.defaults d.target (d.isCross host)).lookup key) := by
  obtain ⟨_, henv, hkeys⟩ := Config.describe_ok h
  rw [← henv] at hkeys
  have hposix : ∀ s ∈ [Shell.bash, Shell.zsh, Shell.sh], isPosix s = true := by decide
  have hnames : ∀ e ∈ (d.shellEnv host).entries, isName e.1.toList = true := by
    intro e he
    rw [isName_toList]
    exact Descriptor.isVariableName_of_mem_shellEnv hkeys e he
  have hheader : '\n' ∉ ("crossenv environment for " ++ d.target.triple).toList := by
    rw [String.toList_append]
    intro hmem
    obtain hmem | hmem := List.mem_append.1 hmem
    · exact absurd hmem (by decide)
    · exact absurd (Target.mem_tripleChars d.target.isTripleText_triple '\n' hmem) (by decide)
  refine ⟨readExports_exportScript (hposix s hs) hheader hnames, (d.shellEnv host).ascending,
    hnames, ?_⟩
  intro key
  rw [← henv]
  exact d.get?_shellEnv host key

/-- A config that sets a variable to a text with a quote, a line feed and a dollar sign. -/
def quotingConfig : Config :=
  ⟨"aarch64-unknown-linux-gnu", ["gcc"], [], SortedMap.ofList [("GREETING", "it's\n$HOME")], none⟩

theorem export_script_faithful_quoting :
    ∃ d warnings, quotingConfig.describe = .ok (d, warnings) ∧
      readExports (Shell.zsh.exportScript ("crossenv environment for " ++ d.target.triple)
        (d.shellEnv none)) = some (d.shellEnv none).entries ∧
      (d.shellEnv none).entries.lookup "GREETING" = some "it's\n$HOME" := by
  have h : quotingConfig.describe
      = .ok (⟨Target.aarch64Linux, [⟨"gcc", .nativeBuildInput⟩], [], quotingConfig.env⟩, []) := by
    rfl
  obtain ⟨hread, _, _, hlookup⟩ := export_script_faithful (s := .zsh) h none (by decide)
  refine ⟨_, _, h, hread, ?_⟩
  rw [hlookup]
  decide

end CrossShell.Posix
