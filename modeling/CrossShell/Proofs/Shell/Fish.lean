import CrossShell.Proofs.Shell.Posix
import Mathlib.Data.List.Chain

/-!
How fish reads the line that sets a variable.

Words are as in a POSIX shell but for the backslash between quotes: it takes a quote or another
backslash with it, and stands for itself before any other character. The line has the backslashes of
the value as they are, so the value is read as itself if and only if none of them stands before a
backslash or a quote. What is read only ever grows, so that a character that was read for another
one, or was not read at all, is not made up for by what comes later.
-/

set_option autoImplicit false

namespace CrossShell.Fish

open Text (Leads continuesName)
open Posix (Word Command bareText quotedText isName bareText_concat map_char_bareText
  map_char_quotedText continuesName_of_isName)

/-! ## The reader -/

inductive Mode where
  | between
  | word
  | quoted
  /-- After a backslash between quotes. -/
  | backslash
  /-- After a backslash outside quotes. -/
  | escaped
  deriving DecidableEq, Repr

/-- What a reader has read of a command: a part of the present word, and the words before it. -/
structure State where
  mode : Mode
  word : Word
  words : Command

namespace State

def add (s : State) (mode : Mode) (c : Char) (quoted : Bool) : State :=
  ⟨mode, s.word ++ [⟨c, quoted⟩], s.words⟩

def endWord (s : State) : State :=
  ⟨.between, [], s.words ++ [s.word]⟩

/-- A character outside quotes that no word ends with. Those that may mean something else to the
shell are refused, and so are those that a command ends with. -/
def bare (s : State) (c : Char) : Option State :=
  if c = '\'' then some { s with mode := .quoted }
  else if c = '\\' then some { s with mode := .escaped }
  else if continuesName c || c == '-' then some (s.add .word c false)
  else none

/-- The characters that were read, whatever words they are in. -/
def chars (s : State) : List Char :=
  (s.words.flatten ++ s.word).map (·.char)

end State

def step (s : State) (c : Char) : Option State :=
  match s.mode with
  | .between => if c = ' ' ∨ c = '\t' then some s else s.bare c
  | .word => if c = ' ' ∨ c = '\t' then some s.endWord else s.bare c
  | .quoted =>
    if c = '\'' then some { s with mode := .word }
    else if c = '\\' then some { s with mode := .backslash }
    else some (s.add .quoted c true)
  | .backslash =>
    if c = '\'' ∨ c = '\\' then some (s.add .quoted c true)
    else some ((s.add .quoted '\\' true).add .quoted c true)
  | .escaped => if c = '\n' then none else some (s.add .word c true)

/-- The words of a command that is read to its end. -/
def State.finish (s : State) : Option Command :=
  match s.mode with
  | .between => some s.words
  | .word => some (s.words ++ [s.word])
  | _ => none

/-- The one command of a text. -/
def read (text : List Char) : Option Command :=
  (text.foldlM step ⟨.between, [], []⟩).bind State.finish

/-- The name and the value of the variable that a command sets for the programs it starts. -/
def exported? : Command → Option (String × String)
  | [command, option, name, value] =>
    if command = bareText "set".toList ∧ option = bareText "-gx".toList ∧
        name = bareText (name.map (·.char)) ∧ isName (name.map (·.char)) then
      some (String.ofList (name.map (·.char)), String.ofList (value.map (·.char)))
    else none
  | _ => none

/-- The variable that a text sets. A text that does anything else has none. -/
def readExport (text : String) : Option (String × String) :=
  (read text.toList).bind exported?

/-! ## What is read grows -/

variable {s s' t : State} {c : Char} {w : Word} {ws : Command} {text value : List Char}

@[simp] theorem chars_add (mode : Mode) (quoted : Bool) :
    (s.add mode c quoted).chars = s.chars ++ [c] := by
  simp [State.add, State.chars]

@[simp] theorem chars_endWord : s.endWord.chars = s.chars := by
  simp [State.endWord, State.chars]

theorem chars_of_bare (h : s.bare c = some s') : s.chars <+: s'.chars := by
  unfold State.bare at h
  split at h
  · cases h
    exact List.prefix_rfl
  · split at h
    · cases h
      exact List.prefix_rfl
    · split at h
      · cases h
        simp
      · cases h

theorem chars_of_step (h : step s c = some s') : s.chars <+: s'.chars := by
  unfold step at h
  cases hmode : s.mode with
  | between =>
    simp only [hmode] at h
    split at h
    · cases h
      exact List.prefix_rfl
    · exact chars_of_bare h
  | word =>
    simp only [hmode] at h
    split at h
    · cases h
      simp
    · exact chars_of_bare h
  | quoted =>
    simp only [hmode] at h
    split at h
    · cases h
      exact List.prefix_rfl
    · split at h
      · cases h
        exact List.prefix_rfl
      · cases h
        simp
  | backslash =>
    simp only [hmode] at h
    split at h
    · cases h
      simp
    · cases h
      simp
  | escaped =>
    simp only [hmode] at h
    split at h
    · cases h
    · cases h
      simp

theorem chars_of_leads (h : Leads step s text t) : s.chars <+: t.chars := by
  induction text generalizing s with
  | nil =>
    cases h
    exact List.prefix_rfl
  | cons c text ih =>
    obtain ⟨next, hstep, hnext⟩ := h.exists_step
    exact (chars_of_step hstep).trans (ih hnext)

theorem chars_of_finish {command : Command} (h : s.finish = some command) :
    command.flatten.map (·.char) <+: s.chars := by
  unfold State.finish at h
  split at h
  · cases h
    simp [State.chars]
  · cases h
    simp [State.chars]
  · cases h

/-! ## Backslashes -/

/-- No backslash of a value stands before a backslash or a quote, once the value is between
quotes. -/
def BackslashesStay (value : List Char) : Prop :=
  (value ++ ['\'']).IsChain fun c d => c = '\\' → d ≠ '\\' ∧ d ≠ '\''

instance (value : List Char) : Decidable (BackslashesStay value) :=
  inferInstanceAs (Decidable ((value ++ ['\'']).IsChain _))

theorem backslashesStay_nil : BackslashesStay [] :=
  List.IsChain.singleton '\''

theorem backslashesStay_cons (h : c ≠ '\\') :
    BackslashesStay (c :: value) ↔ BackslashesStay value := by
  unfold BackslashesStay
  rw [List.cons_append, List.isChain_cons]
  exact ⟨fun hchain => hchain.2, fun hchain => ⟨fun _ _ hc => absurd hc h, hchain⟩⟩

theorem backslashesStay_backslash :
    BackslashesStay ('\\' :: value) ↔
      ∃ c rest, value = c :: rest ∧ c ≠ '\\' ∧ c ≠ '\'' ∧ BackslashesStay rest := by
  have hunfold : BackslashesStay ('\\' :: value) ↔
      (∀ d ∈ (value ++ ['\'']).head?, d ≠ '\\' ∧ d ≠ '\'') ∧ BackslashesStay value := by
    unfold BackslashesStay
    rw [List.cons_append, List.isChain_cons]
    simp only [forall_const]
  rw [hunfold]
  constructor
  · rintro ⟨hhead, hstay⟩
    cases value with
    | nil => exact absurd rfl (hhead '\'' rfl).2
    | cons c rest =>
      obtain ⟨hback, hquote⟩ := hhead c rfl
      exact ⟨c, rest, rfl, hback, hquote, (backslashesStay_cons hback).1 hstay⟩
  · rintro ⟨c, rest, rfl, hback, hquote, hstay⟩
    refine ⟨fun d hd => ?_, (backslashesStay_cons hback).2 hstay⟩
    cases hd
    exact ⟨hback, hquote⟩

/-! ## Reading values -/

/-- What stands between the quotes for a character of a value. -/
def writtenChar (c : Char) : List Char :=
  if c = '\'' then ['\'', '\\', '\'', '\''] else [c]

theorem leads_writtenChar (h : c ≠ '\\') :
    Leads step ⟨.quoted, w, ws⟩ (writtenChar c) ⟨.quoted, w ++ [⟨c, true⟩], ws⟩ := by
  unfold writtenChar
  by_cases hc : c = '\''
  · rw [if_pos hc, hc]
    exact Leads.cons rfl (Leads.cons rfl (Leads.cons rfl (Leads.single rfl)))
  · rw [if_neg hc]
    have hstep : step ⟨.quoted, w, ws⟩ c = some ⟨.quoted, w ++ [⟨c, true⟩], ws⟩ := by
      simp only [step, if_neg hc, if_neg h, State.add]
    exact Leads.single hstep

theorem leads_afterBackslash (hback : c ≠ '\\') (hquote : c ≠ '\'') :
    Leads step ⟨.backslash, w, ws⟩ (writtenChar c)
      ⟨.quoted, w ++ [⟨'\\', true⟩] ++ [⟨c, true⟩], ws⟩ := by
  have hneither : ¬ (c = '\'' ∨ c = '\\') := not_or.2 ⟨hquote, hback⟩
  have hstep : step ⟨.backslash, w, ws⟩ c
      = some ⟨.quoted, w ++ [⟨'\\', true⟩] ++ [⟨c, true⟩], ws⟩ := by
    simp only [step, if_neg hneither, State.add]
  unfold writtenChar
  rw [if_neg hquote]
  exact Leads.single hstep

theorem quotedText_cons (c : Char) (value : List Char) (w : Word) :
    w ++ quotedText (c :: value) = w ++ [⟨c, true⟩] ++ quotedText value := by
  rw [List.append_assoc]
  rfl

/-- A value whose backslashes stay is read as it is, also right after a backslash that stays before
it. A backslash leads from the first case to the second, and what follows it leads back. -/
theorem leads_written (value : List Char) :
    (BackslashesStay value → ∀ w, Leads step ⟨.quoted, w, ws⟩ (value.flatMap writtenChar)
      ⟨.quoted, w ++ quotedText value, ws⟩) ∧
    (BackslashesStay ('\\' :: value) → ∀ w, Leads step ⟨.backslash, w, ws⟩
      (value.flatMap writtenChar) ⟨.quoted, w ++ quotedText ('\\' :: value), ws⟩) := by
  induction value with
  | nil =>
    refine ⟨fun _ w => ?_, fun h => ?_⟩
    · show Leads step _ [] ⟨.quoted, w ++ [], ws⟩
      rw [List.append_nil]
      exact Leads.nil step _
    · obtain ⟨c, rest, hnil, -⟩ := backslashesStay_backslash.1 h
      cases hnil
  | cons c value ih =>
    obtain ⟨hquoted, hbackslash⟩ := ih
    rw [List.flatMap_cons]
    constructor
    · intro h w
      by_cases hback : c = '\\'
      · subst hback
        exact Leads.append (Leads.single rfl) (hbackslash h w)
      · rw [quotedText_cons]
        exact (leads_writtenChar hback).append (hquoted ((backslashesStay_cons hback).1 h) _)
    · intro h w
      obtain ⟨d, rest, heq, hback, hquote, hrest⟩ := backslashesStay_backslash.1 h
      obtain ⟨rfl, rfl⟩ := List.cons.inj heq
      rw [quotedText_cons, quotedText_cons]
      exact (leads_afterBackslash hback hquote).append (hquoted hrest _)

/-! ## Values that are read as they are -/

theorem eq_of_prefixes {a u v l : List Char} {d : Char} (h : a ++ c :: u <+: l)
    (h' : a ++ d :: v <+: l) : c = d := by
  obtain ⟨x, rfl⟩ := h
  obtain ⟨y, hy⟩ := h'
  rw [List.append_assoc, List.append_assoc] at hy
  exact (List.cons.inj (List.append_cancel_left hy)).1.symm

theorem chars_concat (mode : Mode) (w : Word) (ws : Command) (c : Char) (l : List Char) :
    (⟨mode, w ++ [⟨c, true⟩], ws⟩ : State).chars ++ l
      = (⟨mode, w, ws⟩ : State).chars ++ c :: l := by
  simp [State.chars]

theorem prefix_of_leads (h : Leads step ⟨.quoted, w ++ [⟨c, true⟩], ws⟩ text t) :
    (⟨.quoted, w, ws⟩ : State).chars ++ [c] <+: t.chars := by
  have hread := chars_of_leads h
  rw [← List.append_nil (State.chars _), chars_concat] at hread
  exact hread

/-- Nothing is owed when another character than a backslash is read in its turn. -/
theorem nothing_owed {owed : Nat} (hback : c ≠ '\\')
    (h : Leads step ⟨.quoted, w ++ [⟨c, true⟩], ws⟩ text t)
    (howed : (⟨.quoted, w, ws⟩ : State).chars ++ (List.replicate owed '\\' ++ c :: value)
      <+: t.chars) :
    owed = 0 ∧
      (⟨.quoted, w ++ [⟨c, true⟩], ws⟩ : State).chars ++ (List.replicate 0 '\\' ++ value)
        <+: t.chars := by
  cases owed with
  | zero =>
    rw [chars_concat]
    exact ⟨rfl, howed⟩
  | succ owed => exact absurd (eq_of_prefixes (prefix_of_leads h) howed) hback

/-- A quote after a backslash is read in place of the backslash. -/
theorem not_prefix_of_quote {l : List Char}
    (h : Leads step ⟨.backslash, w, ws⟩ ('\'' :: text) t) :
    ¬ (⟨.quoted, w ++ [⟨'\\', true⟩], ws⟩ : State).chars ++ l <+: t.chars := by
  intro howed
  have hstep : step ⟨.backslash, w, ws⟩ '\'' = some ⟨.quoted, w ++ [⟨'\'', true⟩], ws⟩ := rfl
  have hread := prefix_of_leads (Leads.rest (Leads.single hstep) h)
  rw [chars_concat] at howed
  exact absurd (eq_of_prefixes hread howed) (by decide)

theorem replicate_append_cons (owed : Nat) (value : List Char) :
    List.replicate owed '\\' ++ '\\' :: value = '\\' :: (List.replicate owed '\\' ++ value) := by
  rw [List.append_cons, ← List.replicate_succ', List.replicate_succ, List.cons_append]

/-- If all that is read is a value after `owed` backslashes that were not read, then none is owed
and the backslashes of the value stay. In the second case one more backslash was taken, and would be
read next. -/
theorem stays_of_leads (value : List Char) :
    (∀ w owed, Leads step ⟨.quoted, w, ws⟩ (value.flatMap writtenChar ++ ['\'']) t →
      (⟨.quoted, w, ws⟩ : State).chars ++ (List.replicate owed '\\' ++ value) <+: t.chars →
      owed = 0 ∧ BackslashesStay value) ∧
    ∀ w owed, Leads step ⟨.backslash, w, ws⟩ (value.flatMap writtenChar ++ ['\'']) t →
      (⟨.quoted, w ++ [⟨'\\', true⟩], ws⟩ : State).chars ++ (List.replicate owed '\\' ++ value)
        <+: t.chars →
      owed = 0 ∧ BackslashesStay ('\\' :: value) := by
  induction value with
  | nil =>
    constructor
    · intro w owed h howed
      cases h
      have hlength := howed.length_le
      simp only [State.chars, List.length_append, List.length_replicate, List.length_map,
        List.length_nil] at hlength
      exact ⟨by omega, backslashesStay_nil⟩
    · intro w owed h howed
      exact absurd howed (not_prefix_of_quote h)
  | cons c value ih =>
    obtain ⟨hquoted, hbackslash⟩ := ih
    rw [List.flatMap_cons, List.append_assoc]
    constructor
    · intro w owed h howed
      by_cases hback : c = '\\'
      · subst hback
        rw [replicate_append_cons, ← chars_concat] at howed
        exact hbackslash w owed (Leads.rest (Leads.single rfl) h) howed
      · have hrest := (leads_writtenChar hback).rest h
        obtain ⟨rfl, hvalue⟩ := nothing_owed hback hrest howed
        obtain ⟨-, hstay⟩ := hquoted _ 0 hrest hvalue
        exact ⟨rfl, (backslashesStay_cons hback).2 hstay⟩
    · intro w owed h howed
      by_cases hback : c = '\\'
      · subst hback
        -- of two backslashes one is read, so that one more is owed
        rw [replicate_append_cons] at howed
        obtain ⟨hnone, -⟩ := hquoted _ (owed + 1) (Leads.rest (Leads.single rfl) h) howed
        cases hnone
      by_cases hmark : c = '\''
      · subst hmark
        exact absurd howed (not_prefix_of_quote h)
      have hrest := (leads_afterBackslash hback hmark).rest h
      obtain ⟨rfl, hvalue⟩ := nothing_owed hback hrest howed
      obtain ⟨-, hstay⟩ := hquoted _ 0 hrest hvalue
      exact ⟨rfl, backslashesStay_backslash.2 ⟨c, value, rfl, hback, hmark, hstay⟩⟩

/-! ## Reading lines -/

theorem bare_ordinary (h : continuesName c = true) (s : State) :
    s.bare c = some (s.add .word c false) := by
  have hquote : c ≠ '\'' := fun heq => absurd (heq ▸ h) (by decide)
  have hback : c ≠ '\\' := fun heq => absurd (heq ▸ h) (by decide)
  unfold State.bare
  rw [if_neg hquote, if_neg hback, h]
  rfl

theorem step_ordinary (h : continuesName c = true) (hmode : s.mode = .between ∨ s.mode = .word) :
    step s c = some (s.add .word c false) := by
  have hblank : ¬ (c = ' ' ∨ c = '\t') := by
    rintro (rfl | rfl)
    · cases h
    · cases h
  unfold step
  obtain hmode | hmode := hmode
  · rw [hmode]
    simp only [if_neg hblank, bare_ordinary h]
  · rw [hmode]
    simp only [if_neg hblank, bare_ordinary h]

theorem leads_word (h : ∀ c ∈ text, continuesName c = true) (before : List Char) :
    Leads step ⟨.word, bareText before, ws⟩ text ⟨.word, bareText (before ++ text), ws⟩ := by
  refine Leads.each (fun chars => (⟨.word, bareText chars, ws⟩ : State))
    (fun before c hc => ?_) before
  rw [step_ordinary (h c hc) (.inr rfl), bareText_concat]
  rfl

theorem leads_name {name : List Char} (h : isName name = true) :
    Leads step ⟨.between, [], ws⟩ name ⟨.word, bareText name, ws⟩ := by
  have hcontinues := continuesName_of_isName h
  cases name with
  | nil => cases h
  | cons c rest =>
    exact Leads.cons (step_ordinary (hcontinues c List.mem_cons_self) (.inl rfl))
      (leads_word (fun d hd => hcontinues d (List.mem_cons_of_mem c hd)) [c])

/-- The words before the value. -/
def openingWords (name : List Char) : Command :=
  [bareText "set".toList, bareText "-gx".toList, bareText name]

theorem leads_opening {name : List Char} (h : isName name = true) :
    Leads step ⟨.between, [], []⟩ ("set -gx ".toList ++ (name ++ [' ', '\'']))
      ⟨.quoted, [], openingWords name⟩ := by
  have hset : Leads step ⟨.between, [], []⟩ "set -gx ".toList
      ⟨.between, [], [bareText "set".toList, bareText "-gx".toList]⟩ := by
    rfl
  have hclose : Leads step
      ⟨.word, bareText name, [bareText "set".toList, bareText "-gx".toList]⟩ [' ', '\'']
      ⟨.quoted, [], openingWords name⟩ :=
    Leads.cons rfl (Leads.single rfl)
  exact hset.append ((leads_name h).append hclose)

theorem toList_exportLine (name value : String) :
    (Shell.fish.exportLine name value).toList
      = ("set -gx ".toList ++ (name.toList ++ [' ', '\'']))
        ++ (value.toList.flatMap writtenChar ++ ['\'']) := by
  have hspace : " ".toList = [' '] := by decide
  have hquoted : (Shell.singleQuoted ['\'', '\\', '\'', '\''] value).toList
      = '\'' :: (value.toList.flatMap writtenChar) ++ ['\''] := Shell.toList_singleQuoted _ value
  show ("set -gx " ++ name ++ " " ++ Shell.singleQuoted ['\'', '\\', '\'', '\''] value).toList = _
  rw [String.toList_append, String.toList_append, String.toList_append, hspace, hquoted]
  simp only [List.append_assoc, List.cons_append, List.nil_append]

theorem exported?_of_isName {name : String} (h : isName name.toList = true) (value : String) :
    exported? (openingWords name.toList ++ [quotedText value.toList]) = some (name, value) := by
  simp [exported?, openingWords, map_char_bareText, map_char_quotedText, h]

/-- A command that sets a variable has no other characters than these. -/
theorem chars_of_exported? {command : Command} {name value : String}
    (h : exported? command = some (name, value)) :
    command.flatten.map (·.char) = "set".toList ++ "-gx".toList ++ name.toList ++ value.toList := by
  unfold exported? at h
  split at h
  · next words command option word value' =>
    obtain ⟨⟨rfl, rfl, -, -⟩, heq⟩ := Option.ite_none_right_eq_some.1 h
    obtain ⟨rfl, rfl⟩ := Prod.mk.inj (Option.some.inj heq)
    simp [map_char_bareText, String.toList_ofList]
  · cases h

/-- The line that sets a variable is read as a command that does, with the same value, if and only
if no backslash of the value stands before a backslash or a quote once it is between quotes. -/
theorem export_faithful_iff {name : String} (hname : isName name.toList = true) (value : String) :
    readExport (Shell.fish.exportLine name value) = some (name, value) ↔
      BackslashesStay value.toList := by
  have hopening := leads_opening hname
  constructor
  · intro h
    obtain ⟨command, hread, hexported⟩ := Option.bind_eq_some_iff.1 h
    obtain ⟨t, ht, hfinish⟩ := Option.bind_eq_some_iff.1 hread
    rw [toList_exportLine] at ht
    have hchars := chars_of_finish hfinish
    rw [chars_of_exported? hexported] at hchars
    refine ((stays_of_leads value.toList).1 [] 0 (hopening.rest ht) ?_).2
    simpa [State.chars, openingWords, map_char_bareText] using hchars
  · intro h
    have hclose : Leads step ⟨.quoted, quotedText value.toList, openingWords name.toList⟩ ['\'']
        ⟨.word, quotedText value.toList, openingWords name.toList⟩ := Leads.single rfl
    have hvalue := ((leads_written value.toList).1 h []).append hclose
    have hline : Leads step ⟨.between, [], []⟩ (Shell.fish.exportLine name value).toList
        ⟨.word, quotedText value.toList, openingWords name.toList⟩ := by
      rw [toList_exportLine]
      exact hopening.append hvalue
    have hread : read (Shell.fish.exportLine name value).toList
        = some (openingWords name.toList ++ [quotedText value.toList]) := by
      unfold read
      rw [hline]
      rfl
    unfold readExport
    rw [hread]
    exact exported?_of_isName hname value

theorem export_faithful_iff_path :
    readExport (Shell.fish.exportLine "HELP" "C:\\it's\n$here")
      = some ("HELP", "C:\\it's\n$here") :=
  (export_faithful_iff (by decide) _).2 (by decide)

/-- Of the two backslashes before the name of a server one is read, and the backslash after the name
of a directory keeps the quotes from being closed. -/
theorem doubled_backslash_collapses :
    isName "SHARE".toList = true ∧
      readExport (Shell.fish.exportLine "SHARE" "\\\\server\\share")
        = some ("SHARE", "\\server\\share") ∧
      readExport (Shell.fish.exportLine "SHARE" "D:\\share\\") = none := by
  decide +kernel

end CrossShell.Fish
