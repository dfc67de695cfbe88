import CrossShell.Proofs.Shell.Posix

/-!
How PowerShell reads the line that sets a variable.

A text between single quotes is opened and closed by the apostrophe or by any of four quote marks of
typography, and two marks side by side stand for the second one. The line has the apostrophes of the
value twice and the other marks once, so a value is read as itself if and only if it has none of
these: what is read has half as many marks as the text that it is read from.
-/

set_option autoImplicit false

namespace CrossShell.PowerShell

open Text (continuesName)
open Posix (isName continuesName_of_isName)

/-! ## The reader -/

/-- The single quotes of typography. -/
def typographicMarks : List Char :=
  ['‘', '’', '‚', '‛']

def isTypographic (c : Char) : Bool :=
  typographicMarks.contains c

/-- Whether a character opens and closes texts. -/
def isQuoteMark (c : Char) : Bool :=
  c == '\'' || isTypographic c

/-- The text up to a quote mark that no other one follows, and what comes after that. -/
def readQuoted : List Char → Option (List Char × List Char)
  | [] => none
  | [c] => if isQuoteMark c then some ([], []) else none
  | c :: d :: rest =>
    if isQuoteMark c then
      if isQuoteMark d then (readQuoted rest).map fun (text, after) => (d :: text, after)
      else some ([], d :: rest)
    else (readQuoted (d :: rest)).map fun (text, after) => (c :: text, after)

/-- A variable of the environment, what it is set to, and what comes after the assignment. -/
structure Assignment where
  name : String
  value : String
  after : List Char
  deriving DecidableEq, Repr

def skipSpaces (text : List Char) : List Char :=
  text.dropWhile (· == ' ')

/-- The assignment of a quoted text to a variable of the environment at the front of a text. -/
def readAssignment : List Char → Option Assignment
  | '$' :: 'e' :: 'n' :: 'v' :: ':' :: rest =>
    let name := rest.takeWhile continuesName
    match skipSpaces (rest.dropWhile continuesName) with
    | '=' :: rest =>
      match skipSpaces rest with
      | mark :: rest =>
        if isName name && isQuoteMark mark then
          (readQuoted rest).map fun (text, after) =>
            ⟨String.ofList name, String.ofList text, after⟩
        else none
      | [] => none
    | _ => none
  | _ => none

/-! ## Reading what is quoted -/

variable {value text after : List Char} {c : Char}

theorem readQuoted_close (h : ∀ c, after.head? = some c → isQuoteMark c = false) :
    readQuoted ('\'' :: after) = some ([], after) := by
  have hmark : isQuoteMark '\'' = true := by decide
  cases after with
  | nil => rfl
  | cons c rest => simp [readQuoted, hmark, h c rfl]

theorem readQuoted_pair (rest : List Char) :
    readQuoted ('\'' :: '\'' :: rest)
      = (readQuoted rest).map fun (text, after) => ('\'' :: text, after) := by
  have hmark : isQuoteMark '\'' = true := by decide
  simp [readQuoted, hmark]

theorem readQuoted_plain (h : isQuoteMark c = false) (rest : List Char) :
    readQuoted (c :: rest) = (readQuoted rest).map fun (text, after) => (c :: text, after) := by
  cases rest <;> simp [readQuoted, h]

/-- Every mark of what is read stood there twice, and one more stood at the end. -/
theorem countP_of_readQuoted (h : readQuoted text = some (value, after)) :
    text.countP isQuoteMark = 2 * value.countP isQuoteMark + 1 + after.countP isQuoteMark := by
  fun_induction readQuoted text generalizing value with
  | case1 => cases h
  | case2 c hc =>
    cases h
    simp [hc]
  | case3 => cases h
  | case4 c d rest hc hd ih =>
    obtain ⟨⟨inner, after'⟩, hrest, heq⟩ := Option.map_eq_some_iff.1 h
    obtain ⟨rfl, rfl⟩ := Prod.mk.inj heq
    have hcount := ih hrest
    simp only [List.countP_cons, hc, hd, if_true]
    omega
  | case5 c d rest hc hd =>
    cases h
    simp only [List.countP_cons, List.countP_nil, hc, if_true]
    omega
  | case6 c d rest hc ih =>
    obtain ⟨⟨inner, after'⟩, hrest, heq⟩ := Option.map_eq_some_iff.1 h
    obtain ⟨rfl, rfl⟩ := Prod.mk.inj heq
    rw [List.countP_cons_of_neg hc, List.countP_cons_of_neg hc]
    exact ih hrest

/-! ## Reading what was doubled -/

/-- A value with its apostrophes written twice. -/
def doubled (value : List Char) : List Char :=
  value.flatMap fun c => if c = '\'' then ['\'', '\''] else [c]

theorem doubled_apostrophe (value : List Char) :
    doubled ('\'' :: value) = '\'' :: '\'' :: doubled value := rfl

theorem doubled_cons (h : c ≠ '\'') (value : List Char) :
    doubled (c :: value) = c :: doubled value := by
  unfold doubled
  rw [List.flatMap_cons, if_neg h]
  rfl

/-- A value without typographic marks is read as it is. -/
theorem readQuoted_doubled (hvalue : ∀ c ∈ typographicMarks, c ∉ value)
    (hafter : ∀ c, after.head? = some c → isQuoteMark c = false) :
    readQuoted (doubled value ++ '\'' :: after) = some (value, after) := by
  induction value with
  | nil => exact readQuoted_close hafter
  | cons c value ih =>
    have hrest := ih fun d hd hmem => hvalue d hd (List.mem_cons_of_mem c hmem)
    by_cases hc : c = '\''
    · subst hc
      rw [doubled_apostrophe, List.cons_append, List.cons_append, readQuoted_pair, hrest]
      rfl
    · have hplain : isQuoteMark c = false := by
        have hmark : c ∉ typographicMarks := fun hmem => hvalue c hmem List.mem_cons_self
        simp [isQuoteMark, isTypographic, hc, hmark]
      rw [doubled_cons hc, List.cons_append, readQuoted_plain hplain, hrest]
      rfl

/-- What is missing to a doubling of all marks are the typographic ones. -/
theorem countP_doubled (value : List Char) :
    (doubled value).countP isQuoteMark + value.countP isTypographic
      = 2 * value.countP isQuoteMark := by
  induction value with
  | nil => rfl
  | cons c value ih =>
    by_cases hc : c = '\''
    · have hmark : isQuoteMark '\'' = true := by decide
      have hascii : ¬ isTypographic '\'' = true := by decide
      subst hc
      rw [doubled_apostrophe, List.countP_cons_of_pos hmark, List.countP_cons_of_pos hmark,
        List.countP_cons_of_neg hascii, List.countP_cons_of_pos hmark]
      omega
    · have hsame : isQuoteMark c = isTypographic c := by simp [isQuoteMark, hc]
      rw [doubled_cons hc, List.countP_cons, List.countP_cons, List.countP_cons, hsame]
      split <;> omega

/-! ## Reading lines -/

theorem toList_exportLine (name value : String) :
    (Shell.powershell.exportLine name value).toList
      = '$' :: 'e' :: 'n' :: 'v' :: ':' :: (name.toList ++
        ' ' :: '=' :: ' ' :: '\'' :: (doubled value.toList ++ ['\''])) := by
  have henv : "$env:".toList = ['$', 'e', 'n', 'v', ':'] := by decide
  have hequals : " = ".toList = [' ', '=', ' '] := by decide
  have hquoted : (Shell.singleQuoted ['\'', '\''] value).toList
      = '\'' :: (doubled value.toList ++ ['\'']) := Shell.toList_singleQuoted _ value
  show ("$env:" ++ name ++ " = " ++ Shell.singleQuoted ['\'', '\''] value).toList = _
  rw [String.toList_append, String.toList_append, String.toList_append, henv, hequals, hquoted]
  simp only [List.append_assoc, List.cons_append, List.nil_append]

theorem readAssignment_exportLine {name : String} (hname : isName name.toList = true)
    (value : String) :
    readAssignment (Shell.powershell.exportLine name value).toList
      = (readQuoted (doubled value.toList ++ ['\''])).map fun (text, after) =>
        ⟨name, String.ofList text, after⟩ := by
  have hcontinues := continuesName_of_isName hname
  have hspace : ¬ continuesName ' ' = true := by decide
  have hmark : isQuoteMark '\'' = true := by decide
  rw [toList_exportLine]
  simp only [readAssignment]
  rw [List.takeWhile_append_of_pos hcontinues, List.dropWhile_append_of_pos hcontinues,
    List.takeWhile_cons_of_neg hspace, List.dropWhile_cons_of_neg hspace, List.append_nil]
  simp [skipSpaces, hname, hmark, String.ofList_toList]

/-- The line that sets a variable is read as the assignment of the value, with nothing after it, if
and only if the value has no typographic marks. -/
theorem assignment_faithful_iff {name : String} (hname : isName name.toList = true)
    (value : String) :
    readAssignment (Shell.powershell.exportLine name value).toList = some ⟨name, value, []⟩ ↔
      ∀ c ∈ typographicMarks, c ∉ value.toList := by
  rw [readAssignment_exportLine hname]
  constructor
  · intro h
    obtain ⟨⟨text, after⟩, hread, heq⟩ := Option.map_eq_some_iff.1 h
    obtain ⟨-, rfl, rfl⟩ := Assignment.mk.inj heq
    rw [String.toList_ofList] at hread ⊢
    have hwritten := countP_doubled text
    have hcount := countP_of_readQuoted hread
    have hclosing : ['\''].countP isQuoteMark = 1 := by decide
    rw [List.countP_append, hclosing, List.countP_nil] at hcount
    have hnone : text.countP isTypographic = 0 := by omega
    intro c hc hmem
    exact List.countP_eq_zero.1 hnone c hmem (List.contains_iff_mem.2 hc)
  · intro h
    have hread : readQuoted (doubled value.toList ++ ['\'']) = some (value.toList, []) :=
      readQuoted_doubled h fun c hc => nomatch hc
    rw [hread]
    simp only [Option.map_some, String.ofList_toList]

theorem assignment_faithful_iff_quoting :
    readAssignment (Shell.powershell.exportLine "MOTTO" "it's \"$HOME\"\n`n").toList
      = some ⟨"MOTTO", "it's \"$HOME\"\n`n", []⟩ :=
  (assignment_faithful_iff (by decide) _).2 (by simp [typographicMarks])

/-- A typographic apostrophe ends the value, and the rest of it is left for the shell to run. -/
theorem typographic_mark_ends_value :
    isName "MOTTO".toList = true ∧
      readAssignment (Shell.powershell.exportLine "MOTTO" "it’s").toList
        = some ⟨"MOTTO", "it", ['s', '\'']⟩ := by
  decide +kernel

end CrossShell.PowerShell
