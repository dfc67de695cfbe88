import CrossShell.Proofs.Nix.Literal
import CrossShell.Proofs.Text.Names

/-!
How a text of the Nix language is cut into lexemes.

The lexer reads character by character. A name goes on as long as it can, a sharp sign starts a
comment, and only the marks that make up functions, lists, sets and applications are known: a text
with any other character outside strings and comments is refused.
-/

set_option autoImplicit false

namespace CrossShell.Nix

open Text (Leads)

/-! ## Lexemes -/

inductive Mark where
  | openParen
  | closeParen
  | openBrace
  | closeBrace
  | openBracket
  | closeBracket
  | comma
  | colon
  | semicolon
  | equals
  | dot
  deriving DecidableEq, Repr

def Mark.ofChar? : Char → Option Mark
  | '(' => some .openParen
  | ')' => some .closeParen
  | '\x7b' => some .openBrace
  | '\x7d' => some .closeBrace
  | '[' => some .openBracket
  | ']' => some .closeBracket
  | ',' => some .comma
  | ':' => some .colon
  | ';' => some .semicolon
  | '=' => some .equals
  | '.' => some .dot
  | _ => none

/-- A lexeme: the names that are no keywords are told from those that are. -/
inductive Lexeme where
  | name (text : String)
  | keyword (text : String)
  | text (value : String)
  | mark (mark : Mark)
  deriving DecidableEq, Repr

namespace Lexer

/-! ## The lexer -/

/-- The names that mean something else. -/
def reserved : List String :=
  ["assert", "else", "if", "in", "inherit", "let", "or", "rec", "then", "with"]

/-- Whether a name goes on with a character. -/
def continues (c : Char) : Bool :=
  Text.continuesName c || c == '\'' || c == '-'

/-- Whether a character separates lexemes and is none. -/
def isBlank (c : Char) : Bool :=
  c == ' ' || c == '\t' || c == '\r' || c == '\n'

def word (chars : List Char) : Lexeme :=
  if String.ofList chars ∈ reserved then .keyword (String.ofList chars)
  else .name (String.ofList chars)

inductive Mode where
  | between
  | comment
  | word (chars : List Char)
  | string (literal : Literal.State)
  deriving DecidableEq, Repr

/-- What a character does between lexemes. -/
def start (c : Char) : Option (Mode × List Lexeme) :=
  if Text.startsName c then some (.word [c], [])
  else if isBlank c then some (.between, [])
  else if c = '#' then some (.comment, [])
  else if c = '"' then some (.string ⟨.plain, []⟩, [])
  else (Mark.ofChar? c).map fun m => (.between, [.mark m])

/-- What a character does: where the lexer is then, and the lexemes that are finished. -/
def move (mode : Mode) (c : Char) : Option (Mode × List Lexeme) :=
  match mode with
  | .between => start c
  | .comment => if c = '\n' ∨ c = '\r' then some (.between, []) else some (.comment, [])
  | .word chars =>
    if continues c then some (.word (chars ++ [c]), [])
    else (start c).map fun (mode, lexemes) => (mode, word chars :: lexemes)
  | .string literal =>
    (Literal.step literal c).map fun literal =>
      if literal.mode = .closed then (.between, [.text (String.ofList literal.value)])
      else (.string literal, [])

/-- Where a lexer is, and the lexemes that it has read. -/
structure State where
  mode : Mode
  lexemes : List Lexeme
  deriving DecidableEq, Repr

def step (s : State) (c : Char) : Option State :=
  (move s.mode c).map fun (mode, lexemes) => ⟨mode, s.lexemes ++ lexemes⟩

/-- The lexemes of a text, which has to end outside of them. -/
def read (text : List Char) : Option (List Lexeme) :=
  match text.foldlM step ⟨.between, []⟩ with
  | some ⟨.between, lexemes⟩ => some lexemes
  | _ => none

/-! ## Texts read one after the other -/

variable {mode mode' : Mode} {text text' : List Char} {lexemes lexemes' : List Lexeme} {c : Char}

/-- What was read before a text does not matter to it. -/
theorem leads_after (before : List Lexeme) (h : Leads step ⟨mode, lexemes⟩ text ⟨mode', lexemes'⟩) :
    Leads step ⟨mode, before ++ lexemes⟩ text ⟨mode', before ++ lexemes'⟩ := by
  induction text generalizing mode lexemes with
  | nil =>
    cases h
    exact Leads.nil step _
  | cons c text ih =>
    unfold Leads at h
    rw [List.foldlM_cons] at h
    cases hmove : move mode c with
    | none =>
      have hstep : step ⟨mode, lexemes⟩ c = none := by simp only [step, hmove, Option.map_none]
      rw [hstep] at h
      cases h
    | some moved =>
      have hstep : ∀ lexemes, step ⟨mode, lexemes⟩ c = some ⟨moved.1, lexemes ++ moved.2⟩ := by
        intro lexemes
        simp only [step, hmove, Option.map_some]
      rw [hstep] at h
      have hrest := ih h
      rw [← List.append_assoc] at hrest
      exact Leads.cons (hstep _) hrest

/-- A text that starts and ends between lexemes is read as some of them. -/
def Lexes (text : List Char) (lexemes : List Lexeme) : Prop :=
  Leads step ⟨.between, []⟩ text ⟨.between, lexemes⟩

instance (text : List Char) (lexemes : List Lexeme) : Decidable (Lexes text lexemes) :=
  inferInstanceAs (Decidable (text.foldlM step ⟨.between, []⟩ = some ⟨.between, lexemes⟩))

theorem Lexes.append (h : Lexes text lexemes) (h' : Lexes text' lexemes') :
    Lexes (text ++ text') (lexemes ++ lexemes') := by
  have hafter := leads_after lexemes h'
  rw [List.append_nil] at hafter
  exact Leads.append h hafter

theorem read_of_lexes (h : Lexes text lexemes) : read text = some lexemes := by
  unfold read
  rw [h]

/-! ## Names -/

theorem leads_word {chars : List Char} (h : ∀ c ∈ chars, continues c = true) (before : List Char) :
    Leads step ⟨.word before, []⟩ chars ⟨.word (before ++ chars), []⟩ := by
  refine Leads.each (fun chars => (⟨.word chars, []⟩ : State)) (fun before c hc => ?_) before
  simp only [step, move, if_pos (h c hc), Option.map_some, List.append_nil]

/-- A name ends before a character that it cannot go on with. -/
theorem leads_word_end (h : continues c = false) (chars : List Char)
    (hrest : Lexes (c :: text) lexemes) :
    Leads step ⟨.word chars, []⟩ (c :: text) ⟨.between, word chars :: lexemes⟩ := by
  unfold Lexes Leads at hrest
  rw [List.foldlM_cons] at hrest
  cases hstart : start c with
  | none =>
    have hstep : step ⟨.between, []⟩ c = none := by simp only [step, move, hstart, Option.map_none]
    rw [hstep] at hrest
    cases hrest
  | some started =>
    have hstep : step ⟨.between, []⟩ c = some ⟨started.1, started.2⟩ := by
      simp only [step, move, hstart, Option.map_some, List.nil_append]
    have hstep' : step ⟨.word chars, []⟩ c = some ⟨started.1, word chars :: started.2⟩ := by
      simp only [step, move, h, hstart, Bool.false_eq_true, if_false, Option.map_some,
        List.nil_append]
    rw [hstep] at hrest
    exact Leads.cons hstep' (leads_after [word chars] hrest)

theorem startsName_of_isIdentifier {name : String} (h : isIdentifier name = true) :
    ∃ c rest, name.toList = c :: rest ∧ Text.startsName c = true ∧
      (∀ d ∈ rest, continues d = true) ∧ name ∉ reserved := by
  unfold isIdentifier at h
  cases hchars : name.toList with
  | nil => rw [hchars] at h; cases h
  | cons c rest =>
    rw [hchars] at h
    simp only [Bool.and_eq_true, Bool.not_eq_true'] at h
    obtain ⟨⟨hstart, hrest⟩, hkeyword⟩ := h
    refine ⟨c, rest, rfl, ?_, ?_, ?_⟩
    · rw [Text.startsName_eq]
      exact hstart
    · intro d hd
      have hcontinues := List.all_eq_true.1 hrest d hd
      unfold continues
      rw [Text.continuesName_eq, Bool.or_assoc, Bool.or_comm (d == '\''), ← Bool.or_assoc]
      exact hcontinues
    · have hsame : ∀ word ∈ reserved, keywords.contains word = true := by decide
      intro hmem
      rw [hsame name hmem] at hkeyword
      cases hkeyword

/-- An identifier is read as a name, up to a character that it cannot go on with. -/
theorem lexes_name {name : String} (hname : isIdentifier name = true) (hc : continues c = false)
    (hrest : Lexes (c :: text) lexemes) :
    Lexes (name.toList ++ c :: text) (.name name :: lexemes) := by
  obtain ⟨first, rest, hchars, hfirst, hcontinues, hreserved⟩ := startsName_of_isIdentifier hname
  have hword : word name.toList = .name name := by
    unfold word
    rw [String.ofList_toList, if_neg hreserved]
  have hstep : step ⟨.between, []⟩ first = some ⟨.word [first], []⟩ := by
    simp only [step, move, start, if_pos hfirst, Option.map_some, List.append_nil]
  have hend := leads_word_end hc name.toList hrest
  rw [hword] at hend
  rw [hchars] at hend ⊢
  exact (Leads.cons hstep (leads_word hcontinues [first])).append hend

/-! ## Strings -/

/-- A string is one lexeme, which ends where the reader of strings ends. -/
theorem leads_string {literal literal' : Literal.State}
    (h : Leads Literal.step literal text literal') (hopen : literal.mode ≠ .closed)
    (hclosed : literal'.mode = .closed) :
    Leads step ⟨.string literal, []⟩ text
      ⟨.between, [.text (String.ofList literal'.value)]⟩ := by
  induction text generalizing literal with
  | nil =>
    cases h
    exact absurd hclosed hopen
  | cons c text ih =>
    unfold Leads at h
    rw [List.foldlM_cons] at h
    cases hstep : Literal.step literal c with
    | none => rw [hstep] at h; cases h
    | some next =>
      rw [hstep] at h
      by_cases hnext : next.mode = .closed
      · have hlast : text = [] := by
          cases text with
          | nil => rfl
          | cons d text =>
            have hnone : Literal.step next d = none := by
              unfold Literal.step
              rw [hnext]
            have hfail : (d :: text).foldlM Literal.step next = some literal' := h
            rw [List.foldlM_cons, hnone] at hfail
            cases hfail
        subst hlast
        cases h
        have hmove : step ⟨.string literal, []⟩ c
            = some ⟨.between, [.text (String.ofList literal'.value)]⟩ := by
          simp only [step, move, hstep, Option.map_some, if_pos hnext, List.nil_append]
        exact Leads.single hmove
      · have hmove : step ⟨.string literal, []⟩ c = some ⟨.string next, []⟩ := by
          simp only [step, move, hstep, Option.map_some, if_neg hnext, List.append_nil]
        exact Leads.cons hmove (ih h hnext)

/-- A quoted text is read as that text. -/
theorem lexes_quote (value : String) : Lexes (quote value).toList [.text value] := by
  have hvalue := leads_string (Literal.leads_quote value.toList) (by decide) rfl
  rw [String.ofList_toList] at hvalue
  unfold quote
  rw [String.toList_ofList]
  exact Leads.cons rfl hvalue

/-! ## Texts put together -/

theorem lexes_append {a b : String} (ha : Lexes a.toList lexemes) (hb : Lexes b.toList lexemes') :
    Lexes (a ++ b).toList (lexemes ++ lexemes') := by
  rw [String.toList_append]
  exact ha.append hb

/-- A name before a text that starts with a character it cannot go on with. -/
theorem lexes_name_append {name rest : String} (hname : isIdentifier name = true)
    (hhead : rest.toList.head?.any (fun c => !continues c) = true)
    (hrest : Lexes rest.toList lexemes) : Lexes (name ++ rest).toList (.name name :: lexemes) := by
  rw [String.toList_append]
  cases hchars : rest.toList with
  | nil => rw [hchars] at hhead; cases hhead
  | cons c chars =>
    rw [hchars] at hhead hrest
    rw [List.head?_cons, Option.any_some, Bool.not_eq_true'] at hhead
    exact lexes_name hname hhead hrest

theorem lexes_join {α : Type} {items : List α} {text : α → String} {lexemes : α → List Lexeme}
    (h : ∀ item ∈ items, Lexes (text item).toList (lexemes item)) :
    Lexes (String.join (items.map text)).toList (items.flatMap lexemes) := by
  induction items with
  | nil =>
    rw [List.map_nil, String.join_nil]
    exact Leads.nil step _
  | cons item items ih =>
    rw [List.map_cons, String.join_cons, List.flatMap_cons]
    exact lexes_append (h item List.mem_cons_self)
      (ih fun item' hitem => h item' (List.mem_cons_of_mem item hitem))

end Lexer

end CrossShell.Nix
