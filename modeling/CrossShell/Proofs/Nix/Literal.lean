import CrossShell.Nix.Lexeme
import CrossShell.Proofs.Text.Leads

/-!
How the Nix language reads a string between its quotes, and that a quoted text is read as itself.

A backslash takes the next character with it. A dollar sign takes the next character too, so that a
brace after two dollar signs opens nothing, but not a quote or a backslash; with a brace it opens an
interpolation, which is refused here. So is a carriage return that stands for itself, which the
language takes for a line feed.
-/

set_option autoImplicit false

namespace CrossShell.Nix.Literal

open Text (Leads)

/-! ## The reader -/

inductive Mode where
  | plain
  /-- After a backslash. -/
  | escaped
  /-- After a dollar sign that did not belong to another one. -/
  | dollar
  /-- After the quote at the end. -/
  | closed
  deriving DecidableEq, Repr

/-- Where a reader is, and the characters that it has read. -/
structure State where
  mode : Mode
  value : List Char
  deriving DecidableEq, Repr

/-- The character that a letter after a backslash stands for. -/
def unescape (c : Char) : Char :=
  if c = 'n' then '\n' else if c = 'r' then '\r' else if c = 't' then '\t' else c

def step (s : State) (c : Char) : Option State :=
  match s.mode with
  | .plain =>
    if c = '"' then some ⟨.closed, s.value⟩
    else if c = '\\' then some ⟨.escaped, s.value⟩
    else if c = '$' then some ⟨.dollar, s.value⟩
    else if c = '\r' then none
    else some ⟨.plain, s.value ++ [c]⟩
  | .escaped => some ⟨.plain, s.value ++ [unescape c]⟩
  | .dollar =>
    if c = '"' then some ⟨.closed, s.value ++ ['$']⟩
    else if c = '\\' then some ⟨.escaped, s.value ++ ['$']⟩
    else if c = '\x7b' ∨ c = '\r' then none
    else some ⟨.plain, s.value ++ ['$', c]⟩
  | .closed => none

/-! ## Quoted texts -/

/-- What stands for the first character of a text that goes on with `rest`. -/
def escapeHead (c : Char) (rest : List Char) : List Char :=
  if c = '$' ∧ rest.head? = some '\x7b' then ['\\', '$'] else escapeChar c

theorem escape_cons (c : Char) (rest : List Char) :
    escape (c :: rest) = escapeHead c rest ++ escape rest := rfl

/-- A character stands after a backslash, or as itself. -/
theorem escapeHead_cases (c : Char) (rest : List Char) :
    (∃ e, escapeHead c rest = ['\\', e] ∧ unescape e = c) ∨
      (escapeHead c rest = [c] ∧ c ≠ '"' ∧ c ≠ '\\' ∧ c ≠ '\r' ∧
        (c = '$' → rest.head? ≠ some '\x7b')) := by
  unfold escapeHead
  by_cases hopen : c = '$' ∧ rest.head? = some '\x7b'
  · rw [if_pos hopen, hopen.1]
    exact Or.inl ⟨'$', rfl, rfl⟩
  rw [if_neg hopen]
  by_cases hquote : c = '"'
  · exact Or.inl ⟨'"', by rw [hquote]; decide, by rw [hquote]; decide⟩
  by_cases hback : c = '\\'
  · exact Or.inl ⟨'\\', by rw [hback]; decide, by rw [hback]; decide⟩
  by_cases hfeed : c = '\n'
  · exact Or.inl ⟨'n', by rw [hfeed]; decide, by rw [hfeed]; decide⟩
  by_cases htab : c = '\t'
  · exact Or.inl ⟨'t', by rw [htab]; decide, by rw [htab]; decide⟩
  by_cases hreturn : c = '\r'
  · exact Or.inl ⟨'r', by rw [hreturn]; decide, by rw [hreturn]; decide⟩
  refine Or.inr ⟨?_, hquote, hback, hreturn, fun hdollar hhead => hopen ⟨hdollar, hhead⟩⟩
  unfold escapeChar
  rw [if_neg hquote, if_neg hback, if_neg hfeed, if_neg htab, if_neg hreturn]

theorem step_plain_ordinary {c : Char} (hquote : c ≠ '"') (hback : c ≠ '\\')
    (hreturn : c ≠ '\r') (hdollar : c ≠ '$') (value : List Char) :
    step ⟨.plain, value⟩ c = some ⟨.plain, value ++ [c]⟩ := by
  simp only [step, if_neg hquote, if_neg hback, if_neg hdollar, if_neg hreturn]

theorem step_dollar_ordinary {c : Char} (hquote : c ≠ '"') (hback : c ≠ '\\')
    (hreturn : c ≠ '\r') (hbrace : c ≠ '\x7b') (value : List Char) :
    step ⟨.dollar, value⟩ c = some ⟨.plain, value ++ ['$', c]⟩ := by
  have hneither : ¬ (c = '\x7b' ∨ c = '\r') := not_or.2 ⟨hbrace, hreturn⟩
  simp only [step, if_neg hquote, if_neg hback, if_neg hneither]

/-- A quoted text is read as itself, also right after a dollar sign if it does not start with a
brace. The two cases need each other: a dollar sign leads from the first to the second, and whatever
follows it leads back. -/
theorem leads_escape (text : List Char) :
    (∀ value, Leads step ⟨.plain, value⟩ (escape text ++ ['"']) ⟨.closed, value ++ text⟩) ∧
      ∀ value, text.head? ≠ some '\x7b' →
        Leads step ⟨.dollar, value⟩ (escape text ++ ['"']) ⟨.closed, value ++ '$' :: text⟩ := by
  induction text with
  | nil =>
    refine ⟨fun value => ?_, fun value _ => Leads.single rfl⟩
    rw [List.append_nil]
    exact Leads.single rfl
  | cons c rest ih =>
    obtain ⟨hplain, hdollar⟩ := ih
    have hassoc : ∀ value : List Char, value ++ c :: rest = value ++ [c] ++ rest := by simp
    have hassoc' : ∀ value : List Char,
        value ++ '$' :: c :: rest = value ++ ['$'] ++ [c] ++ rest := by simp
    rw [escape_cons, List.append_assoc]
    obtain ⟨e, hhead, he⟩ | ⟨hhead, hquote, hback, hreturn, hnext⟩ := escapeHead_cases c rest
    · rw [hhead]
      constructor
      · intro value
        rw [hassoc, ← he]
        exact Leads.cons rfl (Leads.cons rfl (hplain _))
      · intro value _
        rw [hassoc', ← he]
        exact Leads.cons rfl (Leads.cons rfl (hplain _))
    · rw [hhead]
      constructor
      · intro value
        by_cases hc : c = '$'
        · subst hc
          exact Leads.cons rfl (hdollar value (hnext rfl))
        · rw [hassoc]
          exact Leads.cons (step_plain_ordinary hquote hback hreturn hc value) (hplain _)
      · intro value hopen
        have hbrace : c ≠ '\x7b' := fun heq => hopen (congrArg some heq)
        rw [hassoc', List.append_assoc value]
        exact Leads.cons (step_dollar_ordinary hquote hback hreturn hbrace value) (hplain _)

/-- What stands between the quotes of a text and the quote at the end are read as the text. -/
theorem leads_quote (text : List Char) :
    Leads step ⟨.plain, []⟩ (escape text ++ ['"']) ⟨.closed, text⟩ :=
  (leads_escape text).1 []

end CrossShell.Nix.Literal
