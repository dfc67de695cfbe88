import CrossShell.Proofs.Nix.Literal

/-!
A quoted text ends where its own last quote is, whatever comes after it.

`readString` takes a string off the front of a text by every rule of the language, and tells an
interpolation from a string without an end. The machine of `Literal` refuses some texts that have a
reading; what it accepts, `readString` reads in the same way.
-/

set_option autoImplicit false

namespace CrossShell.Nix.Literal

open Text (Leads)

/-! ## Reading by every rule -/

/-- What comes of reading a string at the front of a text. -/
inductive Reading where
  /-- The string has a value and leaves a rest. -/
  | ended (value rest : List Char)
  /-- An interpolation starts after these characters. -/
  | interpolation (value : List Char)
  | unterminated
  /-- The text does not start with a quote. -/
  | noString
  deriving DecidableEq, Repr

/-- The rest of a string of which some characters are read. -/
def readBody (value : List Char) : List Char → Reading
  | [] => .unterminated
  | [c] => if c = '"' then .ended value [] else .unterminated
  | c :: d :: rest =>
    if c = '"' then .ended value (d :: rest)
    else if c = '\\' then readBody (value ++ [unescape d]) rest
    else if c = '$' then
      if d = '\x7b' then .interpolation value
      else if d = '"' ∨ d = '\\' then readBody (value ++ ['$']) (d :: rest)
      else readBody (value ++ ['$', d]) rest
    else readBody (value ++ [if c = '\r' then '\n' else c]) (d :: rest)

def readString : List Char → Reading
  | [] => .noString
  | c :: rest => if c = '"' then readBody [] rest else .noString

theorem readBody_quote (value rest : List Char) :
    readBody value ('"' :: rest) = .ended value rest := by
  cases rest <;> simp [readBody]

theorem readBody_ordinary {c : Char} (hquote : c ≠ '"') (hback : c ≠ '\\') (hdollar : c ≠ '$')
    (hreturn : c ≠ '\r') (value rest : List Char) :
    readBody value (c :: rest) = readBody (value ++ [c]) rest := by
  cases rest <;> simp [readBody, hquote, hback, hdollar, hreturn]

/-! ## What the machine reads -/

/-- What comes of reading on from a state. The mark that a state remembers stands before the rest
again. -/
def State.resume (s : State) (rest : List Char) : Reading :=
  match s.mode with
  | .plain => readBody s.value rest
  | .escaped => readBody s.value ('\\' :: rest)
  | .dollar => readBody s.value ('$' :: rest)
  | .closed => .ended s.value rest

theorem resume_step {s s' : State} {c : Char} (h : step s c = some s') (rest : List Char) :
    s.resume (c :: rest) = s'.resume rest := by
  obtain ⟨mode, value⟩ := s
  cases mode with
  | plain =>
    by_cases hquote : c = '"'
    · subst hquote
      cases h
      exact readBody_quote value rest
    by_cases hback : c = '\\'
    · subst hback
      cases h
      rfl
    by_cases hdollar : c = '$'
    · subst hdollar
      cases h
      rfl
    simp only [step, if_neg hquote, if_neg hback, if_neg hdollar] at h
    split at h
    · cases h
    · next hreturn =>
      cases h
      exact readBody_ordinary hquote hback hdollar hreturn value rest
  | escaped =>
    cases h
    rfl
  | dollar =>
    -- the dollar sign stands before `c` again, and both are looked at together
    by_cases hquote : c = '"'
    · subst hquote
      cases h
      exact readBody_quote (value ++ ['$']) rest
    by_cases hback : c = '\\'
    · subst hback
      cases h
      rfl
    simp only [step, if_neg hquote, if_neg hback] at h
    split at h
    · cases h
    · next hneither =>
      cases h
      have hbrace : c ≠ '\x7b' := fun heq => hneither (Or.inl heq)
      simp [State.resume, readBody, hquote, hback, hbrace]
  | closed => cases h

/-- What the machine accepts is read in the same way by every rule. -/
theorem resume_of_leads {s s' : State} {text : List Char} (h : Leads step s text s')
    (rest : List Char) : s.resume (text ++ rest) = s'.resume rest := by
  induction text generalizing s with
  | nil =>
    cases h
    rfl
  | cons c text ih =>
    obtain ⟨next, hstep, hnext⟩ := h.exists_step
    rw [List.cons_append, resume_step hstep, ih hnext]

/-- A quoted text is read as the text, without an interpolation, and leaves all that comes after
it. -/
theorem readString_quote (value rest : String) :
    readString (quote value ++ rest).toList = .ended value.toList rest.toList := by
  have hquoted : (quote value ++ rest).toList
      = '"' :: ((escape value.toList ++ ['"']) ++ rest.toList) := by
    simp [quote]
  have hbody := resume_of_leads (leads_quote value.toList) rest.toList
  rw [hquoted]
  exact hbody

/-- Without the escape of its dollar sign the text would be an interpolation. -/
example : readString ['"', '$', '\x7b', 'x', '\x7d', '"'] = .interpolation [] := by decide

end CrossShell.Nix.Literal
