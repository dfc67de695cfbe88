/-!
Texts that a machine reads character by character.

A machine is a step function that may refuse a character. `Leads step s text s'` says that the text
takes it from one state to another; what two texts do one after the other is what their
concatenation does.
-/

set_option autoImplicit false

namespace CrossShell.Text

variable {σ : Type} {step : σ → Char → Option σ} {s s' s'' : σ} {c : Char} {text text' : List Char}

/-- A text leads from one state to another. -/
def Leads (step : σ → Char → Option σ) (s : σ) (text : List Char) (s' : σ) : Prop :=
  text.foldlM step s = some s'

theorem Leads.nil (step : σ → Char → Option σ) (s : σ) : Leads step s [] s := rfl

theorem Leads.cons (h : step s c = some s') (h' : Leads step s' text s'') :
    Leads step s (c :: text) s'' := by
  unfold Leads at h' ⊢
  rw [List.foldlM_cons, h]
  exact h'

theorem Leads.single (h : step s c = some s') : Leads step s [c] s' :=
  Leads.cons h (Leads.nil step s')

theorem Leads.append (h : Leads step s text s') (h' : Leads step s' text' s'') :
    Leads step s (text ++ text') s'' := by
  unfold Leads at h h' ⊢
  rw [List.foldlM_append, h]
  exact h'

/-- If a machine takes every character of a text into the same kind of state, it takes all of them
into one. -/
theorem Leads.each (after : List Char → σ)
    (h : ∀ read, ∀ c ∈ text, step (after read) c = some (after (read ++ [c]))) (read : List Char) :
    Leads step (after read) text (after (read ++ text)) := by
  induction text generalizing read with
  | nil =>
    rw [List.append_nil]
    exact Leads.nil step _
  | cons c text ih =>
    have hrest := ih (fun read d hd => h read d (List.mem_cons_of_mem c hd)) (read ++ [c])
    rw [List.append_assoc] at hrest
    exact Leads.cons (h read c List.mem_cons_self) hrest

theorem Leads.exists_step (h : Leads step s (c :: text) s'') :
    ∃ s', step s c = some s' ∧ Leads step s' text s'' := by
  unfold Leads at h
  rw [List.foldlM_cons] at h
  exact Option.bind_eq_some_iff.1 h

/-- What comes after a text is read from where the text leads. -/
theorem Leads.rest (h : Leads step s text s') (h' : Leads step s (text ++ text') s'') :
    Leads step s' text' s'' := by
  unfold Leads at h h' ⊢
  rw [List.foldlM_append, h] at h'
  exact h'

end CrossShell.Text
