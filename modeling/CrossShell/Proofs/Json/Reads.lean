import CrossShell.Json.Typed

/-!
What a reader takes off a text.

`Reads r text a` says that the reader `r` takes exactly `text` off whatever follows it and answers
`a`. Two texts that one reader takes are told apart by what it answers, whatever follows them
(`Reads.unique`). The steps that readers are made of are here, each on the character that it looks
for.
-/

set_option autoImplicit false

namespace CrossShell.Json

variable {α β σ : Type}

/-- The reader takes the text off whatever follows it and answers the value. -/
def Reads (r : Reader α) (text : List Char) (a : α) : Prop :=
  ∀ rest, r (text ++ rest) = .ok a rest

/-- A reader that takes both texts answers the same and leaves the same. -/
theorem Reads.unique {r : Reader α} {text text' rest rest' : List Char} {a a' : α}
    (h : Reads r text a) (h' : Reads r text' a') (heq : text ++ rest = text' ++ rest') :
    a = a' ∧ rest = rest' := by
  have hr := h rest
  rw [heq, h' rest'] at hr
  injection hr with ha hrest
  exact ⟨ha.symm, hrest.symm⟩

namespace Reader

/-! ## Steps -/

theorem bind_ok {r : Reader α} {f : α → Reader β} {s s' : List Char} {a : α}
    (h : r s = .ok a s') : (r >>= f) s = f a s' := by
  simp only [bind, EStateM.bind, h]

theorem map_ok {r : Reader α} {f : α → β} {s s' : List Char} {a : α}
    (h : r s = .ok a s') : (f <$> r) s = .ok (f a) s' := by
  simp only [Functor.map, EStateM.map, h]

theorem peek_cons {c : Char} (h : isSpace c = false) (s : List Char) :
    peek (c :: s) = .ok (some c) (c :: s) := by
  simp [peek, h]

theorem advance_cons (c : Char) (s : List Char) : advance (c :: s) = .ok () s := rfl

theorem enclosed_ok {body : Reader α} {close : Reader Unit} {s s' s'' : List Char} {a : α}
    (hbody : body s = .ok a s') (hclose : close s' = .ok () s'') :
    enclosed body close s = .ok a s'' := by
  simp only [enclosed, hbody, hclose]

/-! ## Strings -/

theorem stringRest_close (before rest : List Char) :
    stringRest before ('"' :: rest) = .ok before.reverse rest := by
  rw [stringRest.eq_def]
  simp

theorem stringRest_letter (before rest : List Char) {e c : Char} (he : e ≠ 'u')
    (h : escaped? e = some c) :
    stringRest before ('\\' :: e :: rest) = stringRest (c :: before) rest := by
  rw [stringRest.eq_def]
  simp [he, h]

theorem stringRest_plain (before rest : List Char) {c : Char} (hq : c ≠ '"') (hb : c ≠ '\\')
    (hc : ¬ c.toNat < 0x20) :
    stringRest before (c :: rest) = stringRest (c :: before) rest := by
  rw [stringRest.eq_def]
  simp [hq, hb, hc]

/-! ## Items and keys -/

/-- How the text of a value starts: with no blank and with nothing that stands after a value. -/
def Opens (text : List Char) : Prop :=
  ∃ c t, text = c :: t ∧ isSpace c = false ∧ c ≠ ']'

theorem nextItem_first {s : List Char} (h : Opens s) : nextItem true s = .ok true s := by
  obtain ⟨c, t, rfl, hc, hne⟩ := h
  unfold nextItem
  rw [bind_ok (peek_cons hc t)]
  simp [hne, pure, EStateM.pure]

theorem nextItem_close (first : Bool) (rest : List Char) :
    nextItem first (']' :: rest) = .ok false (']' :: rest) := by
  unfold nextItem
  rw [bind_ok (peek_cons (by decide) _)]
  rfl

theorem closeList_bracket (rest : List Char) : closeList (']' :: rest) = .ok () rest := rfl

theorem nextKey_close (first : Bool) (rest : List Char) :
    nextKey first ('\x7d' :: rest) = .ok none ('\x7d' :: rest) := rfl

theorem colon_cons (s : List Char) : colon (':' :: s) = .ok () s := rfl

theorem closeObject_brace (rest : List Char) : closeObject ('\x7d' :: rest) = .ok () rest := rfl

theorem fieldsFrom_close (fields : Fields σ) (fuel : Nat) (first : Bool) (state : σ)
    (rest : List Char) :
    fieldsFrom fields (fuel + 1) first state ('\x7d' :: rest) = .ok state ('\x7d' :: rest) := by
  rw [fieldsFrom, bind_ok (nextKey_close first rest)]
  rfl

end Reader

/-! ## Whole texts -/

/-- A text that a reader takes decodes to what it answers. -/
theorem decode_of_reads {r : Reader α} {text : String} {a : α} (h : Reads r text.toList a) :
    decode r text = .ok a := by
  have hr := h []
  rw [List.append_nil] at hr
  have hwhole : (do let a ← r; Reader.atEnd; return a : Reader α) text.toList = .ok a [] := by
    rw [Reader.bind_ok hr, Reader.bind_ok (show Reader.atEnd [] = .ok () [] from rfl)]
    rfl
  simp only [decode, hwhole]

end CrossShell.Json
