import CrossShell.Script.Token

/-!
The tokens of a script from the tokens of its pieces.

A piece `Lexes` if it is cut into the same tokens whatever comes after it. Such pieces can be put
together, so a script is cut piece by piece; a string between quotes is a piece for any text without
quotes, escapes and line ends.
-/

set_option autoImplicit false

namespace CrossShell.Script

/-! ## Line ends -/

theorem oneNewline_of_not_mem {s : List Char} (h : '\r' ∉ s) : oneNewline s = s := by
  induction s using oneNewline.induct with
  | case1 => rfl
  | case2 rest ih => exact absurd List.mem_cons_self h
  | case3 rest ih => exact absurd (List.mem_cons_of_mem _ List.mem_cons_self) h
  | case4 rest hrest ih => exact absurd List.mem_cons_self h
  | case5 c rest h₁ h₂ h₃ ih =>
    rw [oneNewline, ih fun hmem => h (List.mem_cons_of_mem c hmem)]
    · exact h₁
    · exact h₂
    · exact h₃

/-! ## Strings -/

/-- The text between two quotes stands for itself. -/
theorem Literal.short_of_plain {quote : Char} {text rest : List Char} {fuel : Nat}
    (hfuel : text.length < fuel)
    (hplain : ∀ c ∈ text, c ≠ quote ∧ c ≠ '\n' ∧ c ≠ '\\') :
    short quote fuel (text ++ quote :: rest) = some (bytesOf text, rest) := by
  induction text generalizing fuel with
  | nil =>
    cases fuel with
    | zero => cases hfuel
    | succ fuel => exact if_pos rfl
  | cons c text ih =>
    cases fuel with
    | zero => cases hfuel
    | succ fuel =>
      obtain ⟨hquote, hline, hescape⟩ := hplain c List.mem_cons_self
      have hrest := ih (Nat.lt_of_succ_lt_succ hfuel)
        fun c' hc' => hplain c' (List.mem_cons_of_mem c hc')
      have hbytes : bytesOf (c :: text) = bytesOf [c] ++ bytesOf text := by
        simp only [bytesOf, List.flatMap_cons, List.flatMap_nil, List.append_nil]
      rw [List.cons_append, short, if_neg hquote, if_neg hline, if_neg hescape, hbytes]
      simp only [hrest, Option.bind_eq_bind, Option.bind_some, pure]

/-! ## Pieces -/

/-- The piece has no line ends of other kinds and is cut into the tokens, whatever comes after
it. -/
structure Lexes (piece : List Char) (ts : List Token) : Prop where
  plain : '\r' ∉ piece
  cut : ∃ count ≤ piece.length, ∀ fuel rest,
    Token.tokensFrom (fuel + count) (piece ++ rest) = ts ++ Token.tokensFrom fuel rest

namespace Lexes

variable {piece piece' : List Char} {ts ts' : List Token}

theorem append (h : Lexes piece ts) (h' : Lexes piece' ts') :
    Lexes (piece ++ piece') (ts ++ ts') := by
  obtain ⟨hplain, count, hcount, hcut⟩ := h
  obtain ⟨hplain', count', hcount', hcut'⟩ := h'
  refine ⟨fun hmem => (List.mem_append.1 hmem).elim hplain hplain', count' + count, ?_, ?_⟩
  · rw [List.length_append]
    omega
  · intro fuel rest
    rw [← Nat.add_assoc, List.append_assoc, hcut, hcut', List.append_assoc]

theorem ofList (h : Lexes piece ts) : Lexes (String.ofList piece).toList ts := by
  rw [String.toList_ofList]
  exact h

/-- A comment is dropped with its line. -/
theorem comment {line : List Char} (hplain : '\r' ∉ '-' :: '-' :: line)
    (hshort : line.head? ≠ some '[') (hends : line.getLast? = some '\n')
    (hline : '\n' ∉ line.dropLast) : Lexes ('-' :: '-' :: line) [] := by
  refine ⟨hplain, 2, by simp, ?_⟩
  intro fuel rest
  have hdrop : (line ++ rest).dropWhile (· ≠ '\n') = '\n' :: rest := by
    obtain ⟨before, rfl⟩ := List.getLast?_eq_some_iff.1 hends
    rw [List.dropLast_concat] at hline
    have hall : ∀ c ∈ before, decide (c ≠ '\n') = true :=
      fun c hc => decide_eq_true fun heq => hline (heq ▸ hc)
    rw [List.append_assoc, List.dropWhile_append_of_pos hall]
    rfl
  have hafter : Token.afterComment (line ++ rest) = some ('\n' :: rest) := by
    unfold Token.afterComment
    rw [hdrop]
    cases line with
    | nil => cases hends
    | cons c line =>
      split
      · next heq =>
        cases heq
        exact absurd rfl hshort
      · rfl
  have htail : ('-' :: (line ++ rest)).tail = line ++ rest := rfl
  have hspace : isSpace '-' = false := by decide
  have hdash : '-' = '-' ∧ ('-' :: (line ++ rest)).head? = some '-' := ⟨rfl, rfl⟩
  rw [List.cons_append, List.cons_append, Token.tokensFrom, hspace, if_neg Bool.false_ne_true,
    if_pos hdash, htail, hafter]
  rfl

theorem string {text : List Char} (hreturn : '\r' ∉ text)
    (hplain : ∀ c ∈ text, c ≠ '"' ∧ c ≠ '\n' ∧ c ≠ '\\') :
    Lexes ('"' :: text ++ ['"']) [.string (Literal.bytesOf text)] := by
  refine ⟨by simp [hreturn], 1, by simp, ?_⟩
  intro fuel rest
  have hlength : text.length < (text ++ '"' :: rest).length + 1 := by
    rw [List.length_append]
    omega
  have hstep : Token.step '"' (text ++ '"' :: rest) =
      some (.string (Literal.bytesOf text), rest) := by
    show (Literal.short '"' ((text ++ '"' :: rest).length + 1) (text ++ '"' :: rest)).map _ = _
    rw [Literal.short_of_plain hlength hplain]
    rfl
  have hspace : isSpace '"' = false := by decide
  have hdash : ¬ ('"' = '-' ∧ (text ++ '"' :: rest).head? = some '-') := fun h => nomatch h.1
  rw [List.append_assoc, List.cons_append, List.singleton_append, Token.tokensFrom, hspace,
    if_neg Bool.false_ne_true, if_neg hdash, hstep]
  rfl

theorem tokens (h : Lexes piece ts) : tokens piece = ts := by
  obtain ⟨hplain, count, hcount, hcut⟩ := h
  have hfuel : piece.length + 1 = piece.length - count + 1 + count := by omega
  unfold Script.tokens
  rw [oneNewline_of_not_mem hplain]
  show Token.tokensFrom (piece.length + 1) piece = ts
  rw [hfuel, ← List.append_nil piece, hcut]
  exact List.append_nil ts

end Lexes

end CrossShell.Script
