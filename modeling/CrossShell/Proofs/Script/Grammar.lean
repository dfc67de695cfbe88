import CrossShell.Script.Grammar

/-!
How scripts are read that answer a table of strings.

Each lemma says what one part of the grammar does with tokens of a given form: what it makes of
them, which tokens it leaves and which places are in use then. The fuel is what the part needs at
least.
No expression starts with the word `return`, so a script that starts with it is a block.
-/

set_option autoImplicit false

namespace CrossShell.Script

namespace Parser

variable {α β : Type} {t : Token} {ts ts' : List Token} {depth places places' fuel limit : Nat}
  {locals : List String}

/-! ## Steps -/

theorem bind_of_ok {p : Parser α} {f : α → Parser β} {r r' : Reading} {a : α}
    (h : p r = .ok (a, r')) : (p >>= f) r = f a r' := by
  simp only [bind, StateT.bind, h, Except.bind]

theorem bind_of_error {p : Parser α} {f : α → Parser β} {r : Reading} {e : Failure}
    (h : p r = .error e) : (p >>= f) r = .error e := by
  simp only [bind, StateT.bind, h, Except.bind]

theorem head?_ne {t' : Token} (h : t ≠ t') : (t :: ts).head? ≠ some t' :=
  fun heq => h (Option.some.inj heq)

theorem peek_eq (r : Reading) : peek r = .ok (r.tokens.head?, r) := rfl

theorem peek_cons :
    peek ⟨t :: ts, depth, places, locals⟩ = .ok (some t, ⟨t :: ts, depth, places, locals⟩) :=
  peek_eq _

theorem advance_of_good (h : ts.head? ≠ some .bad) :
    advance ⟨t :: ts, depth, places, locals⟩ = .ok ((), ⟨ts, depth, places, locals⟩) := by
  show (if ts.head? = some .bad then refuse else pure ()) _ = _
  rw [if_neg h]
  rfl

theorem accept_self (h : ts.head? ≠ some .bad) :
    accept t ⟨t :: ts, depth, places, locals⟩ = .ok (true, ⟨ts, depth, places, locals⟩) := by
  show (if some t = some t then (do advance; return true) else return false : Parser Bool) _ = _
  rw [if_pos rfl, bind_of_ok (advance_of_good h)]
  rfl

theorem accept_other (h : ts.head? ≠ some t) :
    accept t ⟨ts, depth, places, locals⟩ = .ok (false, ⟨ts, depth, places, locals⟩) := by
  show (if ts.head? = some t then (do advance; return true) else return false : Parser Bool) _ = _
  rw [if_neg h]
  rfl

theorem expect_self (h : ts.head? ≠ some .bad) :
    expect t ⟨t :: ts, depth, places, locals⟩ = .ok ((), ⟨ts, depth, places, locals⟩) := by
  rw [expect, bind_of_ok (accept_self h)]
  rfl

theorem nested_of_lt (p : Parser α) (h : depth + 1 < depthLimit) :
    nested p ⟨ts, depth, places, locals⟩ =
      (p >>= fun a => (modify fun r => { r with depth := depth }) >>= fun _ => pure a)
        ⟨ts, depth + 1, places, locals⟩ := by
  show (if depthLimit ≤ depth + 1 then throw .failed else _ : Parser α) _ = _
  rw [if_neg (by omega)]
  rfl

theorem nested_of_ok {p : Parser α} {a : α} (hdepth : depth + 1 < depthLimit)
    (h : p ⟨ts, depth + 1, places, locals⟩ = .ok (a, ⟨ts', depth + 1, places', locals⟩)) :
    nested p ⟨ts, depth, places, locals⟩ = .ok (a, ⟨ts', depth, places', locals⟩) := by
  rw [nested_of_lt p hdepth, bind_of_ok h]
  rfl

theorem nested_of_error {p : Parser α} {e : Failure} (hdepth : depth + 1 < depthLimit)
    (h : p ⟨ts, depth + 1, places, locals⟩ = .error e) :
    nested p ⟨ts, depth, places, locals⟩ = .error e := by
  rw [nested_of_lt p hdepth]
  exact bind_of_error h

theorem take_of_lt {count : Nat} (h : places + count < placeLimit) :
    take count ⟨ts, depth, places, locals⟩ = .ok ((), ⟨ts, depth, places + count, locals⟩) := by
  show (if placeLimit ≤ places + count then refuse else _ : Parser Unit) _ = _
  rw [if_neg (by omega)]
  rfl

/-! ## Strings -/

theorem operators_of_none {left : Operand} (h : ts.head?.bind binary? = none) :
    operators (fuel + 1) limit left ⟨ts, depth, places, locals⟩ =
      .ok (left, ⟨ts, depth, places, locals⟩) := by
  rw [operators, bind_of_ok (peek_eq _)]
  simp only [h]
  rfl

/-- An expression is its first operand where no operator comes before or after that. -/
theorem expression_of_simple {e : Operand} (hdepth : depth + 1 < depthLimit)
    (hsimple : simple (fuel + 1) ⟨t :: ts, depth + 1, places, locals⟩ =
      .ok (e, ⟨ts', depth + 1, places', locals⟩))
    (hstart : unary? t = none) (hend : ts'.head?.bind binary? = none) :
    expression (fuel + 2) limit ⟨t :: ts, depth, places, locals⟩ =
      .ok (e, ⟨ts', depth, places', locals⟩) := by
  have hfirst : (some t).bind unary? = none := hstart
  rw [expression]
  refine nested_of_ok hdepth ?_
  rw [bind_of_ok peek_cons]
  simp only [hfirst]
  rw [bind_of_ok hsimple]
  exact operators_of_none hend

theorem expression_string {bytes : List UInt8} (hdepth : depth + 1 < depthLimit)
    (hgood : ts.head? ≠ some .bad) (hend : ts.head?.bind binary? = none) :
    expression (fuel + 2) limit ⟨.string bytes :: ts, depth, places, locals⟩ =
      .ok (⟨.string bytes, .literal⟩, ⟨ts, depth, places, locals⟩) := by
  have hsimple : simple (fuel + 1) ⟨.string bytes :: ts, depth + 1, places, locals⟩ =
      .ok (⟨.string bytes, .literal⟩, ⟨ts, depth + 1, places, locals⟩) := by
    rw [simple]
    show (advance >>= fun _ => return ⟨.string bytes, .literal⟩ : Parser Operand) _ = _
    rw [bind_of_ok (advance_of_good hgood)]
    rfl
  exact expression_of_simple hdepth hsimple rfl hend

/-! ## Tables -/

theorem toNext_literal (h : places + 1 < placeLimit) :
    toNext .literal ⟨ts, depth, places, locals⟩ = .ok ((), ⟨ts, depth, places + 1, locals⟩) :=
  take_of_lt h

/-- A value that stays where it is when it becomes an operand. -/
def IsHeld (h : Holding) : Prop :=
  h = .literal ∨ h = .place

theorem toOperand_of_isHeld {h : Holding} (hheld : IsHeld h) (r : Reading) :
    toOperand h r = .ok (h, r) := by
  obtain rfl | rfl := hheld <;> rfl

section Entries

variable {start waiting : Nat}

theorem entry_string {bytes : List UInt8} (hdepth : depth + 1 < depthLimit)
    (hplaces : places + 1 < placeLimit) (hgood : ts.head? ≠ some .bad)
    (hend : ts.head?.bind binary? = none) :
    entry (fuel + 3) ⟨.string bytes :: ts, depth, places, locals⟩ =
      .ok ((none, .string bytes), ⟨ts, depth, places + 1, locals⟩) := by
  rw [entry]
  show (expression (fuel + 2) 0 >>= fun item => toNext item.holding >>= fun _ =>
    return (none, item.expr)) _ = _
  rw [bind_of_ok (expression_string hdepth hgood hend), bind_of_ok (toNext_literal hplaces)]
  rfl

theorem keyed_of_value {key : List UInt8} {value : Operand}
    (hvalue : expression fuel 0 ⟨ts, depth, places, locals⟩ =
      .ok (value, ⟨ts', depth, places', locals⟩))
    (hheld : IsHeld value.holding) (hkey : key.length ≤ 40) (hgood : ts.head? ≠ some .bad) :
    keyed (fuel + 1) start ⟨.string key, .literal⟩
        ⟨.symbol .assign :: ts, depth, places, locals⟩ =
      .ok ((some (.string key), value.expr), ⟨ts', depth, start, locals⟩) := by
  have hfetch (r : Reading) : fetch .literal r = .ok (.literal, r) := rfl
  have hfield (r : Reading) : field .nil .named ⟨.string key, .literal⟩ r =
      .ok (⟨.index .nil (.string key), .fetch 0⟩, r) := by
    have hshort : (Expr.string key).isShortKey = true := decide_eq_true hkey
    rw [field, hshort]
    rfl
  rw [keyed, bind_of_ok (hfetch _), bind_of_ok (expect_self hgood), bind_of_ok (hfield _),
    bind_of_ok hvalue, bind_of_ok (toOperand_of_isHeld hheld _)]
  rfl

theorem entry_field {text : String} {value : Operand}
    (hvalue : expression fuel 0 ⟨ts, depth, places, locals⟩ =
      .ok (value, ⟨ts', depth, places', locals⟩))
    (hheld : IsHeld value.holding) (hkey : (Literal.bytesOf text.toList).length ≤ 40)
    (hgood : ts.head? ≠ some .bad) :
    entry (fuel + 2) ⟨.name text :: .symbol .assign :: ts, depth, places, locals⟩ =
      .ok ((some (.string (Literal.bytesOf text.toList)), value.expr),
        ⟨ts', depth, places, locals⟩) := by
  rw [entry]
  show (advance >>= fun _ => keyed (fuel + 1) places (nameKey text))
    ⟨.name text :: .symbol .assign :: ts, depth, places, locals⟩ = _
  rw [bind_of_ok (advance_of_good (by simp))]
  exact keyed_of_value hvalue hheld hkey hgood

theorem entries_close (h : ts.head? ≠ some .bad) :
    entries (fuel + 1) start waiting ⟨.symbol .braceClose :: ts, depth, places, locals⟩ =
      .ok ([], ⟨ts, depth, places, locals⟩) := by
  rw [entries, bind_of_ok (accept_self h)]
  rfl

theorem entries_of_entry {first : Option Expr × Expr} {r r' : Reading}
    (hfirst : entry fuel r = .ok (first, r'))
    (hopen : r.tokens.head? ≠ some (.symbol .braceClose)) (hwaiting : waiting ≠ itemBatch) :
    entries (fuel + 1) start waiting r =
      (do
        let waiting := if first.1.isNone then waiting + 1 else waiting
        if ← accept (.symbol .comma) then return first :: (← entries fuel start waiting)
        else if ← accept (.symbol .semicolon) then
          return first :: (← entries fuel start waiting)
        else
          expect (.symbol .braceClose)
          return [first] : Parser (List (Option Expr × Expr))) r' := by
  rw [entries, bind_of_ok (accept_other hopen)]
  simp only [Bool.false_eq_true, if_false, if_neg hwaiting]
  rw [pure_bind, bind_of_ok hfirst]

theorem entries_comma {first : Option Expr × Expr} {rest : List (Option Expr × Expr)}
    {r r' : Reading}
    (hfirst : entry fuel r = .ok (first, ⟨.symbol .comma :: ts, depth, places, locals⟩))
    (hrest : entries fuel start (if first.1.isNone then waiting + 1 else waiting)
      ⟨ts, depth, places, locals⟩ = .ok (rest, r'))
    (hopen : r.tokens.head? ≠ some (.symbol .braceClose)) (hwaiting : waiting ≠ itemBatch)
    (hgood : ts.head? ≠ some .bad) :
    entries (fuel + 1) start waiting r = .ok (first :: rest, r') := by
  rw [entries_of_entry hfirst hopen hwaiting, bind_of_ok (accept_self hgood), if_pos rfl,
    bind_of_ok hrest]
  rfl

theorem entries_last {first : Option Expr × Expr} {r : Reading}
    (hfirst : entry fuel r = .ok (first, ⟨.symbol .braceClose :: ts, depth, places, locals⟩))
    (hopen : r.tokens.head? ≠ some (.symbol .braceClose)) (hwaiting : waiting ≠ itemBatch)
    (hgood : ts.head? ≠ some .bad) :
    entries (fuel + 1) start waiting r = .ok ([first], ⟨ts, depth, places, locals⟩) := by
  rw [entries_of_entry hfirst hopen hwaiting, bind_of_ok (accept_other (by simp)),
    if_neg Bool.false_ne_true, bind_of_ok (accept_other (by simp)), if_neg Bool.false_ne_true,
    bind_of_ok (expect_self hgood)]
  rfl

end Entries

theorem expression_table {contents : List (Option Expr × Expr)}
    (hentries : entries fuel (places + 1) 0 ⟨ts, depth + 1, places + 1, locals⟩ =
      .ok (contents, ⟨ts', depth + 1, places', locals⟩))
    (hdepth : depth + 1 < depthLimit) (hplaces : places + 1 < placeLimit)
    (hgood : ts.head? ≠ some .bad) (hend : ts'.head?.bind binary? = none) :
    expression (fuel + 3) limit ⟨.symbol .braceOpen :: ts, depth, places, locals⟩ =
      .ok (⟨.table contents, .place⟩, ⟨ts', depth, places + 1, locals⟩) := by
  have htable : table (fuel + 1) ⟨ts, depth + 1, places, locals⟩ =
      .ok (⟨.table contents, .place⟩, ⟨ts', depth + 1, places + 1, locals⟩) := by
    rw [table, bind_of_ok (take_of_lt hplaces)]
    show (entries fuel (places + 1) 0 >>= fun contents => keep (places + 1) >>= fun _ =>
      return ⟨.table contents, .place⟩ : Parser Operand) ⟨ts, depth + 1, places + 1, locals⟩ = _
    rw [bind_of_ok hentries]
    rfl
  have hsimple : simple (fuel + 2) ⟨.symbol .braceOpen :: ts, depth + 1, places, locals⟩ =
      .ok (⟨.table contents, .place⟩, ⟨ts', depth + 1, places + 1, locals⟩) := by
    have hconstant : (some (.symbol .braceOpen)).bind constant? = none := rfl
    rw [simple, bind_of_ok peek_cons]
    simp only [hconstant]
    rw [bind_of_ok (accept_other (by simp)), if_neg Bool.false_ne_true,
      bind_of_ok (accept_self hgood), if_pos rfl]
    exact htable
  exact expression_of_simple hdepth hsimple rfl hend

/-! ## Answers -/

theorem expressions_one {e : Operand} {r r' : Reading} (h : expression fuel 0 r = .ok (e, r'))
    (hlast : r'.tokens.head? ≠ some (.symbol .comma)) :
    expressions (fuel + 1) r = .ok (([e.expr], e.holding), r') := by
  rw [expressions, bind_of_ok h, bind_of_ok (accept_other hlast), if_neg Bool.false_ne_true]
  rfl

theorem answer_table {e : Expr}
    (h : expression fuel 0 ⟨.symbol .braceOpen :: ts, depth, places, locals⟩ =
      .ok (⟨e, .place⟩, ⟨[], depth, places', locals⟩)) :
    answer (fuel + 1) ⟨.symbol .braceOpen :: ts, depth, places, locals⟩ =
      .ok (.answer [e], ⟨[], depth, places', locals⟩) := by
  have hone := expressions_one h nofun
  rw [answer, bind_of_ok peek_cons, if_neg (by decide), bind_of_ok hone]
  rfl

theorem statement_return (hgood : ts.head? ≠ some .bad) :
    statement (fuel + 1) ⟨.word "return" :: ts, depth, places, locals⟩ =
      (do return some (← answer fuel) : Parser (Option Statement))
        ⟨ts, depth, places, locals⟩ := by
  rw [statement, bind_of_ok (accept_other (by simp)), if_neg Bool.false_ne_true,
    bind_of_ok (accept_self hgood), if_pos rfl]

/-- A block that is one table to answer. -/
theorem block_return_table {e : Expr}
    (h : expression (fuel + 1) 0 ⟨.symbol .braceOpen :: ts, 1, 0, []⟩ =
      .ok (⟨e, .place⟩, ⟨[], 1, places', []⟩)) :
    block (fuel + 4) ⟨.word "return" :: .symbol .braceOpen :: ts, 0, 0, []⟩ =
      .ok ([.answer [e]], ⟨[], 0, 0, []⟩) := by
  have hstatement : statement (fuel + 3) ⟨.word "return" :: .symbol .braceOpen :: ts, 1, 0, []⟩ =
      .ok (some (.answer [e]), ⟨[], 1, places', []⟩) := by
    rw [statement_return (by simp), bind_of_ok (answer_table h)]
    rfl
  have hrest : block (fuel + 3) ⟨[], 0, 0, []⟩ = .ok ([], ⟨[], 0, 0, []⟩) := by
    rw [block]
    rfl
  rw [block, bind_of_ok peek_cons, if_neg (by decide),
    bind_of_ok (nested_of_ok (by decide) hstatement)]
  show (block (fuel + 3) >>= fun rest => return [.answer [e]] ++ rest) ⟨[], 0, 0, []⟩ = _
  rw [bind_of_ok hrest]
  rfl

/-- No expression starts with the word for an answer. -/
theorem expression_return (hdepth : depth + 1 < depthLimit) :
    expression (fuel + 3) limit ⟨.word "return" :: ts, depth, places, locals⟩ =
      .error .malformed := by
  have hsuffixed : suffixed (fuel + 1) ⟨.word "return" :: ts, depth + 1, places, locals⟩ =
      .error .malformed := by
    rw [suffixed, bind_of_ok (accept_other (by simp)), if_neg Bool.false_ne_true]
    exact bind_of_error rfl
  have hsimple : simple (fuel + 2) ⟨.word "return" :: ts, depth + 1, places, locals⟩ =
      .error .malformed := by
    have hconstant : (some (.word "return")).bind constant? = none := rfl
    rw [simple, bind_of_ok peek_cons]
    simp only [hconstant]
    rw [bind_of_ok (accept_other (by simp)), if_neg Bool.false_ne_true,
      bind_of_ok (accept_other (by simp)), if_neg Bool.false_ne_true]
    exact hsuffixed
  rw [expression]
  refine nested_of_error hdepth ?_
  show (simple (fuel + 2) >>= fun e => operators (fuel + 2) limit e)
    ⟨.word "return" :: ts, depth + 1, places, locals⟩ = _
  exact bind_of_error hsimple

theorem block_return_return :
    block (fuel + 6) ⟨.word "return" :: .word "return" :: ts, 0, 0, []⟩ = .error .malformed := by
  have hexpressions : expressions (fuel + 4) ⟨.word "return" :: ts, 1, 0, []⟩ =
      .error .malformed := by
    rw [expressions]
    exact bind_of_error (expression_return (by decide))
  have hanswer : answer (fuel + 4) ⟨.word "return" :: ts, 1, 0, []⟩ = .error .malformed := by
    rw [answer, bind_of_ok peek_cons, if_neg (by decide)]
    exact bind_of_error hexpressions
  have hstatement : statement (fuel + 5) ⟨.word "return" :: .word "return" :: ts, 1, 0, []⟩ =
      .error .malformed := by
    rw [statement_return (by simp)]
    exact bind_of_error hanswer
  rw [block, bind_of_ok peek_cons, if_neg (by decide)]
  exact bind_of_error (nested_of_error (by decide) hstatement)

end Parser

/-! ## Scripts -/

section Program

variable {source : List Char} {ts : List Token}

/-- A script is parsed to its block, which has to be all of it. -/
theorem parse_of_tokens (htokens : tokens source = ts) (hgood : ts.head? ≠ some .bad) :
    parse source = (do
      let (statements, r) ← Parser.block (16 * (ts.length + 1)) ⟨ts, 0, 0, []⟩
      if r.tokens.isEmpty then return statements else throw .malformed) := by
  unfold parse
  simp only [htokens, if_neg hgood]

theorem parse_return_return
    (htokens : tokens source = .word "return" :: .word "return" :: ts) :
    parse source = .error .malformed := by
  have hfuel : 16 * (ts.length + 1 + 1 + 1) = 16 * ts.length + 42 + 6 := by omega
  rw [parse_of_tokens htokens (by simp), List.length_cons, List.length_cons, hfuel,
    Parser.block_return_return]
  rfl

/-- A script that is one table to answer, where reading the table takes no more fuel than there
is. -/
theorem parse_return_table {e : Expr} {places need : Nat}
    (htokens : tokens source = .word "return" :: .symbol .braceOpen :: ts)
    (hneed : need ≤ 16 * ts.length)
    (h : ∀ fuel, need ≤ fuel → Parser.expression fuel 0 ⟨.symbol .braceOpen :: ts, 1, 0, []⟩ =
      .ok (⟨e, .place⟩, ⟨[], 1, places, []⟩)) :
    parse source = .ok [.answer [e]] := by
  have hfuel : 16 * (ts.length + 1 + 1 + 1) = 16 * ts.length + 44 + 4 := by omega
  rw [parse_of_tokens htokens (by simp), List.length_cons, List.length_cons, hfuel,
    Parser.block_return_table (h _ (by omega))]
  rfl

/-- A script that starts with the word for an answer is not itself taken for an expression. -/
theorem program_return_table {e : Expr} {places need : Nat}
    (hreturn : tokens ("return ".toList ++ source) =
      .word "return" :: .word "return" :: .symbol .braceOpen :: ts)
    (htokens : tokens source = .word "return" :: .symbol .braceOpen :: ts)
    (hneed : need ≤ 16 * ts.length)
    (h : ∀ fuel, need ≤ fuel → Parser.expression fuel 0 ⟨.symbol .braceOpen :: ts, 1, 0, []⟩ =
      .ok (⟨e, .place⟩, ⟨[], 1, places, []⟩)) :
    program source = .ok [.answer [e]] := by
  unfold program
  rw [parse_return_return hreturn, parse_return_table htokens hneed h]

end Program

end CrossShell.Script
