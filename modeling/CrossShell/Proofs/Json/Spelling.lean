import CrossShell.Proofs.Json.Grammar
import CrossShell.Proofs.Json.Reads
import CrossShell.Proofs.SortedMap

/-!
Every text of a value is read as that value.

A reader looks for the next character that is no blank, so blanks before a token are passed over by
whatever reads it (`SkipsBlanks`), and blanks after a token by what reads the next one. Strings,
lists, maps and optional values are read off each of their texts.
-/

set_option autoImplicit false

namespace CrossShell.Json

variable {α β : Type}

/-- Blanks before what the reader reads make no difference to it. -/
def SkipsBlanks (r : Reader α) : Prop :=
  ∀ before s, IsBlank before → r (before ++ s) = r s

namespace Reader

/-! ## Blanks -/

theorem isSpace_of_isBlank {text : List Char} (h : IsBlank text) :
    ∀ c ∈ text, isSpace c = true := by
  intro c hc
  have hmem := h c hc
  simp only [List.mem_cons, List.not_mem_nil, or_false] at hmem
  obtain rfl | rfl | rfl | rfl := hmem <;> rfl

theorem peek_blanks {before : List Char} (h : IsBlank before) (s : List Char) :
    peek (before ++ s) = peek s := by
  simp only [peek, List.dropWhile_append_of_pos (isSpace_of_isBlank h)]

theorem skipsBlanks_peek_bind (f : Option Char → Reader α) : SkipsBlanks (peek >>= f) := by
  intro before s h
  simp only [bind, EStateM.bind, peek_blanks h]

theorem skipsBlanks_bind {r : Reader α} (h : SkipsBlanks r) (f : α → Reader β) :
    SkipsBlanks (r >>= f) := by
  intro before s hbefore
  simp only [Bind.bind, EStateM.bind, h before s hbefore]

theorem skipsBlanks_nextItem (first : Bool) : SkipsBlanks (nextItem first) :=
  skipsBlanks_peek_bind _

theorem skipsBlanks_nextKey (first : Bool) : SkipsBlanks (nextKey first) :=
  skipsBlanks_peek_bind _

theorem skipsBlanks_colon : SkipsBlanks colon :=
  skipsBlanks_peek_bind _

theorem skipsBlanks_text : SkipsBlanks text :=
  skipsBlanks_peek_bind _

theorem skipsBlanks_bool : SkipsBlanks bool :=
  skipsBlanks_peek_bind _

theorem skipsBlanks_variant (known : List (String × α)) : SkipsBlanks (variant known) :=
  skipsBlanks_peek_bind _

theorem skipsBlanks_optional (r : Reader α) : SkipsBlanks (optional r) :=
  skipsBlanks_peek_bind _

theorem skipsBlanks_list (item : Reader α) : SkipsBlanks (list item) :=
  skipsBlanks_peek_bind _

theorem skipsBlanks_map (value : Reader α) : SkipsBlanks (map value) :=
  skipsBlanks_peek_bind _

/-! ## Strings -/

theorem escaped?_of_letter {e c : Char} (h : (e, c) ∈ letterEscapes) :
    escaped? e = some c ∧ e ≠ 'u' := by
  have hall : ∀ p ∈ letterEscapes, escaped? p.1 = some p.2 ∧ p.1 ≠ 'u' := by decide
  exact hall (e, c) h

theorem hexQuad?_of_quad {quad : List Char} {n : Nat} (h : Quad quad n) :
    ∃ a b c d, quad = [a, b, c, d] ∧ hexQuad? a b c d = some n := by
  obtain ⟨ha, hb, hc, hd⟩ := h
  refine ⟨_, _, _, _, rfl, ?_⟩
  simp only [hexQuad?, ha, hb, hc, hd, Option.pure_def, Option.bind_eq_bind, Option.bind_some,
    Option.some.injEq]
  omega

theorem toNat_not_surrogate (c : Char) :
    isLowSurrogate c.toNat = false ∧ isHighSurrogate c.toNat = false := by
  have hvalid : c.toNat < 0xD800 ∨ 0xDFFF < c.toNat ∧ c.toNat < 0x110000 := c.valid
  simp only [isLowSurrogate, isHighSurrogate, Bool.and_eq_false_iff, decide_eq_false_iff_not]
  omega

theorem stringRest_quad (before rest : List Char) {c : Char} {quad : List Char}
    (h : Quad quad c.toNat) :
    stringRest before ('\\' :: 'u' :: (quad ++ rest)) = stringRest (c :: before) rest := by
  obtain ⟨a, b, d, e, rfl, hquad⟩ := hexQuad?_of_quad h
  obtain ⟨hlow, hhigh⟩ := toNat_not_surrogate c
  rw [stringRest.eq_def]
  simp [hquad, hlow, hhigh]

theorem stringRest_halves (before rest : List Char) {c : Char} {high low : List Char} {m n : Nat}
    (hhigh : Quad high m) (hlow : Quad low n) (hm : 0xD800 ≤ m ∧ m ≤ 0xDBFF)
    (hn : 0xDC00 ≤ n ∧ n ≤ 0xDFFF)
    (hc : c.toNat = (m - 0xD800) * 0x400 + (n - 0xDC00) + 0x10000) :
    stringRest before ('\\' :: 'u' :: (high ++ '\\' :: 'u' :: (low ++ rest)))
      = stringRest (c :: before) rest := by
  obtain ⟨a, b, d, e, rfl, hquad⟩ := hexQuad?_of_quad hhigh
  obtain ⟨a', b', d', e', rfl, hquad'⟩ := hexQuad?_of_quad hlow
  have hmlow : isLowSurrogate m = false := by
    simp only [isLowSurrogate, Bool.and_eq_false_iff, decide_eq_false_iff_not]
    omega
  have hmhigh : isHighSurrogate m = true := by
    simp only [isHighSurrogate, Bool.and_eq_true, decide_eq_true_eq]
    exact hm
  have hnlow : isLowSurrogate n = true := by
    simp only [isLowSurrogate, Bool.and_eq_true, decide_eq_true_eq]
    exact hn
  have hjoin : joinSurrogates m n = c := by
    rw [joinSurrogates, ← hc, Char.ofNat_toNat]
  rw [stringRest.eq_def]
  simp [hquad, hquad', hmlow, hmhigh, hnlow, hjoin]

theorem stringRest_spelled (before rest : List Char) {c : Char} {text : List Char}
    (h : SpellsChar c text) : stringRest before (text ++ rest) = stringRest (c :: before) rest := by
  cases h with
  | plain hquote hback hcontrol =>
    exact stringRest_plain before rest hquote hback (Nat.not_lt.2 hcontrol)
  | letter h =>
    obtain ⟨hescaped, hne⟩ := escaped?_of_letter h
    exact stringRest_letter before rest hne hescaped
  | digits h => exact stringRest_quad before rest h
  | halves hhigh hlow hm hn hc =>
    have hread := stringRest_halves before rest hhigh hlow hm hn hc
    simpa using hread

theorem stringRest_spelledChars {cs text : List Char} (h : SpellsChars cs text)
    (before rest : List Char) :
    stringRest before (text ++ '"' :: rest) = .ok (before.reverse ++ cs) rest := by
  induction h generalizing before with
  | nil => simpa using stringRest_close before rest
  | cons h _ ih =>
    rw [List.append_assoc, stringRest_spelled before _ h, ih]
    simp

theorem stringBody_spelled {s : String} {text : List Char} (h : SpellsChars s.toList text)
    (rest : List Char) : stringBody (text ++ '"' :: rest) = .ok s rest := by
  unfold stringBody
  rw [bind_ok (stringRest_spelledChars h [] rest)]
  simp [pure, EStateM.pure]

theorem reads_spelledTextAs {s expected : String} {quoted : List Char}
    (h : SpellsString s quoted) : Reads (textAs expected) quoted s := by
  obtain ⟨hchars⟩ := h
  intro rest
  rw [List.cons_append, List.append_assoc]
  unfold textAs
  rw [bind_ok (peek_cons (by decide) _)]
  exact stringBody_spelled hchars rest

theorem reads_spelledString {s : String} {quoted : List Char} (h : SpellsString s quoted) :
    Reads text quoted s :=
  reads_spelledTextAs h

theorem reads_spelledBool {b : Bool} {word : List Char} (h : SpellsBool b word) :
    Reads bool word b := by
  cases h <;> exact fun _ => rfl

/-- Null is read as no value, and what opens otherwise as a value. -/
theorem reads_spelledOptional {form : α → List Char → Prop} {r : Reader α}
    (h : ∀ a text, form a text → Reads r text a ∧ Opens text ∧ text.head? ≠ some 'n')
    {value : Option α} {text : List Char} (hvalue : SpellsOptional form value text) :
    Reads (optional r) text value := by
  intro rest
  cases hvalue with
  | null => rfl
  | @value a _ hform =>
    obtain ⟨hread, ⟨c, tail, rfl, hspace, -⟩, hnull⟩ := h a text hform
    have hread := hread rest
    rw [List.cons_append] at hread ⊢
    unfold optional
    rw [bind_ok (peek_cons hspace _)]
    rw [List.head?_cons] at hnull
    generalize some c = first at hnull
    split
    · exact absurd rfl hnull
    · rw [bind_ok hread]
      rfl

/-! ## Members -/

theorem Opens.append {text : List Char} (h : Opens text) (rest : List Char) :
    Opens (text ++ rest) := by
  obtain ⟨c, t, rfl, hspace, hne⟩ := h
  exact ⟨c, t ++ rest, rfl, hspace, hne⟩

/-- What stands before a member: after the first one a comma. -/
def lead (first : Bool) : List Char :=
  if first then [] else [',']

theorem length_le_of_members {form : α → List Char → Prop} {as : List α} {text : List Char}
    (h : Members form as text) : as.length ≤ text.length + 1 := by
  induction h with
  | none => simp
  | last => simp
  | more _ _ _ _ ih =>
    simp only [List.length_append, List.length_cons] at ih ⊢
    omega

theorem nextItem_member (first : Bool) {before s : List Char} (hbefore : IsBlank before)
    (h : Opens s) : nextItem first (lead first ++ (before ++ s)) = .ok true s := by
  cases first with
  | true =>
    rw [show lead true ++ (before ++ s) = before ++ s from rfl,
      skipsBlanks_nextItem true before s hbefore]
    exact nextItem_first h
  | false =>
    obtain ⟨c, t, rfl, hc, hne⟩ := h
    have hpeek : peek (before ++ c :: t) = .ok (some c) (c :: t) := by
      rw [peek_blanks hbefore, peek_cons hc]
    rw [show lead false ++ (before ++ c :: t) = ',' :: (before ++ c :: t) from rfl]
    unfold nextItem
    rw [bind_ok (peek_cons (by decide) _)]
    simp [bind, EStateM.bind, advance, hpeek, hne, pure, EStateM.pure]

theorem nextKey_member (first : Bool) {before keyText : List Char} {key : String}
    (hbefore : IsBlank before) (h : SpellsString key keyText) (s : List Char) :
    nextKey first (lead first ++ (before ++ (keyText ++ s))) = .ok (some key) s := by
  obtain ⟨hchars⟩ := h
  rename_i chars
  rw [List.cons_append, List.append_assoc, List.singleton_append]
  have hbody := stringBody_spelled hchars s
  have hpeek : peek (before ++ '"' :: (chars ++ '"' :: s))
      = .ok (some '"') ('"' :: (chars ++ '"' :: s)) := by
    rw [peek_blanks hbefore, peek_cons (by decide)]
  cases first with
  | true =>
    unfold nextKey
    rw [show lead true = [] from rfl, List.nil_append, bind_ok hpeek]
    exact map_ok hbody
  | false =>
    unfold nextKey
    rw [show lead false = [','] from rfl, List.singleton_append, bind_ok (peek_cons (by decide) _)]
    simp [bind, EStateM.bind, advance, hpeek, hbody, pure, EStateM.pure]

theorem colon_blanks {before : List Char} (h : IsBlank before) (s : List Char) :
    colon (before ++ ':' :: s) = .ok () s := by
  rw [skipsBlanks_colon before _ h]
  exact colon_cons s

/-! ## Lists -/

theorem items_close (item : Reader α) (fuel : Nat) (first : Bool) (rest : List Char) :
    items item (fuel + 1) first (']' :: rest) = .ok [] (']' :: rest) := by
  rw [items, bind_ok (nextItem_close first rest)]
  rfl

theorem skipsBlanks_items (item : Reader α) (fuel : Nat) (first : Bool) :
    SkipsBlanks (items item (fuel + 1) first) :=
  skipsBlanks_bind (skipsBlanks_nextItem first) _

theorem items_member {item : Reader α} {a : α} {as : List α} {before text after s s' : List Char}
    (first : Bool) {fuel : Nat} (hbefore : IsBlank before) (hitem : Reads item text a)
    (hopens : Opens text) (hafter : IsBlank after)
    (hrest : items item (fuel + 1) false s = .ok as s') :
    items item (fuel + 2) first (lead first ++ (before ++ (text ++ (after ++ s))))
      = .ok (a :: as) s' := by
  rw [← skipsBlanks_items item fuel false after s hafter] at hrest
  rw [items, bind_ok (nextItem_member first hbefore (hopens.append _))]
  simp only [if_true]
  rw [bind_ok (hitem _), bind_ok hrest]
  rfl

theorem items_members {form : α → List Char → Prop} {item : Reader α}
    (hread : ∀ a text, form a text → Reads item text a ∧ Opens text) {as : List α}
    {text : List Char} (h : Members form as text) {first : Bool} (hfirst : as = [] → first = true)
    (fuel : Nat) (rest : List Char) :
    items item (as.length + fuel + 1) first (lead first ++ (text ++ ']' :: rest))
      = .ok as (']' :: rest) := by
  -- each item is read with the comma before it, and nothing but an item can follow a comma, which
  -- is why a list without items has to be the first thing after the bracket
  induction h generalizing first with
  | @none blanks hblanks =>
    rw [hfirst rfl, show lead true = [] from rfl, List.nil_append,
      skipsBlanks_items item _ true blanks _ hblanks]
    exact items_close item _ true rest
  | @last a before text after hbefore hform hafter =>
    obtain ⟨hitem, hopens⟩ := hread a text hform
    have hclose := items_close item fuel false rest
    have hmember := items_member first hbefore hitem hopens hafter hclose
    rw [List.length_singleton, Nat.add_comm 1 fuel]
    simpa using hmember
  | @more a b as before text after more hbefore hform hafter _ ih =>
    obtain ⟨hitem, hopens⟩ := hread a text hform
    have hlater : b :: as = [] → false = true := nofun
    have hmore := ih hlater
    have hmember := items_member first hbefore hitem hopens hafter hmore
    rw [List.length_cons, Nat.add_right_comm _ 1 fuel]
    simpa [lead] using hmember

/-- A list is read off each of its texts if every item is. -/
theorem reads_spelledList {form : α → List Char → Prop} {item : Reader α}
    (hread : ∀ a text, form a text → Reads item text a ∧ Opens text) {as : List α}
    {text : List Char} (h : Bracketed '[' ']' form as text) : Reads (list item) text as := by
  cases h with | @mk text hmembers =>
  intro rest
  have hlength := length_le_of_members hmembers
  obtain ⟨fuel, hfuel⟩ := Nat.exists_eq_add_of_le (m := as.length)
    (n := (text ++ ']' :: rest).length) (by simp; omega)
  have hfirst : as = [] → true = true := fun _ => rfl
  have hitems := items_members hread hmembers hfirst fuel rest
  rw [← hfuel] at hitems
  rw [List.cons_append, List.append_assoc]
  unfold list
  rw [bind_ok (peek_cons (by decide) _)]
  exact enclosed_ok hitems (closeList_bracket rest)

/-! ## Maps -/

theorem entries_close (value : Reader α) (fuel : Nat) (first : Bool) (m : SortedMap α)
    (rest : List Char) :
    entries value (fuel + 1) first m ('\x7d' :: rest) = .ok m ('\x7d' :: rest) := by
  rw [entries, bind_ok (nextKey_close first rest)]
  rfl

theorem skipsBlanks_entries (value : Reader α) (fuel : Nat) (first : Bool) (m : SortedMap α) :
    SkipsBlanks (entries value (fuel + 1) first m) :=
  skipsBlanks_bind (skipsBlanks_nextKey first) _

theorem entries_member {form : α → List Char → Prop} {value : Reader α}
    (hread : ∀ a text, form a text → Reads value text a) (hskips : SkipsBlanks value)
    {e : String × α} {before text after s : List Char} (first : Bool) (fuel : Nat)
    (m : SortedMap α) (hbefore : IsBlank before) (h : Keyed SpellsString form e text)
    (hafter : IsBlank after) :
    entries value (fuel + 2) first m (lead first ++ (before ++ (text ++ (after ++ s))))
      = entries value (fuel + 1) false (m.insert e.1 e.2) s := by
  cases h with | @mk key a keyText after' before' text hkey hafter' hbefore' hform =>
  have hvalue : value (before' ++ (text ++ (after ++ s))) = .ok a (after ++ s) := by
    rw [hskips before' _ hbefore']
    exact hread a text hform _
  rw [← skipsBlanks_entries value fuel false _ after s hafter]
  simp only [List.append_assoc, List.cons_append]
  rw [entries, bind_ok (nextKey_member first hbefore hkey _)]
  simp only
  rw [bind_ok (colon_blanks hafter' _), bind_ok hvalue]

theorem entries_members {form : α → List Char → Prop} {value : Reader α}
    (hread : ∀ a text, form a text → Reads value text a) (hskips : SkipsBlanks value)
    {kvs : List (String × α)} {text : List Char} (h : Members (Keyed SpellsString form) kvs text)
    {first : Bool} (hfirst : kvs = [] → first = true) (fuel : Nat) (m : SortedMap α)
    (rest : List Char) :
    entries value (kvs.length + fuel + 1) first m (lead first ++ (text ++ '\x7d' :: rest))
      = .ok (m.insertAll kvs) ('\x7d' :: rest) := by
  induction h generalizing first m with
  | @none blanks hblanks =>
    rw [hfirst rfl, show lead true = [] from rfl, List.nil_append,
      skipsBlanks_entries value _ true m blanks _ hblanks]
    exact entries_close value _ true m rest
  | @last e before text after hbefore hfield hafter =>
    have hmember := entries_member (s := '\x7d' :: rest) hread hskips first fuel m hbefore hfield
      hafter
    rw [entries_close] at hmember
    rw [List.length_singleton, Nat.add_comm 1 fuel, SortedMap.insertAll_cons]
    simpa using hmember
  | @more e e' kvs before text after more hbefore hfield hafter _ ih =>
    have hmember := entries_member (s := lead false ++ (more ++ '\x7d' :: rest)) hread hskips first
      ((e' :: kvs).length + fuel) m hbefore hfield hafter
    have hlater : e' :: kvs = [] → false = true := nofun
    rw [ih hlater] at hmember
    rw [List.length_cons, Nat.add_right_comm _ 1 fuel, SortedMap.insertAll_cons]
    simpa [lead] using hmember

/-- A map is read off each text of its entries; the last entry of a key counts. -/
theorem reads_spelledMap {form : α → List Char → Prop} {value : Reader α}
    (hread : ∀ a text, form a text → Reads value text a) (hskips : SkipsBlanks value)
    {kvs : List (String × α)} {text : List Char}
    (h : Bracketed '\x7b' '\x7d' (Keyed SpellsString form) kvs text) :
    Reads (map value) text (SortedMap.ofList kvs) := by
  cases h with | @mk text hmembers =>
  intro rest
  have hlength := length_le_of_members hmembers
  obtain ⟨fuel, hfuel⟩ := Nat.exists_eq_add_of_le (m := kvs.length)
    (n := (text ++ '\x7d' :: rest).length) (by simp; omega)
  have hfirst : kvs = [] → true = true := fun _ => rfl
  have hentries := entries_members hread hskips hmembers hfirst fuel SortedMap.empty rest
  rw [← hfuel] at hentries
  rw [List.cons_append, List.append_assoc]
  unfold map
  rw [bind_ok (peek_cons (by decide) _)]
  exact enclosed_ok hentries (closeObject_brace rest)

end Reader

end CrossShell.Json
