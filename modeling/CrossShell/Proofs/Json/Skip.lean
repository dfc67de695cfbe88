import CrossShell.Proofs.Json.Spelling

/-!
Passing over a value takes exactly its text.

A number has no mark at its end, so it is taken whole only if what follows does not go on with it;
in a document a blank, a comma or a bracket follows. For brackets the steps of the reader are
counted: they stay below three for each character of the text.
-/

set_option autoImplicit false

namespace CrossShell.Json.Reader

/-! ## What follows a value -/

/-- The text starts with something that may follow a value, or is at its end. -/
def Follows (rest : List Char) : Prop :=
  ∀ c ∈ rest.head?, isSpace c = true ∨ c ∈ [',', ']', '\x7d']

theorem follows_cons {c : Char} (h : c ∈ [',', ']', '\x7d']) (rest : List Char) :
    Follows (c :: rest) := by
  intro d hd
  rw [List.head?_cons, Option.mem_some_iff] at hd
  exact .inr (hd ▸ h)

theorem Follows.blanks {before rest : List Char} (h : Follows rest) (hbefore : IsBlank before) :
    Follows (before ++ rest) := by
  cases before with
  | nil => exact h
  | cons c before =>
    intro d hd
    rw [List.cons_append, List.head?_cons, Option.mem_some_iff] at hd
    exact .inl (hd ▸ isSpace_of_isBlank hbefore c List.mem_cons_self)

/-- What may follow a value goes on with no number. -/
theorem Follows.no_digit {rest : List Char} (h : Follows rest) :
    ∀ c ∈ rest.head?, c.isDigit = false := by
  intro c hc
  obtain hspace | hmem := h c hc
  · simp only [isSpace, Bool.or_eq_true, beq_iff_eq] at hspace
    obtain ((rfl | rfl) | rfl) | rfl := hspace <;> rfl
  · simp only [List.mem_cons, List.not_mem_nil, or_false] at hmem
    obtain rfl | rfl | rfl := hmem <;> rfl

theorem Follows.head?_ne {rest : List Char} (h : Follows rest) {c : Char}
    (hc : isSpace c = false ∧ c ∉ [',', ']', '\x7d']) : rest.head? ≠ some c := by
  intro hhead
  obtain hspace | hmem := h c hhead
  · rw [hc.1] at hspace
    cases hspace
  · exact hc.2 hmem

/-! ## Strings -/

theorem skipStringBody_of {text : List Char} (h : IsStringBody text) (rest : List Char) :
    skipStringBody (text ++ '"' :: rest) = .ok () rest := by
  induction h with
  | nil =>
    rw [List.nil_append, skipStringBody.eq_def]
    simp
  | plain hquote hback hcontrol _ ih =>
    rw [List.cons_append, skipStringBody.eq_def]
    simpa [hquote, hback, Nat.not_lt.2 hcontrol] using ih
  | letter hmem _ ih =>
    obtain ⟨hescaped, hne⟩ := escaped?_of_letter hmem
    rw [List.cons_append, List.cons_append, skipStringBody.eq_def]
    simpa [hne, hescaped] using ih
  | digits hquad _ ih =>
    obtain ⟨a, b, c, d, rfl, hvalue⟩ := hexQuad?_of_quad hquad
    rw [List.cons_append, List.cons_append, skipStringBody.eq_def]
    simpa [hvalue] using ih

/-! ## Numbers -/

theorem digits_append {text : List Char} (h : IsDigits text) {rest : List Char}
    (hrest : ∀ c ∈ rest.head?, c.isDigit = false) :
    ∃ values, digits (text ++ rest) = .ok values rest ∧ values ≠ [] := by
  have hdrop : (text ++ rest).dropWhile Char.isDigit = rest := by
    rw [List.dropWhile_append_of_pos h.2]
    cases rest with
    | nil => rfl
    | cons c rest => rw [List.dropWhile_cons_of_neg]; simp [hrest c rfl]
  have htake : (text ++ rest).takeWhile Char.isDigit = text := by
    rw [List.takeWhile_append_of_pos h.2]
    cases rest with
    | nil => simp
    | cons c rest => rw [List.takeWhile_cons_of_neg] <;> simp [hrest c rfl]
  refine ⟨text.map fun c => c.toNat - 48, ?_, by simpa using h.1⟩
  simp only [digits, htake, hdrop]

theorem exists_cons_of_isDigits {text : List Char} (h : IsDigits text) :
    ∃ c rest, text = c :: rest ∧ c.isDigit = true := by
  obtain ⟨c, rest, rfl⟩ := List.exists_cons_of_ne_nil h.1
  exact ⟨c, rest, rfl, h.2 c List.mem_cons_self⟩

theorem digit_ne {c d : Char} (hc : c.isDigit = true) (hd : d.isDigit = false) : c ≠ d := by
  rintro rfl
  rw [hc] at hd
  cases hd

theorem here_cons (c : Char) (s : List Char) : here (c :: s) = .ok (some c) (c :: s) := rfl

theorem discard_digits {text : List Char} (h : IsDigits text) {rest : List Char}
    (hrest : ∀ c ∈ rest.head?, c.isDigit = false) :
    (discard digits : Reader Unit) (text ++ rest) = .ok () rest := by
  obtain ⟨values, hdigits, -⟩ := digits_append h hrest
  exact map_ok hdigits

theorem skipExponent_of (mark : Char) {sign text : List Char}
    (hsign : sign = [] ∨ sign = ['+'] ∨ sign = ['-']) (h : IsDigits text) {rest : List Char}
    (hrest : ∀ c ∈ rest.head?, c.isDigit = false) :
    skipExponent (mark :: (sign ++ (text ++ rest))) = .ok () rest := by
  have hdigits := discard_digits h hrest
  obtain ⟨c, ds, rfl, hc⟩ := exists_cons_of_isDigits h
  have hplus : c ≠ '+' := digit_ne hc rfl
  have hminus : c ≠ '-' := digit_ne hc rfl
  rw [List.cons_append] at hdigits ⊢
  unfold skipExponent
  rw [bind_ok (advance_cons mark _)]
  obtain rfl | rfl | rfl := hsign
  · rw [List.nil_append, bind_ok (here_cons c _)]
    simp [bind, EStateM.bind, here, hc, hplus, hminus, hdigits]
  · rw [List.singleton_append, bind_ok (here_cons '+' _)]
    simp [bind, EStateM.bind, here, advance, hc, hdigits]
  · rw [List.singleton_append, bind_ok (here_cons '-' _)]
    simp [bind, EStateM.bind, here, advance, hc, hdigits]

theorem here_eq (s : List Char) : here s = .ok s.head? s := rfl

theorem skipFraction_of {fraction exponent : List Char} (hfraction : IsFraction fraction)
    (hexponent : IsExponent exponent) {rest : List Char} (hrest : Follows rest) :
    skipFraction (fraction ++ (exponent ++ rest)) = .ok () rest := by
  have hdot := hrest.head?_ne (c := '.') (by decide)
  have he := hrest.head?_ne (c := 'e') (by decide)
  have hE := hrest.head?_ne (c := 'E') (by decide)
  cases hfraction with
  | absent =>
    unfold skipFraction
    cases hexponent with
    | absent =>
      rw [List.nil_append, List.nil_append, bind_ok (here_eq rest)]
      generalize rest.head? = first at hdot he hE
      split
      · exact absurd rfl hdot
      · exact absurd rfl he
      · exact absurd rfl hE
      · rfl
    | @digits mark sign text hmark hsign hdigits =>
      have hskip := skipExponent_of mark hsign hdigits hrest.no_digit
      rw [List.nil_append, List.cons_append, List.append_assoc, bind_ok (here_cons mark _)]
      obtain rfl | rfl := hmark <;> exact hskip
  | @digits ds hds =>
    unfold skipFraction
    rw [List.cons_append, bind_ok (here_cons '.' _)]
    simp only
    rw [bind_ok (advance_cons '.' _)]
    cases hexponent with
    | absent =>
      obtain ⟨values, hread, hne⟩ := digits_append hds hrest.no_digit
      rw [List.nil_append, bind_ok hread, if_neg (by simpa using hne), bind_ok (here_eq rest)]
      generalize rest.head? = first at he hE
      split
      · exact absurd rfl he
      · exact absurd rfl hE
      · rfl
    | @digits mark sign text hmark hsign hdigits =>
      have hskip := skipExponent_of mark hsign hdigits hrest.no_digit
      have hmark' : ∀ c ∈ (mark :: (sign ++ (text ++ rest))).head?, c.isDigit = false := by
        rintro c ⟨⟩
        obtain rfl | rfl := hmark <;> rfl
      obtain ⟨values, hread, hne⟩ := digits_append hds hmark'
      rw [List.cons_append, List.append_assoc, bind_ok hread, if_neg (by simpa using hne),
        bind_ok (here_cons mark _)]
      obtain rfl | rfl := hmark <;> exact hskip

/-- The fraction and the exponent of a number do not go on with its whole part. -/
theorem no_digit_after_whole {fraction exponent : List Char} (hfraction : IsFraction fraction)
    (hexponent : IsExponent exponent) {rest : List Char} (hrest : Follows rest) :
    ∀ c ∈ (fraction ++ (exponent ++ rest)).head?, c.isDigit = false := by
  cases hfraction with
  | absent =>
    cases hexponent with
    | absent => exact hrest.no_digit
    | digits hmark =>
      rintro c ⟨⟩
      obtain rfl | rfl := hmark <;> rfl
  | digits =>
    rintro c ⟨⟩
    rfl

theorem skipNumber_of {whole fraction exponent : List Char} (hwhole : IsWhole whole)
    (hfraction : IsFraction fraction) (hexponent : IsExponent exponent) {rest : List Char}
    (hrest : Follows rest) :
    skipNumber (whole ++ (fraction ++ (exponent ++ rest))) = .ok () rest := by
  have htail := skipFraction_of hfraction hexponent hrest
  have hnodigit := no_digit_after_whole hfraction hexponent hrest
  unfold skipNumber
  cases hwhole with
  | zero =>
    rw [List.singleton_append, bind_ok (here_cons '0' _)]
    generalize fraction ++ (exponent ++ rest) = tail at htail hnodigit ⊢
    cases tail with
    | nil => exact htail
    | cons d tail =>
      have hd : d.isDigit = false := hnodigit d rfl
      simp [bind, EStateM.bind, advance, here, hd, htail]
  | digits hdigits hzero =>
    have hskip := discard_digits hdigits hnodigit
    obtain ⟨c, ds, rfl, hc⟩ := exists_cons_of_isDigits hdigits
    have hne : c ≠ '0' := fun heq => hzero (by rw [heq]; rfl)
    rw [List.cons_append] at hskip ⊢
    rw [bind_ok (here_cons c _)]
    simp only [hc, hne, Bool.not_true, Bool.false_eq_true, if_false]
    rw [bind_ok hskip]
    exact htail

/-! ## Scalars -/

theorem opens_of_isWhole {whole : List Char} (h : IsWhole whole) :
    ∃ c tail, whole = c :: tail ∧ c.isDigit = true := by
  cases h with
  | zero => exact ⟨'0', [], rfl, rfl⟩
  | digits hdigits _ => exact exists_cons_of_isDigits hdigits

/-- A value that is no list and no object is taken as its first character says. -/
theorem skipScalar_of {text : List Char} (h : IsScalar text) :
    ∃ c tail, text = c :: tail ∧ isSpace c = false ∧ c ∉ [',', ']', '\x7d', '[', '\x7b'] ∧
      ∀ rest, Follows rest → skipScalar c (text ++ rest) = .ok () rest := by
  cases h with
  | null => exact ⟨'n', _, rfl, rfl, by decide, fun rest _ => rfl⟩
  | bool h =>
    cases h with
    | yes => exact ⟨'t', _, rfl, rfl, by decide, fun rest _ => rfl⟩
    | no => exact ⟨'f', _, rfl, rfl, by decide, fun rest _ => rfl⟩
  | string h =>
    cases h with | @mk text hbody =>
    refine ⟨'"', _, rfl, rfl, by decide, fun rest _ => ?_⟩
    rw [List.cons_append, List.append_assoc]
    exact skipStringBody_of hbody rest
  | number h =>
    cases h with | mk hsign hwhole hfraction hexponent =>
    obtain ⟨c, tail, rfl, hc⟩ := opens_of_isWhole hwhole
    obtain rfl | rfl := hsign
    · have hne : ∀ d : Char, d.isDigit = false → c ≠ d := fun d hd => digit_ne hc hd
      refine ⟨c, _, rfl, ?_, ?_, fun rest hrest => ?_⟩
      · simp [isSpace, hne]
      · simp [hne]
      · have hskip := skipNumber_of hwhole hfraction hexponent hrest
        unfold skipScalar
        rw [if_neg (hne 'n' rfl), if_neg (hne 't' rfl), if_neg (hne 'f' rfl),
          if_neg (hne '-' rfl), if_pos hc]
        simpa only [List.append_assoc, List.nil_append] using hskip
    · refine ⟨'-', _, rfl, rfl, by decide, fun rest hrest => ?_⟩
      have hskip := skipNumber_of hwhole hfraction hexponent hrest
      simp only [List.append_assoc, List.cons_append, List.nil_append] at hskip ⊢
      exact hskip

/-! ## Members of brackets -/

/-- A member starts with no blank and not with what closes the bracket. -/
def OpensIn (bracket : Bracket) (text : List Char) : Prop :=
  ∃ c tail, text = c :: tail ∧ isSpace c = false ∧ c ≠ bracket.closing

/-- The text of a member is passed over, in a number of steps that its length bounds. -/
def SkipsMember (bracket : Bracket) (text : List Char) : Prop :=
  ∃ n ≤ 3 * text.length + 1, ∀ fuel stack before rest, IsBlank before → Follows rest →
    skipMember (fuel + n) bracket stack (before ++ (text ++ rest))
      = skipRest fuel true (bracket :: stack) rest

theorem closing_follows (bracket : Bracket) (rest : List Char) :
    Follows (bracket.closing :: rest) := by
  cases bracket <;> exact follows_cons (by decide) rest

theorem skipsBlanks_skipRest (fuel : Nat) (afterValue : Bool) (bracket : Bracket)
    (stack : List Bracket) : SkipsBlanks (skipRest (fuel + 1) afterValue (bracket :: stack)) := by
  intro before s h
  rw [skipRest, skipsBlanks_peek_bind _ before s h]

theorem skipRest_close (fuel : Nat) (afterValue : Bool) (bracket : Bracket)
    (stack : List Bracket) (rest : List Char) :
    skipRest (fuel + 1) afterValue (bracket :: stack) (bracket.closing :: rest)
      = skipRest fuel true stack rest := by
  rw [skipRest]
  cases bracket <;> rfl

theorem skipRest_member {bracket : Bracket} {before text : List Char} (first : Bool)
    (hskips : SkipsMember bracket text) (hopens : OpensIn bracket text)
    (hbefore : IsBlank before) :
    ∃ n ≤ 3 * text.length + 1, ∀ fuel stack rest, Follows rest →
      skipRest (fuel + n + 1) (!first) (bracket :: stack) (lead first ++ (before ++ (text ++ rest)))
        = skipRest fuel true (bracket :: stack) rest := by
  obtain ⟨n, hn, hskips⟩ := hskips
  refine ⟨n, hn, fun fuel stack rest hrest => ?_⟩
  cases first with
  | true =>
    have hmember := hskips fuel stack [] rest nofun hrest
    obtain ⟨c, tail, rfl, hspace, hclosing⟩ := hopens
    rw [show lead true = [] from rfl, List.nil_append,
      skipsBlanks_skipRest _ _ _ _ before _ hbefore,
      skipRest, List.cons_append, bind_ok (peek_cons hspace _)]
    simp only [Bool.not_true, Bool.false_eq_true, and_false, if_false, if_neg hclosing]
    exact hmember
  | false =>
    have hmember := hskips fuel stack before rest hbefore hrest
    rw [show lead false = [','] from rfl, List.singleton_append, skipRest,
      bind_ok (peek_cons (by decide) _)]
    exact hmember

theorem skipRest_members {α : Type} {bracket : Bracket} {form : α → List Char → Prop}
    (hform : ∀ a text, form a text → SkipsMember bracket text ∧ OpensIn bracket text)
    {as : List α} {text : List Char} (h : Members form as text) {first : Bool}
    (hfirst : as = [] → first = true) :
    ∃ n ≤ 3 * text.length + 2, ∀ fuel stack rest,
      skipRest (fuel + n + 1) (!first) (bracket :: stack)
        (lead first ++ (text ++ bracket.closing :: rest)) = skipRest fuel true stack rest := by
  -- one step for the closing bracket; a member takes one more than its own text, which the comma
  -- after it pays for
  induction h generalizing first with
  | @none blanks hblanks =>
    refine ⟨0, by omega, fun fuel stack rest => ?_⟩
    rw [hfirst rfl, show lead true = [] from rfl, List.nil_append,
      skipsBlanks_skipRest _ _ _ _ blanks _ hblanks]
    exact skipRest_close fuel _ bracket stack rest
  | @last a before text after hbefore htext hafter =>
    obtain ⟨hskips, hopens⟩ := hform a text htext
    obtain ⟨n, hn, hmember⟩ := skipRest_member first hskips hopens hbefore
    refine ⟨n + 1, by simp; omega, fun fuel stack rest => ?_⟩
    have hfollows := (closing_follows bracket rest).blanks hafter
    have hrun := hmember (fuel + 1) stack _ hfollows
    rw [skipsBlanks_skipRest _ _ _ _ after _ hafter, skipRest_close] at hrun
    rw [show fuel + (n + 1) + 1 = fuel + 1 + n + 1 by omega]
    simpa only [List.append_assoc] using hrun
  | @more a b as before text after more hbefore htext hafter _ ih =>
    obtain ⟨hskips, hopens⟩ := hform a text htext
    obtain ⟨n, hn, hmember⟩ := skipRest_member first hskips hopens hbefore
    have hlater : b :: as = [] → false = true := nofun
    obtain ⟨n', hn', hmore⟩ := ih hlater
    refine ⟨n' + 1 + n, by simp; omega, fun fuel stack rest => ?_⟩
    have hfollows := (follows_cons (c := ',') (by decide)
      (more ++ bracket.closing :: rest)).blanks hafter
    have hrun := hmember (fuel + n' + 1) stack _ hfollows
    rw [skipsBlanks_skipRest _ _ _ _ after _ hafter] at hrun
    rw [show fuel + (n' + 1 + n) + 1 = fuel + n' + 1 + n + 1 by omega, ← hmore fuel stack rest]
    simpa [lead] using hrun

/-! ## Values -/

theorem opens_of_isValue {depth : Nat} {text : List Char} (h : IsValue depth text) :
    OpensIn .list text := by
  have hscalar : IsScalar text → OpensIn .list text := by
    intro h
    obtain ⟨c, tail, rfl, hspace, hne, -⟩ := skipScalar_of h
    exact ⟨c, tail, rfl, hspace, fun hc => hne (by rw [hc]; decide)⟩
  cases depth with
  | zero => exact hscalar h
  | succ depth =>
    obtain h | ⟨items, ⟨-⟩⟩ | ⟨fields, ⟨-⟩⟩ := h
    · exact hscalar h
    · exact ⟨'[', _, rfl, rfl, by decide⟩
    · exact ⟨'\x7b', _, rfl, rfl, by decide⟩

theorem skipFrom_scalar {text : List Char} (h : IsScalar text) (fuel : Nat)
    (stack : List Bracket) {before rest : List Char} (hbefore : IsBlank before)
    (hrest : Follows rest) :
    skipFrom (fuel + 1) stack (before ++ (text ++ rest)) = skipRest fuel true stack rest := by
  obtain ⟨c, tail, rfl, hspace, hne, hskip⟩ := skipScalar_of h
  have hlist : c ≠ '[' := fun hc => hne (by rw [hc]; decide)
  have hobject : c ≠ '\x7b' := fun hc => hne (by rw [hc]; decide)
  have hskip := hskip rest hrest
  rw [List.cons_append] at hskip ⊢
  rw [skipFrom, skipsBlanks_peek_bind _ before _ hbefore, bind_ok (peek_cons hspace _)]
  simp only [if_neg hlist, if_neg hobject]
  rw [bind_ok hskip]

/-- The same of a value. -/
def SkipsValue (text : List Char) : Prop :=
  ∃ n ≤ 3 * text.length, ∀ fuel stack before rest, IsBlank before → Follows rest →
    skipFrom (fuel + n) stack (before ++ (text ++ rest)) = skipRest fuel true stack rest

theorem skipsValue_scalar {text : List Char} (h : IsScalar text) : SkipsValue text := by
  refine ⟨1, ?_, fun fuel stack before rest hbefore hrest =>
    skipFrom_scalar h fuel stack hbefore hrest⟩
  obtain ⟨c, tail, rfl, -⟩ := skipScalar_of h
  simp
  omega

/-- The character that opens a bracket. -/
def opening : Bracket → Char
  | .list => '['
  | .object => '\x7b'

theorem skipsValue_bracketed {α : Type} {bracket : Bracket} {form : α → List Char → Prop}
    (hform : ∀ a text, form a text → SkipsMember bracket text ∧ OpensIn bracket text)
    {as : List α} {text : List Char}
    (h : Bracketed (opening bracket) bracket.closing form as text) :
    SkipsValue text := by
  cases h with | @mk text hmembers =>
  have hfirst : as = [] → true = true := fun _ => rfl
  obtain ⟨n, hn, hrun⟩ := skipRest_members hform hmembers hfirst
  refine ⟨n + 2, by simp; omega, fun fuel stack before rest hbefore _ => ?_⟩
  have hopen : skipFrom (fuel + n + 2) stack (opening bracket :: (text ++ bracket.closing :: rest))
      = skipRest (fuel + n + 1) false (bracket :: stack) (text ++ bracket.closing :: rest) := by
    rw [skipFrom]
    cases bracket <;> rfl
  have hrun : skipRest (fuel + n + 1) false (bracket :: stack) (text ++ bracket.closing :: rest)
      = skipRest fuel true stack rest := hrun fuel stack rest
  have hblanks : skipFrom (fuel + n + 2) stack (before ++ (opening bracket :: (text ++
      bracket.closing :: rest))) = skipFrom (fuel + n + 2) stack (opening bracket :: (text ++
      bracket.closing :: rest)) := by
    rw [skipFrom, skipsBlanks_peek_bind _ before _ hbefore]
  rw [← Nat.add_assoc, List.cons_append, List.append_assoc, List.singleton_append, hblanks, hopen,
    hrun]

theorem skipsMember_list {text : List Char} (h : SkipsValue text) : SkipsMember .list text := by
  obtain ⟨n, hn, hrun⟩ := h
  refine ⟨n + 1, by omega, fun fuel stack before rest hbefore hrest => ?_⟩
  exact hrun fuel (.list :: stack) before rest hbefore hrest

theorem skipKey_of {before keyText after : List Char} (hbefore : IsBlank before)
    (h : IsString keyText) (hafter : IsBlank after) (s : List Char) :
    skipKey (before ++ (keyText ++ (after ++ ':' :: s))) = .ok () s := by
  cases h with | @mk text hbody =>
  have hstring := skipStringBody_of hbody (after ++ ':' :: s)
  unfold skipKey
  rw [List.cons_append, List.append_assoc, List.singleton_append,
    skipsBlanks_peek_bind _ before _ hbefore, bind_ok (peek_cons (by decide) _)]
  simp only [if_true]
  rw [bind_ok (advance_cons '"' _), bind_ok hstring]
  exact colon_blanks hafter s

theorem skipsMember_object {form : Unit → List Char → Prop}
    (hform : ∀ text, form () text → SkipsValue text) {field : Unit × Unit} {text : List Char}
    (h : Keyed (fun _ => IsString) form field text) : SkipsMember .object text := by
  cases h with | @mk _ _ keyText after before' value hkey hafter hbefore' hvalue =>
  obtain ⟨n, hn, hrun⟩ := hform value hvalue
  refine ⟨n + 1, by simp; omega, fun fuel stack before rest hbefore hrest => ?_⟩
  have hrun := hrun fuel (.object :: stack) before' rest hbefore' hrest
  have hkey := skipKey_of hbefore hkey hafter (before' ++ (value ++ rest))
  rw [← Nat.add_assoc, skipMember]
  simp only [List.append_assoc, List.cons_append]
  rw [bind_ok hkey]
  exact hrun

theorem skipsValue_of {depth : Nat} {text : List Char} (h : IsValue depth text) :
    SkipsValue text := by
  -- there is no value to go by, only how deep the brackets of its text are nested
  induction depth generalizing text with
  | zero => exact skipsValue_scalar h
  | succ depth ih =>
    obtain h | ⟨items, h⟩ | ⟨fields, h⟩ := h
    · exact skipsValue_scalar h
    · have hmember : ∀ (_ : Unit) text, IsValue depth text →
          SkipsMember .list text ∧ OpensIn .list text := fun _ text hvalue =>
        ⟨skipsMember_list (ih hvalue), opens_of_isValue hvalue⟩
      exact skipsValue_bracketed hmember h
    · have hmember : ∀ (field : Unit × Unit) text,
          Keyed (fun _ => IsString) (fun _ => IsValue depth) field text →
            SkipsMember .object text ∧ OpensIn .object text := by
        intro field text hfield
        refine ⟨skipsMember_object (fun text hvalue => ih hvalue) hfield, ?_⟩
        obtain ⟨⟨-⟩, -⟩ := hfield
        exact ⟨'"', _, rfl, rfl, by decide⟩
      exact skipsValue_bracketed hmember h

theorem skipValue_of {text : List Char} (h : IsJson text) {before rest : List Char}
    (hbefore : IsBlank before) (hrest : Follows rest) :
    skipValue (before ++ (text ++ rest)) = .ok () rest := by
  obtain ⟨depth, h⟩ := h
  obtain ⟨n, hn, hrun⟩ := skipsValue_of h
  obtain ⟨fuel, hfuel⟩ := Nat.exists_eq_add_of_le' (m := n)
    (n := 3 * (before ++ (text ++ rest)).length + 3) (by simp; omega)
  unfold skipValue
  rw [hfuel, hrun fuel [] before rest hbefore hrest, skipRest]
  rfl

end CrossShell.Json.Reader
