import CrossShell.Json.Value

/-!
The JSON texts of a value.

A value has many texts. Blanks may stand between any two tokens, a character of a string may stand
as itself or as an escape, the fields of an object may come in any order. `Bracketed` and `Keyed`
put the texts of lists and objects together from those of their parts. `IsValue` are the texts of
any value at all, said by their form only; `Record` says what the fields of an object have to be if
some of its names are known and all others mean nothing.
-/

set_option autoImplicit false

namespace CrossShell.Json

variable {α κ : Type}

/-- Blanks, as many as one likes. -/
def IsBlank (text : List Char) : Prop :=
  ∀ c ∈ text, c ∈ [' ', '\n', '\t', '\r']

/-! ## Strings -/

/-- What a letter after a backslash stands for. -/
def letterEscapes : List (Char × Char) :=
  [('"', '"'), ('\\', '\\'), ('/', '/'), ('b', '\x08'), ('f', '\x0c'), ('n', '\n'), ('r', '\r'),
   ('t', '\t')]

/-- Four hexadecimal digits, in either case, and the number that they write. -/
inductive Quad : List Char → Nat → Prop
  | mk {a b c d : Char} {w x y z : Nat} (ha : Text.hexValue? a = some w)
      (hb : Text.hexValue? b = some x) (hc : Text.hexValue? c = some y)
      (hd : Text.hexValue? d = some z) :
      Quad [a, b, c, d] (w * 0x1000 + x * 0x100 + y * 0x10 + z)

/-- The texts of a character in a string. A character beyond four digits is written as two halves,
as UTF-16 has them. -/
inductive SpellsChar : Char → List Char → Prop
  | plain {c : Char} (hquote : c ≠ '"') (hback : c ≠ '\\') (hcontrol : 0x20 ≤ c.toNat) :
      SpellsChar c [c]
  | letter {e c : Char} (h : (e, c) ∈ letterEscapes) : SpellsChar c ['\\', e]
  | digits {c : Char} {quad : List Char} (h : Quad quad c.toNat) :
      SpellsChar c ('\\' :: 'u' :: quad)
  | halves {c : Char} {high low : List Char} {m n : Nat} (hhigh : Quad high m)
      (hlow : Quad low n) (hm : 0xD800 ≤ m ∧ m ≤ 0xDBFF) (hn : 0xDC00 ≤ n ∧ n ≤ 0xDFFF)
      (hc : c.toNat = (m - 0xD800) * 0x400 + (n - 0xDC00) + 0x10000) :
      SpellsChar c ('\\' :: 'u' :: (high ++ '\\' :: 'u' :: low))

inductive SpellsChars : List Char → List Char → Prop
  | nil : SpellsChars [] []
  | cons {c : Char} {cs text rest : List Char} (h : SpellsChar c text)
      (hrest : SpellsChars cs rest) : SpellsChars (c :: cs) (text ++ rest)

/-- The texts of a string, with its quotes. -/
inductive SpellsString : String → List Char → Prop
  | mk {s : String} {text : List Char} (h : SpellsChars s.toList text) :
      SpellsString s ('"' :: (text ++ ['"']))

/-- What may stand between the quotes of a string if nobody reads it: four digits after a backslash
need not write a character. -/
inductive IsStringBody : List Char → Prop
  | nil : IsStringBody []
  | plain {c : Char} {rest : List Char} (hquote : c ≠ '"') (hback : c ≠ '\\')
      (hcontrol : 0x20 ≤ c.toNat) (hrest : IsStringBody rest) : IsStringBody (c :: rest)
  | letter {e c : Char} {rest : List Char} (h : (e, c) ∈ letterEscapes)
      (hrest : IsStringBody rest) : IsStringBody ('\\' :: e :: rest)
  | digits {quad rest : List Char} {n : Nat} (h : Quad quad n) (hrest : IsStringBody rest) :
      IsStringBody ('\\' :: 'u' :: (quad ++ rest))

inductive IsString : List Char → Prop
  | mk {text : List Char} (h : IsStringBody text) : IsString ('"' :: (text ++ ['"']))

theorem quad_of {a b c d : Char} {n w x y z : Nat} (ha : Text.hexValue? a = some w)
    (hb : Text.hexValue? b = some x) (hc : Text.hexValue? c = some y)
    (hd : Text.hexValue? d = some z) (hn : w * 0x1000 + x * 0x100 + y * 0x10 + z = n) :
    Quad [a, b, c, d] n :=
  hn ▸ .mk ha hb hc hd

theorem quad_hexPair {n : Nat} (h : n < 256) : Quad ('0' :: '0' :: Text.hexPair n) n := by
  have hzero : Text.hexValue? '0' = some 0 := rfl
  have hhigh := Text.hexValue?_hexDigit (n / 16 % 16) (by omega)
  have hlow := Text.hexValue?_hexDigit (n % 16) (by omega)
  exact quad_of hzero hzero hhigh hlow (by omega)

theorem spellsChar_escapeChar (c : Char) : SpellsChar c (escapeChar c) := by
  unfold escapeChar
  iterate 7
    split
    · next h =>
      subst h
      exact .letter (by decide)
  split
  · next h => exact .digits (quad_hexPair (by omega))
  · next hquote hback _ _ _ _ _ h => exact .plain hquote hback (Nat.not_lt.1 h)

theorem spellsChars_escaped (cs : List Char) : SpellsChars cs (cs.flatMap escapeChar) := by
  induction cs with
  | nil => exact .nil
  | cons c cs ih => exact .cons (spellsChar_escapeChar c) ih

/-- Among the texts of a string is the one that is written. -/
theorem spellsString_quote (s : String) : SpellsString s (quote s.toList) :=
  .mk (spellsChars_escaped s.toList)

/-! ## Numbers -/

/-- At least one digit. -/
def IsDigits (text : List Char) : Prop :=
  text ≠ [] ∧ ∀ c ∈ text, c.isDigit = true

/-- The whole part of a number, which does not start with a needless zero. -/
inductive IsWhole : List Char → Prop
  | zero : IsWhole ['0']
  | digits {text : List Char} (h : IsDigits text) (hzero : text.head? ≠ some '0') : IsWhole text

inductive IsFraction : List Char → Prop
  | absent : IsFraction []
  | digits {text : List Char} (h : IsDigits text) : IsFraction ('.' :: text)

inductive IsExponent : List Char → Prop
  | absent : IsExponent []
  | digits {mark : Char} {sign text : List Char} (hmark : mark = 'e' ∨ mark = 'E')
      (hsign : sign = [] ∨ sign = ['+'] ∨ sign = ['-']) (h : IsDigits text) :
      IsExponent (mark :: (sign ++ text))

inductive IsNumber : List Char → Prop
  | mk {sign whole fraction exponent : List Char} (hsign : sign = [] ∨ sign = ['-'])
      (hwhole : IsWhole whole) (hfraction : IsFraction fraction)
      (hexponent : IsExponent exponent) :
      IsNumber (sign ++ (whole ++ (fraction ++ exponent)))

/-! ## Lists and objects -/

/-- Members with commas between them and blanks around each. -/
inductive Members (form : α → List Char → Prop) : List α → List Char → Prop
  | none {blanks : List Char} (h : IsBlank blanks) : Members form [] blanks
  | last {a : α} {before text after : List Char} (hbefore : IsBlank before) (h : form a text)
      (hafter : IsBlank after) : Members form [a] (before ++ (text ++ after))
  | more {a b : α} {as : List α} {before text after rest : List Char} (hbefore : IsBlank before)
      (h : form a text) (hafter : IsBlank after) (hrest : Members form (b :: as) rest) :
      Members form (a :: b :: as) (before ++ (text ++ (after ++ ',' :: rest)))

/-- Members between two brackets. -/
inductive Bracketed (opening closing : Char) (form : α → List Char → Prop) :
    List α → List Char → Prop
  | mk {as : List α} {text : List Char} (h : Members form as text) :
      Bracketed opening closing form as (opening :: (text ++ [closing]))

/-- A key and a value with a colon between them. -/
inductive Keyed (keyForm : κ → List Char → Prop) (form : α → List Char → Prop) :
    κ × α → List Char → Prop
  | mk {key : κ} {a : α} {keyText after before text : List Char} (hkey : keyForm key keyText)
      (hafter : IsBlank after) (hbefore : IsBlank before) (h : form a text) :
      Keyed keyForm form (key, a) (keyText ++ (after ++ ':' :: (before ++ text)))

/-- The texts of a value that may be null. -/
inductive SpellsOptional (form : α → List Char → Prop) : Option α → List Char → Prop
  | null : SpellsOptional form none ['n', 'u', 'l', 'l']
  | value {a : α} {text : List Char} (h : form a text) : SpellsOptional form (some a) text

/-- The text of a truth value. -/
inductive SpellsBool : Bool → List Char → Prop
  | yes : SpellsBool true ['t', 'r', 'u', 'e']
  | no : SpellsBool false ['f', 'a', 'l', 's', 'e']

/-! ## Values of any shape -/

inductive IsScalar : List Char → Prop
  | null : IsScalar ['n', 'u', 'l', 'l']
  | bool {b : Bool} {text : List Char} (h : SpellsBool b text) : IsScalar text
  | string {text : List Char} (h : IsString text) : IsScalar text
  | number {text : List Char} (h : IsNumber text) : IsScalar text

/-- The texts of values whose brackets are nested at most so deep. -/
def IsValue : Nat → List Char → Prop
  | 0 => IsScalar
  | depth + 1 => fun text =>
    IsScalar text ∨
      (∃ items : List Unit, Bracketed '[' ']' (fun _ => IsValue depth) items text) ∨
      ∃ fields : List (Unit × Unit),
        Bracketed '\x7b' '\x7d' (Keyed (fun _ => IsString) fun _ => IsValue depth) fields text

/-- The texts of all values. -/
def IsJson (text : List Char) : Prop :=
  ∃ depth, IsValue depth text

/-! ## Records -/

/-- The fields of an object, in any order, say what they have to: those with one of the given names
come once at most and `tells` has their texts, those that are missing may be, and what other fields
hold is some value. -/
structure Record (names : List String) (tells : String → List Char → Prop) (omits : String → Prop)
    (fields : List (String × List Char)) : Prop where
  once : fields.Pairwise fun f f' => f.1 ∈ names → f'.1 ≠ f.1
  known : ∀ f ∈ fields, f.1 ∈ names → tells f.1 f.2
  missing : ∀ name ∈ names, name ∉ fields.map Prod.fst → omits name
  other : ∀ f ∈ fields, f.1 ∉ names → IsJson f.2

/-- The texts of an object that is a record. -/
def SpellsRecord (names : List String) (tells : String → List Char → Prop)
    (omits : String → Prop) (text : List Char) : Prop :=
  ∃ fields, Record names tells omits fields ∧
    Bracketed '\x7b' '\x7d' (Keyed SpellsString fun value text => text = value) fields text

/-- The texts of a whole document, whose value has one of the given texts. -/
def SpellsDocument (form : List Char → Prop) (text : List Char) : Prop :=
  ∃ before value after, IsBlank before ∧ form value ∧ IsBlank after ∧
    text = before ++ (value ++ after)

/-! ## The compact text of a value is one of its texts -/

theorem isBlank_nil : IsBlank [] :=
  nofun

theorem spellsBool_compact (b : Bool) : SpellsBool b (Json.bool b).compactChars := by
  cases b
  · exact .no
  · exact .yes

theorem members_compactItems {form : α → List Char → Prop} {write : α → Json} {as : List α}
    (h : ∀ a ∈ as, form a (write a).compactChars) :
    Members form as (compactItems (as.map write)) := by
  induction as with
  | nil => exact .none isBlank_nil
  | cons a as ih =>
    have ha := h a List.mem_cons_self
    have hrest := ih fun b hb => h b (List.mem_cons_of_mem a hb)
    cases as with
    | nil =>
      have hlast := Members.last isBlank_nil ha isBlank_nil
      simpa [compactItems, compactMoreItems] using hlast
    | cons b as =>
      have hmore := Members.more isBlank_nil ha isBlank_nil hrest
      simpa [compactItems, compactMoreItems] using hmore

theorem bracketed_array {form : α → List Char → Prop} {write : α → Json} {as : List α}
    (h : ∀ a ∈ as, form a (write a).compactChars) :
    Bracketed '[' ']' form as (Json.array (as.map write)).compactChars :=
  .mk (members_compactItems h)

theorem field_compact {form : α → List Char → Prop} {a : α} {v : Json} (key : String)
    (h : form a v.compactChars) : Keyed SpellsString form (key, a) (compactField (key, v)) :=
  .mk (spellsString_quote key) isBlank_nil isBlank_nil h

/-- The fields may come from anything that has a key, a value and a JSON. -/
theorem members_compactFields {β : Type} {form : α → List Char → Prop} {write : β → Json}
    {bs : List β} (key : β → String) (value : β → α)
    (h : ∀ b ∈ bs, form (value b) (write b).compactChars) :
    Members (Keyed SpellsString form) (bs.map fun b => (key b, value b))
      (compactFields (bs.map fun b => (key b, write b))) := by
  induction bs with
  | nil => exact .none isBlank_nil
  | cons b bs ih =>
    have hb := field_compact (key b) (h b List.mem_cons_self)
    have hrest := ih fun c hc => h c (List.mem_cons_of_mem b hc)
    cases bs with
    | nil =>
      have hlast := Members.last isBlank_nil hb isBlank_nil
      simpa [compactFields, compactMoreFields] using hlast
    | cons c bs =>
      have hmore := Members.more isBlank_nil hb isBlank_nil hrest
      simpa [compactFields, compactMoreFields] using hmore

theorem bracketed_object {form : α → List Char → Prop} {write : α → Json}
    {kvs : List (String × α)} (h : ∀ e ∈ kvs, form e.2 (write e.2).compactChars) :
    Bracketed '\x7b' '\x7d' (Keyed SpellsString form) kvs
      (Json.object (kvs.map fun e => (e.1, write e.2))).compactChars := by
  have hmembers := members_compactFields Prod.fst Prod.snd h
  rw [show (kvs.map fun e => (e.1, e.2)) = kvs from List.map_id kvs] at hmembers
  exact .mk hmembers

theorem bracketed_fields (fs : List (String × Json)) :
    Bracketed '\x7b' '\x7d' (Keyed SpellsString fun value text => text = value)
      (fs.map fun f => (f.1, f.2.compactChars)) (Json.object fs).compactChars := by
  have hmembers : Members (Keyed SpellsString fun value text => text = value)
      (fs.map fun f => (f.1, f.2.compactChars)) (compactFields (fs.map fun f => (f.1, f.2))) :=
    members_compactFields Prod.fst (fun f : String × Json => f.2.compactChars) fun _ _ => rfl
  rw [show (fs.map fun f => (f.1, f.2)) = fs from List.map_id fs] at hmembers
  exact .mk hmembers

theorem spellsRecord_compact {names : List String} {tells : String → List Char → Prop}
    {omits : String → Prop} {fs : List (String × Json)}
    (h : Record names tells omits (fs.map fun f => (f.1, f.2.compactChars))) :
    SpellsRecord names tells omits (Json.object fs).compactChars :=
  ⟨_, h, bracketed_fields fs⟩

theorem spellsDocument_compact {form : List Char → Prop} {v : Json} (h : form v.compactChars) :
    SpellsDocument form v.compact.toList := by
  refine ⟨[], v.compactChars, [], isBlank_nil, h, isBlank_nil, ?_⟩
  simp [compact]

end CrossShell.Json
