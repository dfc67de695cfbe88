import CrossShell.Proofs.Json.Record

/-!
Compact JSON text read back as values of given types.

The compact text of a value is one of its texts, so what reads them all reads it. There is one lemma
for every shape of value, from strings to records, so that a type's own round trip is put together
from the round trips of its parts.
-/

set_option autoImplicit false

namespace CrossShell.Json.Reader

variable {α β σ : Type}

/-! ## Scalars -/

theorem quote_append (text rest : List Char) :
    quote text ++ rest = '"' :: (text.flatMap escapeChar ++ '"' :: rest) := by
  simp [quote]

theorem reads_textAs (expected : String) (s : String) :
    Reads (textAs expected) (quote s.toList) s :=
  reads_spelledTextAs (spellsString_quote s)

theorem reads_text (s : String) : Reads text (Json.string s).compactChars s :=
  reads_textAs "a string" s

theorem reads_bool (b : Bool) : Reads bool (Json.bool b).compactChars b :=
  reads_spelledBool (spellsBool_compact b)

/-- A known word is read back as what it stands for. -/
theorem reads_variant {known : List (String × α)} {word : String} {a : α}
    (h : known.lookup word = some a) :
    Reads (variant known) (Json.string word).compactChars a := by
  intro rest
  have hname : variantName known (quote word.toList ++ rest) = .ok a rest := by
    unfold variantName placed
    rw [bind_ok (reads_textAs "variant identifier" word rest), h]
    rfl
  have hopen : (Json.string word).compactChars ++ rest
      = '"' :: (word.toList.flatMap escapeChar ++ '"' :: rest) := quote_append word.toList rest
  rw [quote_append] at hname
  unfold variant
  rw [hopen, bind_ok (peek_cons (by decide) _)]
  exact hname

/-! ## Lists, maps and records -/

theorem opens_compactChars (v : Json) : Opens v.compactChars := by
  cases v with
  | null => exact ⟨'n', _, rfl, by decide, by decide⟩
  | bool b =>
    cases b with
    | true => exact ⟨'t', _, rfl, by decide, by decide⟩
    | false => exact ⟨'f', _, rfl, by decide, by decide⟩
  | string s => exact ⟨'"', _, rfl, by decide, by decide⟩
  | array items => exact ⟨'[', _, rfl, by decide, by decide⟩
  | object fields => exact ⟨'\x7b', _, rfl, by decide, by decide⟩

/-- A list is read back if every item is. -/
theorem reads_list {item : Reader α} {write : α → Json} {as : List α}
    (h : ∀ a ∈ as, Reads item (write a).compactChars a) :
    Reads (list item) (Json.array (as.map write)).compactChars as := by
  have hform : ∀ a ∈ as, Reads item (write a).compactChars a ∧ Opens (write a).compactChars :=
    fun a ha => ⟨h a ha, opens_compactChars (write a)⟩
  exact reads_spelledList (fun _ _ hread => hread) (bracketed_array hform)

/-- A map is read back as what its entries write, one after the other. -/
theorem reads_map {value : Reader α} {write : α → Json} {kvs : List (String × α)}
    (hskips : SkipsBlanks value) (h : ∀ e ∈ kvs, Reads value (write e.2).compactChars e.2) :
    Reads (map value) (Json.object (kvs.map fun e => (e.1, write e.2))).compactChars
      (SortedMap.ofList kvs) :=
  reads_spelledMap (fun _ _ hread => hread) hskips (bracketed_object h)

/-- A record is read back if its fields can be collected and then make up the value. -/
theorem reads_record {expected : String} {fields : Fields σ} {finish : σ → Reader α}
    {fromList : Reader α} {fs : List (String × Json)} {state : σ} {a : α}
    (h : Collects fields fields.start (fs.map fun f => (f.1, f.2.compactChars)) state)
    (hfinish : finish state = pure a) :
    Reads (record expected fields finish fromList) (Json.object fs).compactChars a :=
  reads_collected h hfinish (bracketed_fields fs)

/-! ## Texts of fields told apart -/

theorem compactField_append (key : String) (v : Json) (s : List Char) :
    compactField (key, v) ++ s = quote key.toList ++ ':' :: (v.compactChars ++ s) := by
  simp [compactField]

theorem compactFields_cons (key : String) (v : Json) (fs : List (String × Json)) (s : List Char) :
    compactFields ((key, v) :: fs) ++ s
      = quote key.toList ++ ':' :: (v.compactChars ++ (compactMoreFields fs ++ s)) := by
  rw [compactFields, List.append_assoc, compactField_append]

theorem compactMoreFields_cons (key : String) (v : Json) (fs : List (String × Json))
    (s : List Char) :
    compactMoreFields ((key, v) :: fs) ++ s
      = ',' :: (quote key.toList ++ ':' :: (v.compactChars ++ (compactMoreFields fs ++ s))) := by
  rw [← compactField_append]
  simp [compactMoreFields]

theorem compactFields_unique {r : Reader α} {key : String} {v v' : Json} {a a' : α}
    {fs fs' : List (String × Json)} {s s' : List Char} (h : Reads r v.compactChars a)
    (h' : Reads r v'.compactChars a')
    (heq : compactFields ((key, v) :: fs) ++ s = compactFields ((key, v') :: fs') ++ s') :
    a = a' ∧ compactMoreFields fs ++ s = compactMoreFields fs' ++ s' := by
  rw [compactFields_cons, compactFields_cons] at heq
  have hrest := List.append_cancel_left heq
  injection hrest with _ hvalues
  exact h.unique h' hvalues

theorem compactMoreFields_unique {r : Reader α} {key : String} {v v' : Json} {a a' : α}
    {fs fs' : List (String × Json)} {s s' : List Char} (h : Reads r v.compactChars a)
    (h' : Reads r v'.compactChars a')
    (heq : compactMoreFields ((key, v) :: fs) ++ s = compactMoreFields ((key, v') :: fs') ++ s') :
    a = a' ∧ compactMoreFields fs ++ s = compactMoreFields fs' ++ s' := by
  rw [compactMoreFields_cons, compactMoreFields_cons] at heq
  injection heq with _ hfield
  have hrest := List.append_cancel_left hfield
  injection hrest with _ hvalues
  exact h.unique h' hvalues

theorem object_append (fs : List (String × Json)) (s : List Char) :
    (Json.object fs).compactChars ++ s = '\x7b' :: (compactFields fs ++ '\x7d' :: s) := by
  simp [compactChars]

end CrossShell.Json.Reader
