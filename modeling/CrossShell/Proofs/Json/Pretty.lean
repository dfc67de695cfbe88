import CrossShell.Proofs.Json.RoundTrip

/-!
Indented JSON text stands for one value.

No indented text of a value goes on as that of another one, at any depth of nesting, so a value and
what follows its text can be told from the whole. The text of an array or an object is taken apart
item by item: after an item comes either a comma or the line that closes.
-/

set_option autoImplicit false

namespace CrossShell.Json

/-! ## How texts begin -/

/-- The character that the text of a value begins with. -/
def opening : Json → Char
  | .null => 'n'
  | .bool true => 't'
  | .bool false => 'f'
  | .string _ => '"'
  | .array _ => '['
  | .object _ => '\x7b'

theorem head?_prettyChars (depth : Nat) (v : Json) (s : List Char) :
    (prettyChars depth v ++ s).head? = some v.opening := by
  cases v with
  | null => rfl
  | bool b => cases b <;> rfl
  | string text => rfl
  | array items => cases items <;> rfl
  | object fields => cases fields <;> rfl

theorem opening_eq {depth : Nat} {v v' : Json} {s s' : List Char}
    (h : prettyChars depth v ++ s = prettyChars depth v' ++ s') : v.opening = v'.opening := by
  have hhead := congrArg List.head? h
  rw [head?_prettyChars, head?_prettyChars] at hhead
  exact Option.some.inj hhead

/-! ## Parts of a text -/

theorem quote_unique {a b : String} {s s' : List Char}
    (h : quote a.toList ++ s = quote b.toList ++ s') : a = b ∧ s = s' :=
  (Reader.reads_text a).unique (Reader.reads_text b) h

theorem pretty_array_cons (depth : Nat) (item : Json) (rest : List Json) (s : List Char) :
    prettyChars depth (.array (item :: rest)) ++ s
      = '[' :: (newline (depth + 1) ++ (prettyChars (depth + 1) item
          ++ (prettyItems (depth + 1) rest ++ (newline depth ++ ']' :: s)))) := by
  simp [prettyChars]

theorem pretty_object_cons (depth : Nat) (field : String × Json) (rest : List (String × Json))
    (s : List Char) :
    prettyChars depth (.object (field :: rest)) ++ s
      = '\x7b' :: (newline (depth + 1) ++ (prettyField (depth + 1) field
          ++ (prettyFields (depth + 1) rest ++ (newline depth ++ '\x7d' :: s)))) := by
  simp [prettyChars]

theorem prettyItems_cons (depth : Nat) (item : Json) (rest : List Json) (s : List Char) :
    prettyItems depth (item :: rest) ++ s
      = ',' :: (newline depth ++ (prettyChars depth item ++ (prettyItems depth rest ++ s))) := by
  simp [prettyItems]

theorem prettyFields_cons (depth : Nat) (field : String × Json) (rest : List (String × Json))
    (s : List Char) :
    prettyFields depth (field :: rest) ++ s
      = ',' :: (newline depth ++ (prettyField depth field ++ (prettyFields depth rest ++ s))) := by
  simp [prettyFields]

theorem prettyField_append (depth : Nat) (key : String) (v : Json) (s : List Char) :
    prettyField depth (key, v) ++ s
      = quote key.toList ++ ':' :: ' ' :: (prettyChars depth v ++ s) := by
  simp [prettyField]

/-! ## Whole texts -/

-- Structural in the first value. Further items begin with a comma and the line that closes with a
-- line feed, so two lists of different lengths differ at the first character after the shorter one.
mutual

/-- A value and what follows its text are told from the whole. -/
theorem prettyChars_unique (depth : Nat) (v v' : Json) (s s' : List Char)
    (h : prettyChars depth v ++ s = prettyChars depth v' ++ s') : v = v' ∧ s = s' := by
  have hopening := opening_eq h
  cases v with
  | null =>
    cases v' with
    | null => exact ⟨rfl, List.append_cancel_left h⟩
    | bool b => cases b <;> simp [opening] at hopening
    | _ => simp [opening] at hopening
  | bool b =>
    cases v' with
    | bool b' =>
      have hb : b = b' := by cases b <;> cases b' <;> simp [opening] at hopening ⊢
      subst hb
      exact ⟨rfl, List.append_cancel_left h⟩
    | _ => cases b <;> simp [opening] at hopening
  | string text =>
    cases v' with
    | string text' =>
      obtain ⟨rfl, hs⟩ := quote_unique h
      exact ⟨rfl, hs⟩
    | bool b => cases b <;> simp [opening] at hopening
    | _ => simp [opening] at hopening
  | array items =>
    cases v' with
    | array items' =>
      obtain ⟨rfl, hs⟩ := prettyArray_unique depth items items' s s' h
      exact ⟨rfl, hs⟩
    | bool b => cases b <;> simp [opening] at hopening
    | _ => simp [opening] at hopening
  | object fields =>
    cases v' with
    | object fields' =>
      obtain ⟨rfl, hs⟩ := prettyObject_unique depth fields fields' s s' h
      exact ⟨rfl, hs⟩
    | bool b => cases b <;> simp [opening] at hopening
    | _ => simp [opening] at hopening
  termination_by structural v

theorem prettyArray_unique (depth : Nat) (items items' : List Json) (s s' : List Char)
    (h : prettyChars depth (.array items) ++ s = prettyChars depth (.array items') ++ s') :
    items = items' ∧ s = s' := by
  cases items with
  | nil =>
    cases items' with
    | nil => exact ⟨rfl, List.append_cancel_left h⟩
    | cons item' rest' => cases h
  | cons item rest =>
    cases items' with
    | nil => cases h
    | cons item' rest' =>
      rw [pretty_array_cons, pretty_array_cons] at h
      injection h with _ hitems
      obtain ⟨rfl, hrest⟩ := prettyChars_unique (depth + 1) item item' _ _
        (List.append_cancel_left hitems)
      obtain ⟨rfl, hs⟩ := prettyItems_unique depth rest rest' s s' hrest
      exact ⟨rfl, hs⟩
  termination_by structural items

/-- The items after the first one are told from the line that closes. -/
theorem prettyItems_unique (depth : Nat) (items items' : List Json) (s s' : List Char)
    (h : prettyItems (depth + 1) items ++ (newline depth ++ ']' :: s)
      = prettyItems (depth + 1) items' ++ (newline depth ++ ']' :: s')) :
    items = items' ∧ s = s' := by
  cases items with
  | nil =>
    cases items' with
    | nil =>
      have hclose := List.append_cancel_left (List.append_cancel_left h)
      injection hclose with _ hs
      exact ⟨rfl, hs⟩
    | cons item' rest' => cases h
  | cons item rest =>
    cases items' with
    | nil => cases h
    | cons item' rest' =>
      rw [prettyItems_cons, prettyItems_cons] at h
      injection h with _ hitems
      obtain ⟨rfl, hrest⟩ := prettyChars_unique (depth + 1) item item' _ _
        (List.append_cancel_left hitems)
      obtain ⟨rfl, hs⟩ := prettyItems_unique depth rest rest' s s' hrest
      exact ⟨rfl, hs⟩
  termination_by structural items

theorem prettyObject_unique (depth : Nat) (fields fields' : List (String × Json))
    (s s' : List Char)
    (h : prettyChars depth (.object fields) ++ s = prettyChars depth (.object fields') ++ s') :
    fields = fields' ∧ s = s' := by
  cases fields with
  | nil =>
    cases fields' with
    | nil => exact ⟨rfl, List.append_cancel_left h⟩
    | cons field' rest' => cases h
  | cons field rest =>
    cases fields' with
    | nil => cases h
    | cons field' rest' =>
      rw [pretty_object_cons, pretty_object_cons] at h
      injection h with _ hfields
      obtain ⟨rfl, hrest⟩ := prettyField_unique (depth + 1) field field' _ _
        (List.append_cancel_left hfields)
      obtain ⟨rfl, hs⟩ := prettyFields_unique depth rest rest' s s' hrest
      exact ⟨rfl, hs⟩
  termination_by structural fields

/-- The fields after the first one are told from the line that closes. -/
theorem prettyFields_unique (depth : Nat) (fields fields' : List (String × Json))
    (s s' : List Char)
    (h : prettyFields (depth + 1) fields ++ (newline depth ++ '\x7d' :: s)
      = prettyFields (depth + 1) fields' ++ (newline depth ++ '\x7d' :: s')) :
    fields = fields' ∧ s = s' := by
  cases fields with
  | nil =>
    cases fields' with
    | nil =>
      have hclose := List.append_cancel_left (List.append_cancel_left h)
      injection hclose with _ hs
      exact ⟨rfl, hs⟩
    | cons field' rest' => cases h
  | cons field rest =>
    cases fields' with
    | nil => cases h
    | cons field' rest' =>
      rw [prettyFields_cons, prettyFields_cons] at h
      injection h with _ hfields
      obtain ⟨rfl, hrest⟩ := prettyField_unique (depth + 1) field field' _ _
        (List.append_cancel_left hfields)
      obtain ⟨rfl, hs⟩ := prettyFields_unique depth rest rest' s s' hrest
      exact ⟨rfl, hs⟩
  termination_by structural fields

theorem prettyField_unique (depth : Nat) (field field' : String × Json) (s s' : List Char)
    (h : prettyField depth field ++ s = prettyField depth field' ++ s') :
    field = field' ∧ s = s' := by
  obtain ⟨key, v⟩ := field
  obtain ⟨key', v'⟩ := field'
  rw [prettyField_append, prettyField_append] at h
  obtain ⟨rfl, hvalue⟩ := quote_unique h
  injection hvalue with _ hvalue
  injection hvalue with _ hvalue
  obtain ⟨rfl, hs⟩ := prettyChars_unique depth v v' s s' hvalue
  exact ⟨rfl, hs⟩
  termination_by structural field

end

/-- Values with the same indented text are the same. -/
theorem pretty_injective {v v' : Json} (h : v.pretty = v'.pretty) : v = v' := by
  have hchars : prettyChars 0 v ++ [] = prettyChars 0 v' ++ [] := by
    rw [String.ofList_inj.1 h]
  exact (prettyChars_unique 0 v v' [] [] hchars).1

end CrossShell.Json
