import CrossShell.Proofs.Json.Skip

/-!
Every text of a record is read as that record.

The fields may come in any order and other fields may stand between them. What was read of a record
then depends only on which of its names have come, so one function from those names to what was
read (`state`) describes the reader at every place of the object.
-/

set_option autoImplicit false

namespace CrossShell.Json

variable {α β σ : Type}

/-- The reader takes a field off its key: the colon, and the value with blanks before it. -/
def ReadsField (r : Reader α) (value : List Char) (a : α) : Prop :=
  ∀ after before rest, IsBlank after → IsBlank before →
    r (after ++ ':' :: (before ++ (value ++ rest))) = .ok a rest

namespace Reader

theorem readsField_fresh {name : String} {old : Option β} {r : Reader β} {store : β → σ}
    {value : List Char} {b : β} (hold : old = none) (hskips : SkipsBlanks r)
    (h : Reads r value b) : ReadsField (fresh name old r store) value (store b) := by
  intro after before rest hafter hbefore
  have hvalue : r (before ++ (value ++ rest)) = .ok b rest := by
    rw [hskips before _ hbefore]
    exact h rest
  subst hold
  simp [fresh, bind, EStateM.bind, colon_blanks hafter, hvalue, pure, EStateM.pure]

/-! ## The fields of an object -/

/-- The fields, read one after the other, turn one state of a record into another. Those that the
record does not have change nothing. -/
inductive Collects (fields : Fields σ) : σ → List (String × List Char) → σ → Prop
  | nil (state : σ) : Collects fields state [] state
  | known {state state' state'' : σ} {key : String} {value : List Char}
      {rest : List (String × List Char)} {r : Reader σ}
      (hfield : fields.field? key state = some r) (hread : ReadsField r value state')
      (hrest : Collects fields state' rest state'') :
      Collects fields state ((key, value) :: rest) state''
  | other {state state' : σ} {key : String} {value : List Char}
      {rest : List (String × List Char)} (hfield : fields.field? key state = none)
      (hvalue : IsJson value) (hrest : Collects fields state rest state') :
      Collects fields state ((key, value) :: rest) state'

theorem skipsBlanks_fieldsFrom (fields : Fields σ) (fuel : Nat) (first : Bool) (state : σ) :
    SkipsBlanks (fieldsFrom fields (fuel + 1) first state) :=
  skipsBlanks_bind (skipsBlanks_nextKey first) _

abbrev SpellsField : String × List Char → List Char → Prop :=
  Keyed SpellsString fun value text => text = value

theorem fieldsFrom_member {fields : Fields σ} {state state' : σ} {key : String}
    {value before text after s : List Char} {rest : List (String × List Char)} (first : Bool)
    (fuel : Nat) (hcollects : Collects fields state ((key, value) :: rest) state')
    (hbefore : IsBlank before) (h : SpellsField (key, value) text) (hafter : IsBlank after)
    (hs : Follows s) :
    ∃ next, Collects fields next rest state' ∧
      fieldsFrom fields (fuel + 2) first state (lead first ++ (before ++ (text ++ (after ++ s))))
        = fieldsFrom fields (fuel + 1) false next s := by
  cases h with | @mk _ _ keyText after' before' _ hkey hafter' hbefore' heq =>
  subst heq
  have hopen : ∀ next, fieldsFrom fields (fuel + 1) false next (after ++ s)
      = fieldsFrom fields (fuel + 1) false next s :=
    fun next => skipsBlanks_fieldsFrom fields fuel false next after s hafter
  cases hcollects with
  | @known _ next _ _ _ _ r hfield hread hrest =>
    refine ⟨next, hrest, ?_⟩
    have hread := hread after' before' (after ++ s) hafter' hbefore'
    simp only [List.append_assoc, List.cons_append]
    rw [fieldsFrom, bind_ok (nextKey_member first hbefore hkey _)]
    simp only [hfield]
    rw [bind_ok hread, hopen]
  | other hfield hvalue hrest =>
    refine ⟨state, hrest, ?_⟩
    have hskip := skipValue_of hvalue hbefore' (hs.blanks hafter)
    simp only [List.append_assoc, List.cons_append]
    rw [fieldsFrom, bind_ok (nextKey_member first hbefore hkey _)]
    simp only [hfield]
    rw [bind_ok (colon_blanks hafter' _), bind_ok hskip, hopen]

theorem fieldsFrom_members {fields : Fields σ} {state state' : σ}
    {fs : List (String × List Char)} {text : List Char} (h : Members SpellsField fs text)
    (hcollects : Collects fields state fs state') {first : Bool}
    (hfirst : fs = [] → first = true) (fuel : Nat) (rest : List Char) :
    fieldsFrom fields (fs.length + fuel + 1) first state (lead first ++ (text ++ '\x7d' :: rest))
      = .ok state' ('\x7d' :: rest) := by
  induction h generalizing first state with
  | @none blanks hblanks =>
    cases hcollects
    rw [hfirst rfl, show lead true = [] from rfl, List.nil_append,
      skipsBlanks_fieldsFrom fields _ true _ blanks _ hblanks]
    exact fieldsFrom_close fields _ true _ rest
  | @last f before text after hbefore hfield hafter =>
    obtain ⟨next, hnext, hrun⟩ := fieldsFrom_member (s := '\x7d' :: rest) first fuel hcollects
      hbefore hfield hafter (follows_cons (by decide) rest)
    cases hnext
    rw [fieldsFrom_close] at hrun
    rw [List.length_singleton, Nat.add_comm 1 fuel]
    simpa using hrun
  | @more f f' fs before text after more hbefore hfield hafter _ ih =>
    obtain ⟨next, hnext, hrun⟩ := fieldsFrom_member (s := lead false ++ (more ++ '\x7d' :: rest))
      first ((f' :: fs).length + fuel) hcollects hbefore hfield hafter
      (follows_cons (c := ',') (by decide) _)
    have hlater : f' :: fs = [] → false = true := nofun
    rw [ih hnext hlater] at hrun
    rw [List.length_cons, Nat.add_right_comm _ 1 fuel]
    simpa [lead] using hrun

/-! ## Records -/

section

variable {fields : Fields σ} {state : List String → σ} {names : List String}
  {tells : String → List Char → Prop} {omits : String → Prop} {fs : List (String × List Char)}

/-- After fields of the names in `seen` the state is `state seen`: a field of the record is read if
it has not come yet, and the names of other fields make no difference. -/
structure Tracks (fields : Fields σ) (state : List String → σ) (names : List String)
    (tells : String → List Char → Prop) : Prop where
  known : ∀ seen name value, name ∈ names → name ∉ seen → tells name value →
    ∃ r, fields.field? name (state seen) = some r ∧ ReadsField r value (state (name :: seen))
  other : ∀ seen name, name ∉ names →
    fields.field? name (state seen) = none ∧ state (name :: seen) = state seen

theorem collects_after (htracks : Tracks fields state names tells) (seen : List String)
    (honce : fs.Pairwise fun f f' => f.1 ∈ names → f'.1 ≠ f.1)
    (hseen : ∀ f ∈ fs, f.1 ∈ names → f.1 ∉ seen)
    (hknown : ∀ f ∈ fs, f.1 ∈ names → tells f.1 f.2)
    (hother : ∀ f ∈ fs, f.1 ∉ names → IsJson f.2) :
    Collects fields (state seen) fs (state ((fs.map Prod.fst).reverse ++ seen)) := by
  -- `seen` are the names before those of `fs`, the last one first
  induction fs generalizing seen with
  | nil => exact .nil _
  | cons f fs ih =>
    obtain ⟨name, value⟩ := f
    obtain ⟨hhead, honce⟩ := List.pairwise_cons.1 honce
    have hfresh : ∀ f ∈ fs, f.1 ∈ names → f.1 ∉ name :: seen := by
      intro f hf hmem hcons
      obtain heq | hseen' := List.mem_cons.1 hcons
      · exact hhead f hf (heq ▸ hmem) heq
      · exact hseen f (List.mem_cons_of_mem _ hf) hmem hseen'
    have hrest := ih (name :: seen) honce hfresh
      (fun f hf => hknown f (List.mem_cons_of_mem _ hf))
      (fun f hf => hother f (List.mem_cons_of_mem _ hf))
    rw [List.map_cons, List.reverse_cons, List.append_assoc, List.singleton_append]
    have hmem : (name, value) ∈ (name, value) :: fs := List.mem_cons_self
    by_cases hname : name ∈ names
    · obtain ⟨r, hfield, hread⟩ :=
        htracks.known seen name value hname (hseen _ hmem hname) (hknown _ hmem hname)
      exact .known hfield hread hrest
    · obtain ⟨hfield, hstate⟩ := htracks.other seen name hname
      rw [hstate] at hrest
      exact .other hfield (hother _ hmem hname) hrest

/-- The fields of a record are collected whatever their order is. -/
theorem collects_of_record (htracks : Tracks fields state names tells)
    (h : Record names tells omits fs) :
    Collects fields (state []) fs (state (fs.map Prod.fst).reverse) := by
  have hcollects := collects_after htracks [] h.once nofun h.known h.other
  rwa [List.append_nil] at hcollects

/-- A record is read off each text of fields that are collected and then make up the value. -/
theorem reads_collected {expected : String} {finish : σ → Reader α} {fromList : Reader α} {a : α}
    {next : σ} (hcollects : Collects fields fields.start fs next) (hfinish : finish next = pure a)
    {text : List Char} (h : Bracketed '\x7b' '\x7d' SpellsField fs text) :
    Reads (record expected fields finish fromList) text a := by
  cases h with | @mk text hmembers =>
  intro rest
  have hlength := length_le_of_members hmembers
  obtain ⟨fuel, hfuel⟩ := Nat.exists_eq_add_of_le (m := fs.length)
    (n := (text ++ '\x7d' :: rest).length) (by simp; omega)
  have hfirst : fs = [] → true = true := fun _ => rfl
  have hfields := fieldsFrom_members hmembers hcollects hfirst fuel rest
  rw [← hfuel] at hfields
  have hstate : (fun s => fieldsFrom fields (s.length + 1) true fields.start s : Reader σ)
      (text ++ '\x7d' :: rest) = .ok next ('\x7d' :: rest) := hfields
  have hbody := bind_ok (f := finish) hstate
  rw [hfinish] at hbody
  rw [List.cons_append, List.append_assoc]
  unfold record
  rw [bind_ok (peek_cons (by decide) _)]
  exact enclosed_ok hbody (closeObject_brace rest)

/-- A record is read off each of its texts if what was read of it makes up the value. -/
theorem reads_spelledRecord {expected : String} {finish : σ → Reader α} {fromList : Reader α}
    {a : α} (htracks : Tracks fields state names tells) (hstart : state [] = fields.start)
    (hfinish : ∀ seen, (∀ name ∈ names, name ∉ seen → omits name) → finish (state seen) = pure a)
    {text : List Char} (h : SpellsRecord names tells omits text) :
    Reads (record expected fields finish fromList) text a := by
  obtain ⟨fs, hrecord, hbracketed⟩ := h
  have hcollects := collects_of_record htracks hrecord
  rw [hstart] at hcollects
  have hmissing : ∀ name ∈ names, name ∉ (fs.map Prod.fst).reverse → omits name := by
    intro name hname hseen
    exact hrecord.missing name hname (by simpa using hseen)
  exact reads_collected hcollects (hfinish _ hmissing) hbracketed

end

theorem skipsBlanks_record {fields : Fields σ} {expected : String} {finish : σ → Reader α}
    {fromList : Reader α} : SkipsBlanks (record expected fields finish fromList) :=
  skipsBlanks_peek_bind _

end Reader

/-! ## Whole documents -/

theorem decode_of_spelled {r : Reader α} {form : List Char → Prop} {text : String} {a : α}
    (hskips : SkipsBlanks r) (hread : ∀ value, form value → Reads r value a)
    (h : SpellsDocument form text.toList) : decode r text = .ok a := by
  obtain ⟨before, value, after, hbefore, hform, hafter, htext⟩ := h
  have hr : r text.toList = .ok a after := by
    rw [htext, hskips before _ hbefore]
    exact hread value hform after
  have hend : Reader.atEnd after = .ok () [] := by
    have hpeek := Reader.peek_blanks hafter []
    rw [List.append_nil] at hpeek
    unfold Reader.atEnd
    rw [Reader.bind_ok hpeek]
    rfl
  have hwhole : (do let a ← r; Reader.atEnd; return a : Reader α) text.toList = .ok a [] := by
    rw [Reader.bind_ok hr, Reader.bind_ok hend]
    rfl
  simp only [decode, hwhole]

end CrossShell.Json
