import CrossShell.Config.Load
import CrossShell.Proofs.Machine.Action
import CrossShell.Proofs.Script.Border

/-!
Every table that a script can get at is sound.

What is put into a table changes neither the number of its slots nor the place where the next search
starts; only a new layout does, and it sets both. A script starts with sound tables, and each of its
steps keeps all tables sound, so they are sound when it answers.
-/

set_option autoImplicit false

namespace CrossShell.Script

/-! ## Tables -/

namespace Table

variable {t t' : Table} {key value : Value} {address : Nat}

/-- What differs is what the slots and the nodes hold. -/
def SameRow (t t' : Table) : Prop :=
  t'.slots.length = t.slots.length ∧ t'.limit = t.limit

theorem IsSound.of_sameRow (h : t.IsSound) (hrow : SameRow t t') : t'.IsSound := by
  unfold IsSound
  rw [hrow.1, hrow.2]
  exact h

theorem sameRow_addNode (h : t.addNode key value = some t') : SameRow t t' := by
  unfold addNode at h
  dsimp only at h
  split at h
  · cases h
  · split at h
    · cases h
      exact ⟨rfl, rfl⟩
    · split at h
      · cases h
      · split at h
        · cases h
          exact ⟨rfl, rfl⟩
        · cases h
          exact ⟨rfl, rfl⟩

theorem sameRow_place? (h : t.place? key value = some t') : SameRow t t' := by
  unfold place? at h
  split at h
  · cases h
    exact ⟨List.length_set, rfl⟩
  · split at h
    · cases h
      exact ⟨rfl, rfl⟩
    · split at h
      · cases h
        exact ⟨rfl, rfl⟩
      · exact sameRow_addNode h

theorem sameRow_getD_place? (t : Table) (key value : Value) :
    SameRow t ((t.place? key value).getD t) := by
  cases h : t.place? key value with
  | none => exact ⟨rfl, rfl⟩
  | some t' => exact sameRow_place? h

theorem isSound_empty : empty.IsSound :=
  Nat.le_refl 0

theorem isSound_ofList (items : List Value) : (ofList items).IsSound :=
  Nat.le_refl items.length

theorem isSound_touch (h : t.IsSound) (key : Value) : (t.touch key).IsSound := by
  unfold touch
  split
  next i hslot =>
    have hlt : i + 1 ≤ t.slots.length := by
      unfold slotOf? at hslot
      split at hslot
      · split at hslot
        · cases hslot
          omega
        · cases hslot
      · cases hslot
    exact Nat.max_le.2 ⟨h, hlt⟩
  next => exact h

/-- A new layout has as many slots as it was made for, and searches start at the last of them. -/
theorem row_resize (t : Table) (slotCount nodeCount : Nat) :
    (t.resize slotCount nodeCount).slots.length = slotCount ∧
      (t.resize slotCount nodeCount).limit = slotCount := by
  refine List.foldlRecOn
    (motive := fun t' : Table => t'.slots.length = slotCount ∧ t'.limit = slotCount)
    _ _ ⟨?_, rfl⟩ fun t' h entry _ => ?_
  · rw [List.length_append, List.length_replicate, List.length_take]
    omega
  · dsimp only
    split
    · exact h
    · have hplaced := sameRow_getD_place? t' entry.1 entry.2
      exact ⟨hplaced.1.trans h.1, hplaced.2.trans h.2⟩

theorem isSound_resize (t : Table) (slotCount nodeCount : Nat) :
    (t.resize slotCount nodeCount).IsSound := by
  obtain ⟨hslots, hlimit⟩ := t.row_resize slotCount nodeCount
  exact Nat.le_of_eq (hlimit.trans hslots.symm)

theorem isSound_set (h : t.IsSound) (key value : Value) : (t.set key value).IsSound := by
  unfold set
  dsimp only
  have htouched := isSound_touch h key.asKey
  split
  next hplace => exact htouched.of_sameRow (sameRow_place? hplace)
  next => exact (isSound_resize _ _ _).of_sameRow (sameRow_getD_place? _ _ _)

theorem isSound_storeItems (h : t.IsSound) (start : Nat) (items : List Value) :
    (t.storeItems start items).IsSound := by
  unfold storeItems
  dsimp only
  split
  next =>
    obtain ⟨hslots, hlimit⟩ := t.row_resize (start + items.length) t.nodes.length
    simp only [IsSound, List.length_append, List.length_take, List.length_drop, hslots, hlimit]
    omega
  next hroom =>
    have hlimit : t.limit ≤ t.slots.length := h
    simp only [IsSound, List.length_append, List.length_take, List.length_drop]
    omega

theorem isSound_ofFields (fields : List (String × Value)) : (ofFields fields).IsSound :=
  List.foldlRecOn fields _ isSound_empty fun _ h _ _ => isSound_set h _ _

theorem isSound_fill (h : t.IsSound) (start : Nat) (waiting : List Value) (contents : Contents) :
    (fill t start waiting contents).IsSound := by
  induction contents generalizing t start waiting with
  | nil => exact isSound_storeItems h start waiting
  | cons entry rest ih =>
    obtain ⟨key, values⟩ := entry
    have hstored :
        (if waiting.length = itemBatch then t.storeItems start waiting else t).IsSound := by
      split
      · exact isSound_storeItems h start waiting
      · exact h
    cases key with
    | none => exact ih hstored _ _
    | some key => exact ih (isSound_set hstored key _) _ _

theorem isSound_ofContents (count : Nat) (contents : Contents) :
    (ofContents count contents).IsSound :=
  isSound_fill (isSound_resize _ _ _) _ _ _

end Table

/-! ## Stores -/

namespace Store

variable {s : Store} {t : Table}

/-- All tables are sound. -/
def IsSound (s : Store) : Prop :=
  ∀ t ∈ s.tables, t.IsSound

theorem IsSound.tableAt (h : s.IsSound) (address : Nat) : (s.tableAt address).IsSound := by
  unfold Store.tableAt
  rw [Array.getD_eq_getD_getElem?]
  cases hat : s.tables[address]? with
  | none => exact Table.isSound_empty
  | some t => exact h t (Array.mem_of_getElem? hat)

theorem IsSound.setTable (h : s.IsSound) (address : Nat) (ht : t.IsSound) :
    (s.setTable address t).IsSound := by
  intro t' hmem
  obtain hold | rfl := Array.mem_or_eq_of_mem_setIfInBounds hmem
  · exact h t' hold
  · exact ht

theorem IsSound.newTable (h : s.IsSound) (ht : t.IsSound) : (s.newTable t).2.IsSound := by
  intro t' hmem
  obtain hold | rfl := Array.mem_push.1 hmem
  · exact h t' hold
  · exact ht

theorem IsSound.setGlobal (h : s.IsSound) (name : String) (v : Value) :
    (s.setGlobal name v).IsSound :=
  h.setTable _ (Table.isSound_set (h.tableAt _) _ _)

theorem IsSound.setVariable (h : s.IsSound) (name : String) (v : Value) :
    (s.setVariable name v).IsSound := by
  unfold Store.setVariable
  split
  · exact h
  · exact h.setGlobal name v

end Store

/-! ## Runs -/

namespace Run

variable {α β : Type} {r : Run α}

/-- If all tables are sound before a run, they are afterwards. -/
def KeepsSound (r : Run α) : Prop :=
  ∀ s m a s' m', r s m = .ok (a, s') m' → s.IsSound → s'.IsSound

theorem KeepsSound.pure (a : α) : KeepsSound (Pure.pure a : Run α) := by
  intro s m _ _ _ h hs
  cases h
  exact hs

theorem KeepsSound.throw (e : Failure) : KeepsSound (throw e : Run α) :=
  fun _ _ _ _ _ h => nomatch h

theorem KeepsSound.fail : KeepsSound (fail : Run α) :=
  .throw .failed

theorem KeepsSound.bind {f : α → Run β} (hr : KeepsSound r) (hf : ∀ a, KeepsSound (f a)) :
    KeepsSound (r >>= f) := by
  intro s m b s' m' h hs
  obtain ⟨⟨a, s₁⟩, m₁, hrun, hrest⟩ := Machine.Action.bind_eq_ok h
  exact hf a s₁ m₁ b s' m' hrest (hr s m a s₁ m₁ hrun hs)

/-- What follows a look at the store may rely on sound tables there. -/
theorem KeepsSound.get_bind {f : Store → Run β} (hf : ∀ s, s.IsSound → KeepsSound (f s)) :
    KeepsSound (get >>= f) :=
  fun s m b s' m' h hs => hf s hs s m b s' m' h hs

theorem KeepsSound.modifyGet {f : Store → α × Store} (hf : ∀ s, s.IsSound → (f s).2.IsSound) :
    KeepsSound (modifyGet f : Run α) := by
  intro s m a s' m' h hs
  have hpair : f s = (a, s') := by
    injection h
  have hstore := hf s hs
  rwa [hpair] at hstore

theorem KeepsSound.modify {f : Store → Store} (hf : ∀ s, s.IsSound → (f s).IsSound) :
    KeepsSound (modify f : Run Unit) :=
  .modifyGet hf

/-- What is done to the machine leaves the store as it is. -/
theorem KeepsSound.attempt (action : Machine.Action Machine.Fault α) :
    KeepsSound (attempt action) := by
  intro s m answer s' m' h hs
  unfold Run.attempt at h
  cases haction : action m with
  | ok a m₁ => rw [haction] at h; cases h; exact hs
  | error fault m₁ => rw [haction] at h; cases h; exact hs

theorem keepsSound_first {r : Run (List Value)} (h : KeepsSound r) : KeepsSound (first r) :=
  h.bind fun _ => .pure _

theorem keepsSound_index (whole key : Value) : KeepsSound (index whole key) := by
  unfold index
  split
  · refine .get_bind fun s hs => ?_
    exact (KeepsSound.modify fun s' hs' =>
      hs'.setTable _ (Table.isSound_touch (hs.tableAt _) key)).bind fun _ => .pure _
  · exact .get_bind fun s hs => .pure _
  · exact .throw .beyond
  · exact .fail

theorem keepsSound_assignIndex (whole key value : Value) :
    KeepsSound (assignIndex whole key value) := by
  unfold assignIndex
  split
  · split
    · exact .fail
    · exact .modify fun s hs => hs.setTable _ (Table.isSound_set (hs.tableAt _) key value)
  · exact .fail

theorem keepsSound_lengthAt (address : Nat) : KeepsSound (lengthAt address) := by
  refine .get_bind fun s hs => ?_
  exact (KeepsSound.modify fun s' hs' =>
    hs'.setTable _ (Table.isSound_measured (hs.tableAt _))).bind fun _ => .pure _

theorem keepsSound_printLine (vs : List Value) : KeepsSound (printLine vs) := by
  unfold printLine
  split
  · intro s m _ _ _ h hs
    cases h
    exact hs
  · exact .throw _

theorem keepsSound_openFile (path : String) : KeepsSound (openFile path) := by
  refine (KeepsSound.attempt _).bind fun answer => ?_
  cases answer with
  | ok _ => exact .modifyGet fun _ hs => hs
  | error fault =>
    dsimp only
    split
    · exact .pure _
    · exact .throw _

theorem keepsSound_apply (callee : Value) (arguments : List Value) :
    KeepsSound (apply callee arguments) := by
  unfold apply
  split
  · refine (keepsSound_lengthAt _).bind fun length => ?_
    exact (keepsSound_assignIndex _ _ _).bind fun _ => .pure _
  · exact .pure _
  · exact (keepsSound_printLine _).bind fun _ => .pure _
  · split
    · exact .throw _
    · exact .fail
  · split
    · split
      · exact keepsSound_openFile _
      · exact .throw _
    · exact .throw _
  · exact .throw _
  · exact .throw _
  · exact .throw _
  · exact .fail

theorem keepsSound_unary (op : Unary) (v : Value) : KeepsSound (unary op v) := by
  unfold unary
  split
  · exact .pure _
  · exact .pure _
  · exact .pure _
  · split
    · exact .pure _
    · exact .pure _
    · exact .fail
  · exact .pure _
  · exact (keepsSound_lengthAt _).bind fun _ => .pure _
  · exact .fail

theorem keepsSound_binary (op : Binary) (left right : Value) :
    KeepsSound (binary op left right) := by
  unfold binary
  cases op with
  | concat =>
    dsimp only
    split
    · exact .pure _
    · exact .fail
  | _ => exact .pure _

/-! ### Expressions -/

mutual

theorem keepsSound_results : ∀ e : Expr, KeepsSound (results e)
  | .nil => .pure _
  | .bool _ => .pure _
  | .integer _ => .pure _
  | .number _ => .pure _
  | .string _ => .pure _
  | .name _ => .get_bind fun _ _ => .pure _
  | .index whole key =>
    (keepsSound_first (keepsSound_results whole)).bind fun _ =>
      (keepsSound_first (keepsSound_results key)).bind fun _ =>
        (keepsSound_index _ _).bind fun _ => .pure _
  | .call callee arguments =>
    (keepsSound_first (keepsSound_results callee)).bind fun _ =>
      (keepsSound_values arguments).bind fun _ => keepsSound_apply _ _
  | .group inner => (keepsSound_first (keepsSound_results inner)).bind fun _ => .pure _
  | .function => .modifyGet fun _ hs => hs
  | .table entries =>
    (keepsSound_contents entries).bind fun _ => by
      refine (KeepsSound.modifyGet ?_).bind fun _ => .pure _
      exact fun _ hs => hs.newTable (Table.isSound_ofContents _ _)
  | .unary op operand =>
    (keepsSound_first (keepsSound_results operand)).bind fun _ =>
      (keepsSound_unary op _).bind fun _ => .pure _
  | .binary op left right =>
    (keepsSound_first (keepsSound_results left)).bind fun v => by
      split
      · exact .pure _
      · exact (keepsSound_first (keepsSound_results right)).bind fun _ =>
          (keepsSound_binary op v _).bind fun _ => .pure _
  termination_by structural e => e

theorem keepsSound_values : ∀ es : List Expr, KeepsSound (values es)
  | [] => .pure _
  | e :: rest => (keepsSound_results e).bind fun _ => by
    split
    · exact .pure _
    · exact (keepsSound_values rest).bind fun _ => .pure _
  termination_by structural es => es

theorem keepsSound_contents : ∀ entries : List (Option Expr × Expr), KeepsSound (contents entries)
  | [] => .pure _
  | entry :: rest =>
    (keepsSound_entryValue entry).bind fun _ => (keepsSound_contents rest).bind fun _ => .pure _
  termination_by structural entries => entries

theorem keepsSound_entryValue : ∀ entry : Option Expr × Expr, KeepsSound (entryValue entry)
  | (key, e) => (keepsSound_keyValue key).bind fun _ => (keepsSound_results e).bind fun _ => .pure _
  termination_by structural entry => entry

theorem keepsSound_keyValue : ∀ key : Option Expr, KeepsSound (keyValue key)
  | none => .pure _
  | some e => (keepsSound_first (keepsSound_results e)).bind fun _ => by
    split
    · exact .fail
    · exact .pure _
  termination_by structural key => key

end

/-! ### Statements -/

theorem keepsSound_inScope (h : KeepsSound r) : KeepsSound (inScope r) := by
  refine .get_bind fun _ _ => h.bind fun _ => ?_
  refine (KeepsSound.modify ?_).bind fun _ => .pure _
  exact fun _ hs => hs

theorem keepsSound_declare (names : List String) (vs : List Value) :
    KeepsSound (declare names vs) :=
  .modify fun _ hs => hs

theorem keepsSound_assign (place : Place) (e : Expr) : KeepsSound (assign place e) := by
  unfold assign
  split
  · exact (keepsSound_first (keepsSound_results e)).bind fun v =>
      .modify fun s hs => hs.setVariable _ v
  · exact (keepsSound_first (keepsSound_results _)).bind fun _ =>
      (keepsSound_first (keepsSound_results _)).bind fun _ =>
        (keepsSound_first (keepsSound_results e)).bind fun _ => keepsSound_assignIndex _ _ _

mutual

theorem keepsSound_statement : ∀ st : Statement, KeepsSound (statement st)
  | .declare names es =>
    (keepsSound_values es).bind fun _ => (keepsSound_declare names _).bind fun _ => .pure _
  | .assign place e => (keepsSound_assign place e).bind fun _ => .pure _
  | .perform callee arguments =>
    (keepsSound_first (keepsSound_results callee)).bind fun _ =>
      (keepsSound_values arguments).bind fun _ => (keepsSound_apply _ _).bind fun _ => .pure _
  | .branch condition yes no =>
    (keepsSound_first (keepsSound_results condition)).bind fun _ => by
      split
      · exact keepsSound_inScope (keepsSound_block yes)
      · exact keepsSound_inScope (keepsSound_block no)
  | .answer es => (keepsSound_values es).bind fun _ => .pure _
  termination_by structural st => st

theorem keepsSound_block : ∀ sts : List Statement, KeepsSound (block sts)
  | [] => .pure _
  | st :: rest => (keepsSound_statement st).bind fun answer => by
    cases answer with
    | none => exact keepsSound_block rest
    | some answer => exact .pure _
  termination_by structural sts => sts

end

end Run

/-! ## Scripts -/

/-- A script that starts with sound tables leaves sound tables. -/
theorem isSound_of_evaluate {source : String} {s s' : Store} {v : Value} {m m' : Machine}
    (hs : s.IsSound) (h : evaluate source s m = .ok (v, s') m') : s'.IsSound := by
  obtain ⟨statements, m₁, -, hrun⟩ := Machine.Action.bind_eq_ok h
  obtain ⟨⟨answer, s₁⟩, m₂, hblock, hanswer⟩ := Machine.Action.bind_eq_ok hrun
  cases hanswer
  exact Run.keepsSound_block statements s m₁ answer s' m' hblock hs

theorem isSound_library : Library.store.IsSound := by
  intro t hmem
  have hmem : t ∈ Library.parts.map
      (fun part => Table.ofFields (Library.fieldsOf part.1 part.2))
      ++ [Table.ofFields Library.globals] := List.mem_toArray.1 hmem
  obtain hpart | hglobals := List.mem_append.1 hmem
  · obtain ⟨part, -, rfl⟩ := List.mem_map.1 hpart
    exact Table.isSound_ofFields _
  · rw [List.mem_singleton.1 hglobals]
    exact Table.isSound_ofFields _

end CrossShell.Script

namespace CrossShell.Config

theorem isSound_startStore (host : Option Platform) : (startStore host).IsSound := by
  have htargets := Script.isSound_library.newTable
    (Script.Table.isSound_ofList (Target.supported.map fun t => .ofText t.triple))
  have hmachine := htargets.newTable
    (Script.Table.isSound_ofFields (machineFields host Script.Library.store.tables.size))
  exact hmachine.setGlobal "crossenv" _

end CrossShell.Config
