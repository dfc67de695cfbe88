/-!
Finite maps keyed by text, listed in ascending order of their keys.

A map is the list of its entries together with the fact that the keys ascend, so two maps with the
same entries are equal. The view of a map is `get?`; `get?_insert` says that the last write to a key
wins and that no other key notices.
-/

set_option autoImplicit false

namespace CrossShell

/-- A map from texts to values. Keys are compared by code point. -/
structure SortedMap (α : Type) where
  /-- The entries, in ascending order of their keys. -/
  entries : List (String × α)
  /-- The keys ascend, so no key occurs twice. -/
  ascending : entries.Pairwise fun a b => a.1 < b.1
  deriving DecidableEq

namespace SortedMap

variable {α : Type}

/-! ## Writing into an ascending list -/

/-- Puts an entry in its place, over the entry with the same key if there is one. -/
def insertEntry (key : String) (value : α) : List (String × α) → List (String × α)
  | [] => [(key, value)]
  | entry :: rest =>
    if key = entry.1 then (key, value) :: rest
    else if key < entry.1 then (key, value) :: entry :: rest
    else entry :: insertEntry key value rest

theorem mem_insertEntry {key : String} {value : α} {entries : List (String × α)}
    {e : String × α} (h : e ∈ insertEntry key value entries) : e = (key, value) ∨ e ∈ entries := by
  induction entries with
  | nil => simp_all [insertEntry]
  | cons entry rest ih =>
    unfold insertEntry at h
    split at h
    · simp_all
      grind
    · split at h
      · simp_all
      · cases h with
        | head => simp
        | tail _ h => cases ih h <;> simp_all

theorem insertEntry_ascending (key : String) (value : α) {entries : List (String × α)}
    (h : entries.Pairwise fun a b => a.1 < b.1) :
    (insertEntry key value entries).Pairwise fun a b => a.1 < b.1 := by
  induction entries with
  | nil => simp [insertEntry]
  | cons entry rest ih =>
    obtain ⟨hhead, hrest⟩ := List.pairwise_cons.1 h
    unfold insertEntry
    split
    · next heq =>
      refine List.pairwise_cons.2 ⟨fun e he => ?_, hrest⟩
      simpa [heq] using hhead e he
    · next hne =>
      split
      · next hlt =>
        refine List.pairwise_cons.2 ⟨fun e he => ?_, h⟩
        cases he with
        | head => exact hlt
        | tail _ he => exact String.lt_trans hlt (hhead e he)
      · next hnlt =>
        have hgt : entry.1 < key := by
          apply Decidable.byContradiction
          intro hn
          exact hne (String.le_antisymm (String.not_lt.1 hn) (String.not_lt.1 hnlt))
        refine List.pairwise_cons.2 ⟨fun e he => ?_, ih hrest⟩
        cases mem_insertEntry he with
        | inl heq => simpa [heq] using hgt
        | inr he => exact hhead e he

/-! ## Operations -/

/-- The map with no entry. -/
def empty : SortedMap α :=
  ⟨[], List.Pairwise.nil⟩

instance : Inhabited (SortedMap α) := ⟨empty⟩

/-- The map after writing `value` under `key`. -/
def insert (m : SortedMap α) (key : String) (value : α) : SortedMap α :=
  ⟨insertEntry key value m.entries, insertEntry_ascending key value m.ascending⟩

/-- The value under `key`. -/
def get? (m : SortedMap α) (key : String) : Option α :=
  m.entries.lookup key

/-- The keys, ascending. -/
def keys (m : SortedMap α) : List String :=
  m.entries.map Prod.fst

/-- Whether the map has no entry. -/
def isEmpty (m : SortedMap α) : Bool :=
  m.entries.isEmpty

/-- The map after writing the entries one after the other. -/
def insertAll (m : SortedMap α) (entries : List (String × α)) : SortedMap α :=
  entries.foldl (fun acc (key, value) => acc.insert key value) m

/-- The map that a list of entries writes; of entries with one key the last one counts. -/
def ofList (entries : List (String × α)) : SortedMap α :=
  empty.insertAll entries

/-! ## The view -/

@[simp]
theorem get?_empty (key : String) : (empty : SortedMap α).get? key = none := rfl

theorem lookup_entry_cons (key key' : String) (value : α) (rest : List (String × α)) :
    ((key, value) :: rest).lookup key' = if key' = key then some value else rest.lookup key' := by
  rw [List.lookup_cons]
  split <;> simp_all

theorem lookup_insertEntry (key key' : String) (value : α) (entries : List (String × α)) :
    (insertEntry key value entries).lookup key'
      = if key' = key then some value else entries.lookup key' := by
  induction entries with
  | nil => exact lookup_entry_cons key key' value []
  | cons entry rest ih =>
    obtain ⟨k, v⟩ := entry
    unfold insertEntry
    split
    · next heq =>
      have heq : key = k := heq
      subst heq
      rw [lookup_entry_cons, lookup_entry_cons]
      split <;> rfl
    · next hne =>
      have hne : key ≠ k := hne
      split
      · rw [lookup_entry_cons]
      · rw [lookup_entry_cons, lookup_entry_cons, ih]
        by_cases hk : key' = k
        · have hkey : key' ≠ key := fun h => hne (h.symm.trans hk)
          rw [if_pos hk, if_neg hkey, if_pos hk]
        · rw [if_neg hk, if_neg hk]

/-- The last write to a key wins, and no other key notices. -/
@[simp]
theorem get?_insert (m : SortedMap α) (key key' : String) (value : α) :
    (m.insert key value).get? key' = if key' = key then some value else m.get? key' :=
  lookup_insertEntry key key' value m.entries

@[simp]
theorem entries_ofList_nil : (ofList ([] : List (String × α))).entries = [] := rfl

end SortedMap

end CrossShell
