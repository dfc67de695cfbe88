import CrossShell.SortedMap

/-!
Sorted maps as values: a map is what its entries write, and writing one map over another keeps every
entry of the second.
-/

set_option autoImplicit false

namespace CrossShell.SortedMap

variable {α : Type}

theorem eq_of_entries {m m' : SortedMap α} (h : m.entries = m'.entries) : m = m' := by
  cases m
  cases m'
  simp only at h
  subst h
  rfl

/-! ## Writing back the entries of a map -/

/-- A key above all others goes to the end. -/
theorem insertEntry_last {key : String} {value : α} {entries : List (String × α)}
    (h : ∀ e ∈ entries, e.1 < key) :
    insertEntry key value entries = entries ++ [(key, value)] := by
  induction entries with
  | nil => rfl
  | cons e rest ih =>
    have hlt : e.1 < key := h e (List.mem_cons_self ..)
    have hne : key ≠ e.1 := fun heq => String.lt_irrefl key (heq ▸ hlt)
    have hnlt : ¬ key < e.1 := String.lt_asymm hlt
    rw [insertEntry, if_neg hne, if_neg hnlt, ih fun e' he => h e' (List.mem_cons_of_mem e he)]
    rfl

/-- Entries that ascend above those of a map are appended to them. -/
theorem entries_insertAll {m : SortedMap α} {kvs : List (String × α)}
    (h : (m.entries ++ kvs).Pairwise fun a b => a.1 < b.1) :
    (m.insertAll kvs).entries = m.entries ++ kvs := by
  induction kvs generalizing m with
  | nil => exact (List.append_nil _).symm
  | cons e kvs ih =>
    obtain ⟨key, value⟩ := e
    have hlast : ∀ e ∈ m.entries, e.1 < key := fun e he =>
      (List.pairwise_append.1 h).2.2 e he (key, value) (List.mem_cons_self ..)
    have hinsert : (m.insert key value).entries = m.entries ++ [(key, value)] :=
      insertEntry_last hlast
    have hrest := ih (m := m.insert key value) (by rw [hinsert]; simpa using h)
    rw [hinsert, List.append_assoc] at hrest
    exact hrest

/-- A map is what its entries write. -/
theorem ofList_entries (m : SortedMap α) : ofList m.entries = m := by
  apply eq_of_entries
  have h : ((empty : SortedMap α).entries ++ m.entries).Pairwise fun a b => a.1 < b.1 :=
    m.ascending
  exact entries_insertAll h

/-! ## One map over another -/

@[simp]
theorem insertAll_nil (m : SortedMap α) : m.insertAll [] = m := rfl

theorem insertAll_cons (m : SortedMap α) (e : String × α) (kvs : List (String × α)) :
    m.insertAll (e :: kvs) = (m.insert e.1 e.2).insertAll kvs := rfl

theorem insertAll_append (m : SortedMap α) (kvs kvs' : List (String × α)) :
    m.insertAll (kvs ++ kvs') = (m.insertAll kvs).insertAll kvs' :=
  List.foldl_append

theorem mem_insertAll {m : SortedMap α} {kvs : List (String × α)} {e : String × α}
    (h : e ∈ (m.insertAll kvs).entries) : e ∈ kvs ∨ e ∈ m.entries := by
  induction kvs generalizing m with
  | nil => exact Or.inr h
  | cons kv kvs ih =>
    obtain hlater | hfirst := ih h
    · exact Or.inl (List.mem_cons_of_mem kv hlater)
    · obtain rfl | hold := mem_insertEntry hfirst
      · exact Or.inl List.mem_cons_self
      · exact Or.inr hold

theorem lookup_eq_none_of_ne {key : String} {entries : List (String × α)}
    (h : ∀ e ∈ entries, key ≠ e.1) : entries.lookup key = none := by
  rw [List.lookup_eq_none_iff]
  intro e he
  exact bne_iff_ne.2 (h e he)

theorem get?_insertAll_of_distinct (m : SortedMap α) {kvs : List (String × α)}
    (h : kvs.Pairwise fun a b => a.1 ≠ b.1) (key : String) :
    (m.insertAll kvs).get? key = (kvs.lookup key).or (m.get? key) := by
  induction kvs generalizing m with
  | nil => rfl
  | cons e kvs ih =>
    obtain ⟨k, value⟩ := e
    obtain ⟨hhead, hrest⟩ := List.pairwise_cons.1 h
    have hall : m.insertAll ((k, value) :: kvs) = (m.insert k value).insertAll kvs := rfl
    rw [hall, ih (m.insert k value) hrest, get?_insert, lookup_entry_cons]
    by_cases hk : key = k
    · subst hk
      rw [if_pos rfl, if_pos rfl, lookup_eq_none_of_ne hhead]
      rfl
    · rw [if_neg hk, if_neg hk]

theorem distinct_entries (m : SortedMap α) : m.entries.Pairwise fun a b => a.1 ≠ b.1 := by
  refine m.ascending.imp ?_
  intro a b hlt heq
  rw [heq] at hlt
  exact String.lt_irrefl _ hlt

theorem distinct_mem_lookup {key : String} {value : α} {entries : List (String × α)}
    (h : entries.Pairwise fun a b => a.1 ≠ b.1) :
    entries.lookup key = some value ↔ (key, value) ∈ entries := by
  induction entries with
  | nil => simp
  | cons e rest ih =>
    obtain ⟨k, v⟩ := e
    obtain ⟨hhead, hrest⟩ := List.pairwise_cons.1 h
    rw [lookup_entry_cons, List.mem_cons, Prod.mk.injEq]
    by_cases hk : key = k
    · subst hk
      have hnot : (key, value) ∉ rest := fun hmem => hhead _ hmem rfl
      simp [hnot, eq_comm]
    · simp [hk, ih hrest]

/-- A map has the entries that it is listed with. -/
theorem get?_eq_some {m : SortedMap α} {key : String} {value : α} :
    m.get? key = some value ↔ (key, value) ∈ m.entries :=
  distinct_mem_lookup m.distinct_entries

theorem get?_eq_none {m : SortedMap α} {key : String} : m.get? key = none ↔ key ∉ m.keys := by
  unfold get? keys
  rw [List.lookup_eq_none_iff, List.mem_map]
  constructor
  · rintro h ⟨e, he, rfl⟩
    exact absurd (h e he) (by simp)
  · intro h e he
    exact bne_iff_ne.2 fun heq => h ⟨e, he, heq.symm⟩

/-- A map is what is found under its keys. -/
theorem eq_of_get? {m m' : SortedMap α} (h : ∀ key, m.get? key = m'.get? key) : m = m' := by
  have hmem : ∀ e, e ∈ m.entries ↔ e ∈ m'.entries := by
    rintro ⟨key, value⟩
    rw [← get?_eq_some, ← get?_eq_some, h key]
  have hnodup : ∀ m : SortedMap α, m.entries.Nodup := fun m =>
    m.distinct_entries.imp fun hne heq => hne (congrArg Prod.fst heq)
  have hperm := (List.perm_ext_iff_of_nodup (hnodup m) (hnodup m')).2 hmem
  have hasymm : ∀ a b : String × α, a ∈ m.entries → b ∈ m'.entries →
      a.1 < b.1 → b.1 < a.1 → a = b :=
    fun _ _ _ _ hlt hgt => absurd hgt (String.lt_asymm hlt)
  exact eq_of_entries (hperm.eq_of_pairwise hasymm m.ascending m'.ascending)

/-- Where one map is written over another, the entries of the first win. -/
theorem get?_insertAll (m upper : SortedMap α) (key : String) :
    (m.insertAll upper.entries).get? key = (upper.get? key).or (m.get? key) :=
  m.get?_insertAll_of_distinct upper.distinct_entries key

end CrossShell.SortedMap
