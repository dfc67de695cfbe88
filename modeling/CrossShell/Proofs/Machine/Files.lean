import CrossShell.Machine
import CrossShell.Proofs.Machine.Path
import CrossShell.Proofs.Outcome

/-!
What becomes of a file when other files are written.

A walk depends on the directories alone, so whatever keeps the directories keeps every route. Making
directories only adds directories to a tree (`AddsDirectories`), and writing a file changes one
location that is no directory. So a file that was written is read back, and stays as it is until
something is written at its own location.
-/

set_option autoImplicit false

namespace CrossShell.Machine

/-- Where a step leads from a directory. -/
def Step.destination (l : Location) : Step → Location
  | .here => l
  | .up => l.dropLast
  | .name text => l ++ [text]

namespace FileTree

variable {t t' t'' : FileTree} {cwd l l' : Location} {r r' : Route} {content : ByteArray}

/-! ## Trees with the same directories -/

/-- Every directory of the first tree is one of the second. -/
def KeepsDirectories (t t' : FileTree) : Prop :=
  ∀ l, t.get? l = some .directory → t'.get? l = some .directory

/-- Whatever stands in the first tree stands in the second. -/
def Grows (t t' : FileTree) : Prop :=
  ∀ l e, t.get? l = some e → t'.get? l = some e

theorem Grows.refl (t : FileTree) : Grows t t := fun _ _ h => h

theorem Grows.trans (h : Grows t t') (h' : Grows t' t'') : Grows t t'' :=
  fun l e hl => h' l e (h l e hl)

theorem Grows.keepsDirectories (h : Grows t t') : KeepsDirectories t t' :=
  fun l hl => h l .directory hl

theorem Grows.get?_eq_none (h : Grows t t') (hnone : t'.get? l = none) : t.get? l = none := by
  cases hl : t.get? l with
  | none => rfl
  | some e =>
    rw [h l e hl] at hnone
    cases hnone

theorem grows_put {e : Entry} (hl : l ≠ []) (h : t.get? l = none) : Grows t (t.put l e) := by
  intro l₁ e₁ h₁
  have hne : l₁ ≠ l := by
    intro heq
    rw [heq, h] at h₁
    cases h₁
  rw [get?_put t l l₁ e hl, if_neg hne]
  exact h₁

theorem file_put_iff (hl : l ≠ []) (h : t.get? l = none) (l' : Location) (c : ByteArray) :
    (t.put l (.file content)).get? l' = some (.file c) ↔
      t.get? l' = some (.file c) ∨ (l' = l ∧ c = content) := by
  rw [get?_put t l l' _ hl]
  by_cases heq : l' = l
  · rw [if_pos heq, heq, h]
    constructor
    · intro hc
      injection hc with hc
      injection hc with hc
      exact .inr ⟨rfl, hc.symm⟩
    · rintro (hc | ⟨_, rfl⟩)
      · cases hc
      · rfl
  · rw [if_neg heq]
    exact ⟨.inl, fun h => h.resolve_right fun hl => heq hl.1⟩

/-- All that the second tree holds beyond the first is directories. -/
def AddsDirectories (t t' : FileTree) : Prop :=
  ∀ l, t'.get? l = t.get? l ∨ t.get? l = none ∧ t'.get? l = some .directory

namespace AddsDirectories

theorem refl (t : FileTree) : AddsDirectories t t := fun _ => .inl rfl

theorem trans (h : AddsDirectories t t') (h' : AddsDirectories t' t'') :
    AddsDirectories t t'' := by
  intro l
  obtain hl | ⟨hnone, hdir⟩ := h l
  · rw [← hl]
    exact h' l
  · obtain hl' | ⟨hnone', _⟩ := h' l
    · exact .inr ⟨hnone, hl'.trans hdir⟩
    · rw [hdir] at hnone'
      cases hnone'

theorem put (hl : l ≠ []) (h : t.get? l = none) : AddsDirectories t (t.put l .directory) := by
  intro l₁
  rw [get?_put t l l₁ _ hl]
  by_cases heq : l₁ = l
  · rw [if_pos heq, heq]
    exact .inr ⟨h, rfl⟩
  · rw [if_neg heq]
    exact .inl rfl

theorem grows (h : AddsDirectories t t') : Grows t t' := by
  intro l e hl
  obtain hsame | ⟨hnone, _⟩ := h l
  · rw [hsame, hl]
  · rw [hnone] at hl
    cases hl

/-- There are the same files in both trees. -/
theorem file_iff (h : AddsDirectories t t') (l : Location) (c : ByteArray) :
    t'.get? l = some (.file c) ↔ t.get? l = some (.file c) := by
  obtain hsame | ⟨hnone, hdir⟩ := h l
  · rw [hsame]
  · rw [hnone, hdir]
    exact ⟨nofun, nofun⟩

end AddsDirectories

/-! ## Walks -/

theorem step_ok {s : Step} (h : t.step l s = .ok l') :
    l' = s.destination l := by
  unfold step at h
  cases hg : t.get? l with
  | none => rw [hg] at h; cases h
  | some e =>
    rw [hg] at h
    cases e with
    | file content => cases h
    | directory =>
      cases s with
      | here => exact (Except.ok.inj h).symm
      | up => exact (Except.ok.inj h).symm
      | name text =>
        simp only at h
        split at h
        · exact (Except.ok.inj h).symm
        · cases h

theorem step_name_ok {text : String} (h : t.step l (.name text) = .ok l') : l' = l ++ [text] :=
  step_ok h

theorem step_name_ne_nil {text : String} (h : t.step l (.name text) = .ok l') : l' ≠ [] := by
  rw [step_name_ok h]
  exact List.concat_ne_nil text l

theorem step_of_keeps (hk : KeepsDirectories t t') {s : Step} (h : t.step l s = .ok l') :
    t'.step l s = .ok l' := by
  unfold step at h ⊢
  cases hg : t.get? l with
  | none => rw [hg] at h; cases h
  | some e =>
    rw [hg] at h
    cases e with
    | file content => cases h
    | directory =>
      rw [hk l hg]
      exact h

theorem walk_of_keeps (hk : KeepsDirectories t t') {steps : List Step}
    (h : t.walk l steps = .ok l') : t'.walk l steps = .ok l' := by
  induction steps generalizing l with
  | nil => exact h
  | cons s steps ih =>
    unfold walk at h ⊢
    cases hs : t.step l s with
    | error fault => rw [hs] at h; cases h
    | ok l₁ =>
      rw [hs] at h
      rw [step_of_keeps hk hs]
      exact ih h

theorem walk_concat {steps : List Step} {s : Step} :
    t.walk l (steps ++ [s]) = .ok l' ↔
      ∃ l₁, t.walk l steps = .ok l₁ ∧ t.step l₁ s = .ok l' := by
  induction steps generalizing l with
  | nil =>
    rw [List.nil_append, walk]
    cases hs : t.step l s with
    | error fault => simp [walk, hs]
    | ok l₂ => simp [walk, hs]
  | cons s' steps ih =>
    rw [List.cons_append, walk, walk]
    cases t.step l s' with
    | error fault => simp
    | ok l₂ => exact ih

/-! ## Routes to files -/

theorem locateName_ok {endless : Fault} (h : t.locateName cwd r endless = .ok l) :
    ∃ around text, checkPath r = .ok () ∧ t.walk (origin cwd r) r.steps.dropLast = .ok around ∧
      r.steps.getLast? = some (.name text) ∧ t.step around (.name text) = .ok l := by
  obtain ⟨_, hcheck, h⟩ := bind_eq_ok h
  obtain ⟨around, hwalk, h⟩ := bind_eq_ok h
  cases hlast : r.steps.getLast? with
  | none => rw [hlast] at h; cases h
  | some s =>
    rw [hlast] at h
    cases s with
    | name text => exact ⟨around, text, hcheck, hwalk, rfl, h⟩
    | here => obtain ⟨_, _, h⟩ := bind_eq_ok h; cases h
    | up => obtain ⟨_, _, h⟩ := bind_eq_ok h; cases h

theorem write_ok (h : t.write cwd r content = .ok t') :
    ∃ l, t.locateName cwd r .isADirectory = .ok l ∧ r.closed = false ∧
      t.get? l ≠ some .directory ∧ t' = t.put l (.file content) := by
  obtain ⟨l, hl, h⟩ := bind_eq_ok h
  have hopen : r.closed = false := by
    cases hc : r.closed with
    | false => rfl
    | true =>
      simp only [hc, if_true] at h
      cases h
  simp only [hopen, Bool.false_eq_true, if_false] at h
  refine ⟨l, hl, hopen, ?_⟩
  cases hg : t.get? l with
  | none =>
    rw [hg] at h
    obtain ⟨_, _, hput⟩ := bind_eq_ok h
    injection hput with hput
    exact ⟨nofun, hput.symm⟩
  | some e =>
    rw [hg] at h
    cases e with
    | directory => cases h
    | file c =>
      obtain ⟨_, _, hput⟩ := bind_eq_ok h
      injection hput with hput
      exact ⟨nofun, hput.symm⟩

/-- The steps of a route lead from a directory to what stands at a location. -/
def Leads (t : FileTree) (cwd : Location) (r : Route) (l : Location) (e : Entry) : Prop :=
  t.walk (origin cwd r) (r.steps ++ if r.closed then [.here] else []) = .ok l ∧ t.get? l = some e

theorem Leads.of_grows {e : Entry} (hgrows : Grows t t') (h : t.Leads cwd r l e) :
    t'.Leads cwd r l e :=
  ⟨walk_of_keeps hgrows.keepsDirectories h.1, hgrows l e h.2⟩

theorem follow_eq_ok {e : Entry} :
    t.follow cwd r = .ok (l, e) ↔ checkSpelling r = .ok () ∧ t.Leads cwd r l e := by
  constructor
  · intro h
    obtain ⟨_, hspelling, h⟩ := bind_eq_ok h
    obtain ⟨l₁, hwalk, h⟩ := bind_eq_ok h
    cases hg : t.get? l₁ with
    | none => rw [hg] at h; cases h
    | some e₁ =>
      rw [hg] at h
      injection h with h
      obtain ⟨rfl, rfl⟩ := Prod.mk.injEq .. ▸ h
      exact ⟨hspelling, hwalk, hg⟩
  · rintro ⟨hspelling, hwalk, hg⟩
    simp only [follow, hspelling, hwalk, hg, bind, Except.bind, pure, Except.pure]

theorem checkSpelling_of_checkPath (h : checkPath r = .ok ()) : checkSpelling r = .ok () := by
  obtain ⟨_, hs, _⟩ := bind_eq_ok h
  exact hs

theorem checkPath_of_size (hspelling : checkSpelling r = .ok ()) (hsize : r.size ≤ pathLimit) :
    checkPath r = .ok () := by
  simp only [checkPath, hspelling, bind, Except.bind, if_neg (Nat.not_lt.2 hsize), pure,
    Except.pure]

theorem size_of_checkPath (h : checkPath r = .ok ()) : r.size ≤ pathLimit := by
  obtain ⟨_, _, h⟩ := bind_eq_ok h
  refine Nat.le_of_not_lt fun hlong => ?_
  rw [if_pos hlong] at h
  cases h

theorem locate_eq_ok {e : Entry} :
    t.locate cwd r = .ok (l, e) ↔ checkPath r = .ok () ∧ t.Leads cwd r l e := by
  constructor
  · intro h
    obtain ⟨_, hcheck, h⟩ := bind_eq_ok h
    exact ⟨hcheck, (follow_eq_ok.1 h).2⟩
  · rintro ⟨hcheck, hleads⟩
    have hfollow := follow_eq_ok.2 ⟨checkSpelling_of_checkPath hcheck, hleads⟩
    simp only [locate, hcheck, hfollow, bind, Except.bind]

theorem locationOf_eq_ok :
    t.locationOf cwd r = .ok l ↔ checkSpelling r = .ok () ∧ ∃ e, t.Leads cwd r l e := by
  unfold locationOf
  constructor
  · intro h
    cases hfollow : t.follow cwd r with
    | error fault => rw [hfollow] at h; cases h
    | ok found =>
      rw [hfollow] at h
      injection h with h
      obtain ⟨hspelling, hleads⟩ := follow_eq_ok.1 hfollow
      exact ⟨hspelling, found.2, h ▸ hleads⟩
  · rintro ⟨hspelling, e, hleads⟩
    rw [follow_eq_ok.2 ⟨hspelling, hleads⟩]
    rfl

theorem spellOut_eq_ok :
    t.spellOut cwd r = .ok l ↔ t.locationOf cwd r = .ok l ∧ fits cwd r = true := by
  unfold spellOut
  cases hat : t.locationOf cwd r with
  | error fault => exact ⟨nofun, fun h => nomatch h.1⟩
  | ok l₁ =>
    cases hfits : fits cwd r with
    | false => exact ⟨nofun, fun h => nomatch h.2⟩
    | true => exact ⟨fun h => ⟨h, rfl⟩, fun h => h.1⟩

/-- What cannot be spelt out is not found, though it is there. -/
theorem spellOut_of_not_fits (hat : t.locationOf cwd r = .ok l) (hfits : fits cwd r = false) :
    t.spellOut cwd r = .error .nameTooLong := by
  unfold spellOut
  rw [hat, hfits]
  rfl

/-- A walk that ends with a name ends at a location that it names. -/
theorem mem_named_of_walk {steps : List Step} {text : String}
    (h : t.walk l (steps ++ [.name text]) = .ok l') : l' ∈ named l (steps ++ [.name text]) := by
  induction steps generalizing l with
  | nil =>
    obtain ⟨l₁, hnone, hstep⟩ := walk_concat.1 h
    cases hnone
    exact List.mem_singleton.2 (step_name_ok hstep)
  | cons s steps ih =>
    rw [List.cons_append, walk] at h
    cases hstep : t.step l s with
    | error fault => rw [hstep] at h; cases h
    | ok l₁ =>
      rw [hstep] at h
      have hrest := ih h
      rw [step_ok hstep] at hrest
      cases s with
      | here | up => exact hrest
      | name text' => exact List.mem_cons_of_mem _ hrest

theorem has_eq_true :
    t.has cwd r = true ↔ checkPath r = .ok () ∧ ∃ l e, t.Leads cwd r l e := by
  unfold has
  cases hlocate : t.locate cwd r with
  | error fault =>
    refine ⟨nofun, ?_⟩
    rintro ⟨hcheck, l, e, hleads⟩
    rw [locate_eq_ok.2 ⟨hcheck, hleads⟩] at hlocate
    cases hlocate
  | ok found =>
    obtain ⟨hcheck, hleads⟩ := locate_eq_ok.1 hlocate
    exact ⟨fun _ => ⟨hcheck, _, _, hleads⟩, fun _ => rfl⟩

theorem read_eq_ok :
    t.read cwd r = .ok content ↔ checkPath r = .ok () ∧ ∃ l, t.Leads cwd r l (.file content) := by
  constructor
  · intro h
    obtain ⟨⟨l, e⟩, hlocate, h⟩ := bind_eq_ok h
    obtain ⟨hcheck, hleads⟩ := locate_eq_ok.1 hlocate
    cases e with
    | directory => cases h
    | file c =>
      injection h with h
      exact ⟨hcheck, l, h ▸ hleads⟩
  · rintro ⟨hcheck, l, hleads⟩
    simp only [read, locate_eq_ok.2 ⟨hcheck, hleads⟩, bind, Except.bind, pure, Except.pure]

/-! ## Reading after writing -/

theorem keepsDirectories_put {e : Entry} (hl : l ≠ []) (h : t.get? l ≠ some .directory) :
    KeepsDirectories t (t.put l e) := by
  intro l₁ h₁
  have hne : l₁ ≠ l := fun heq => h (heq ▸ h₁)
  rw [get?_put t l l₁ e hl, if_neg hne]
  exact h₁

theorem keepsDirectories_of_put (hl : l ≠ []) : KeepsDirectories (t.put l (.file content)) t := by
  intro l₁ h₁
  rw [get?_put t l l₁ _ hl] at h₁
  by_cases heq : l₁ = l
  · rw [if_pos heq] at h₁
    cases h₁
  · rw [if_neg heq] at h₁
    exact h₁

/-- Writing changes what stands at one location, which is no directory. -/
theorem write_at (h : t.write cwd r content = .ok t') :
    ∃ l, checkPath r = .ok () ∧
      t.walk (origin cwd r) (r.steps ++ if r.closed then [.here] else []) = .ok l ∧
      l ≠ [] ∧ t.get? l ≠ some .directory ∧ t' = t.put l (.file content) := by
  obtain ⟨l, hlocate, hopen, hdir, hput⟩ := write_ok h
  obtain ⟨around, text, hcheck, hwalk, hlast, hstep⟩ := locateName_ok hlocate
  refine ⟨l, hcheck, ?_, step_name_ne_nil hstep, hdir, hput⟩
  rw [Route.steps_of_endsIn ⟨hopen, hlast⟩]
  exact walk_concat.2 ⟨around, hwalk, hstep⟩

/-- A route that ends with a name leads to that name. -/
theorem getLast?_of_walk {name : String} (hname : r.EndsIn name)
    (h : t.walk (origin cwd r) (r.steps ++ if r.closed then [.here] else []) = .ok l) :
    l.getLast? = some name := by
  rw [Route.steps_of_endsIn hname] at h
  obtain ⟨around, _, hstep⟩ := walk_concat.1 h
  rw [step_name_ok hstep, List.getLast?_concat]

theorem leads_put_of_walk
    (hwalk : t.walk (origin cwd r) (r.steps ++ if r.closed then [.here] else []) = .ok l)
    (hl : l ≠ []) (hdir : t.get? l ≠ some .directory) :
    (t.put l (.file content)).Leads cwd r l (.file content) := by
  refine ⟨walk_of_keeps (keepsDirectories_put hl hdir) hwalk, ?_⟩
  rw [get?_put t l l _ hl, if_pos rfl]

/-- A file is read back as it was written. -/
theorem read_write (h : t.write cwd r content = .ok t') : t'.read cwd r = .ok content := by
  obtain ⟨l, hcheck, hwalk, hl, hdir, rfl⟩ := write_at h
  exact read_eq_ok.2 ⟨hcheck, l, leads_put_of_walk hwalk hl hdir⟩

section OtherName

variable {name name' : String} {c : ByteArray}

/-- Writing a file leaves whatever has another name as it is. -/
theorem leads_write_of_ne {e : Entry} (hname : r.EndsIn name) (hname' : r'.EndsIn name')
    (hne : name' ≠ name) (h : t.write cwd r c = .ok t') :
    t'.Leads cwd r' l' e ↔ t.Leads cwd r' l' e := by
  obtain ⟨l, _, hwalk, hl, hdir, rfl⟩ := write_at h
  have hother {u : FileTree}
      (h' : u.walk (origin cwd r') (r'.steps ++ if r'.closed then [.here] else []) = .ok l') :
      l' ≠ l := by
    intro heq
    have hlast := (getLast?_of_walk hname' h').symm.trans (heq ▸ getLast?_of_walk hname hwalk)
    exact hne (Option.some.inj hlast)
  constructor
  · rintro ⟨hwalk', hget⟩
    rw [get?_put t l l' _ hl, if_neg (hother hwalk')] at hget
    exact ⟨walk_of_keeps (keepsDirectories_of_put hl) hwalk', hget⟩
  · rintro ⟨hwalk', hget⟩
    refine ⟨walk_of_keeps (keepsDirectories_put hl hdir) hwalk', ?_⟩
    rw [get?_put t l l' _ hl, if_neg (hother hwalk')]
    exact hget

theorem read_write_of_ne (hname : r.EndsIn name) (hname' : r'.EndsIn name') (hne : name' ≠ name)
    (h : t.write cwd r c = .ok t') (hread : t.read cwd r' = .ok content) :
    t'.read cwd r' = .ok content := by
  obtain ⟨hcheck, l', hleads⟩ := read_eq_ok.1 hread
  exact read_eq_ok.2 ⟨hcheck, l', (leads_write_of_ne hname hname' hne h).2 hleads⟩

theorem has_write_of_ne (hname : r.EndsIn name) (hname' : r'.EndsIn name') (hne : name' ≠ name)
    (h : t.write cwd r c = .ok t') : t'.has cwd r' = t.has cwd r' := by
  rw [Bool.eq_iff_iff, has_eq_true, has_eq_true]
  simp only [leads_write_of_ne hname hname' hne h]

end OtherName

/-- Where nothing stood, writing makes a new file and touches nothing else. -/
theorem write_of_not_has (habsent : t.has cwd r = false) (h : t.write cwd r content = .ok t') :
    ∃ l, t'.locationOf cwd r = .ok l ∧ l ≠ [] ∧ t.get? l = none ∧ t' = t.put l (.file content) := by
  obtain ⟨l, hcheck, hwalk, hl, hdir, rfl⟩ := write_at h
  have hnone : t.get? l = none := by
    cases hget : t.get? l with
    | none => rfl
    | some e =>
      rw [has_eq_true.2 ⟨hcheck, l, e, hwalk, hget⟩] at habsent
      cases habsent
  have hleads : (t.put l (.file content)).Leads cwd r l (.file content) :=
    leads_put_of_walk hwalk hl hdir
  have hat := locationOf_eq_ok.2 ⟨checkSpelling_of_checkPath hcheck, _, hleads⟩
  exact ⟨l, hat, hl, hnone, rfl⟩

/-! ## Growing trees -/

theorem read_of_grows (h : Grows t t') (hread : t.read cwd r = .ok content) :
    t'.read cwd r = .ok content := by
  obtain ⟨hcheck, l, hleads⟩ := read_eq_ok.1 hread
  exact read_eq_ok.2 ⟨hcheck, l, hleads.of_grows h⟩

theorem has_of_grows (h : Grows t t') (hhas : t.has cwd r = true) : t'.has cwd r = true := by
  obtain ⟨hcheck, l, e, hleads⟩ := has_eq_true.1 hhas
  exact has_eq_true.2 ⟨hcheck, l, e, hleads.of_grows h⟩

theorem locationOf_of_grows (h : Grows t t') (hat : t.locationOf cwd r = .ok l) :
    t'.locationOf cwd r = .ok l := by
  obtain ⟨hspelling, e, hleads⟩ := locationOf_eq_ok.1 hat
  exact locationOf_eq_ok.2 ⟨hspelling, e, hleads.of_grows h⟩

/-! ## Making directories -/

theorem makeDirectory_adds (h : t.makeDirectory cwd r = .ok t') : AddsDirectories t t' := by
  obtain ⟨l, hlocate, h⟩ := bind_eq_ok h
  obtain ⟨around, text, _, _, _, hstep⟩ := locateName_ok hlocate
  have hl : l ≠ [] := step_name_ne_nil hstep
  cases hg : t.get? l with
  | some e => rw [hg] at h; cases h
  | none =>
    rw [hg] at h
    obtain ⟨_, _, hput⟩ := bind_eq_ok h
    injection hput with hput
    subst hput
    exact .put hl hg

theorem ensureDirectory_adds (h : t.ensureDirectory cwd r = .ok t') : AddsDirectories t t' := by
  unfold ensureDirectory at h
  cases hm : t.makeDirectory cwd r with
  | ok t₁ =>
    rw [hm] at h
    injection h with h
    subst h
    exact makeDirectory_adds hm
  | error fault =>
    rw [hm] at h
    simp only at h
    split at h
    · injection h with h
      subst h
      exact .refl t
    · cases h

/-- Making directories only adds directories to a tree, also where it breaks off. -/
theorem makeEach_adds (rs : List Route) : AddsDirectories t (t.makeEach cwd rs).2 := by
  induction rs with
  | nil => exact .refl t
  | cons r around ih =>
    unfold makeEach
    by_cases hempty : r.isEmpty
    · rw [if_pos hempty]
      exact .refl t
    rw [if_neg hempty]
    cases he : t.ensureDirectory cwd r with
    | ok t₁ => exact ensureDirectory_adds he
    | error fault =>
      cases fault with
      | notFound =>
        cases hrest : t.makeEach cwd around with
        | mk fault? t₁ =>
          rw [hrest] at ih
          cases fault? with
          | some fault => exact ih
          | none =>
            simp only
            cases hagain : t₁.ensureDirectory cwd r with
            | ok t₂ => exact ih.trans (ensureDirectory_adds hagain)
            | error fault => exact ih
      | _ => exact .refl t

theorem makeDirectories_adds {fault? : Option Fault}
    (h : t.makeDirectories cwd r = (fault?, t')) : AddsDirectories t t' := by
  have hadds : AddsDirectories t (t.makeDirectories cwd r).2 := makeEach_adds r.withAncestors
  rw [h] at hadds
  exact hadds

/-! ## Trees with the same files -/

/-- Apart from what stands at some places, there are the same files in both trees. -/
def SameFilesBut (t t' : FileTree) (places : List Location) : Prop :=
  ∀ l ∉ places, ∀ c, t'.get? l = some (.file c) ↔ t.get? l = some (.file c)

theorem AddsDirectories.sameFiles (h : AddsDirectories t t') : SameFilesBut t t' [] :=
  fun l _ c => h.file_iff l c

theorem SameFilesBut.trans {places places' : List Location} (h : SameFilesBut t t' places)
    (h' : SameFilesBut t' t'' places') : SameFilesBut t t'' (places ++ places') := by
  intro l hl c
  rw [List.mem_append, not_or] at hl
  rw [h' l hl.2 c, h l hl.1 c]

/-- Writing puts the content where the route leads to and touches no other file. -/
theorem write_located (h : t.write cwd r content = .ok t') :
    ∃ l, t'.locationOf cwd r = .ok l ∧ t'.get? l = some (.file content) ∧
      SameFilesBut t t' [l] := by
  obtain ⟨l, hcheck, hwalk, hl, hdir, rfl⟩ := write_at h
  have hleads : (t.put l (.file content)).Leads cwd r l (.file content) :=
    leads_put_of_walk hwalk hl hdir
  have hat := locationOf_eq_ok.2 ⟨checkSpelling_of_checkPath hcheck, _, hleads⟩
  refine ⟨l, hat, hleads.2, fun l' hl' c => ?_⟩
  rw [get?_put t l l' _ hl, if_neg fun heq => hl' (List.mem_singleton.2 heq)]

end FileTree

end CrossShell.Machine
