import CrossShell.Script.Table

/-!
The length of a table is a border: as many items are reached, and the next one is missing.

Every search keeps an item that is there, or the place before all items, below a number that is not.
What is searched first is where the last search ended, so the place that a table keeps for that has
to be among its slots. A table without gaps has one border only.
-/

set_option autoImplicit false

namespace CrossShell.Script.Table

variable {t : Table} {has : Nat → Bool} {fuel low high n : Nat}

/-- There is nothing before it or an item at it, and none after it. -/
structure IsBorder (has : Nat → Bool) (n : Nat) : Prop where
  reached : n = 0 ∨ has n = true
  missing : has (n + 1) = false

/-! ## Searches -/

theorem isBorder_bisect (hlow : low = 0 ∨ has low = true) (hhigh : has high = false)
    (hlt : low < high) (hfuel : high - low ≤ fuel + 1) :
    IsBorder has (bisect has fuel low high) := by
  induction fuel generalizing low high with
  | zero =>
    obtain rfl : high = low + 1 := by omega
    exact ⟨hlow, hhigh⟩
  | succ fuel ih =>
    unfold bisect
    split
    next hnear =>
      obtain rfl : high = low + 1 := by omega
      exact ⟨hlow, hhigh⟩
    next hfar =>
      dsimp only
      split
      next hmiddle => exact ih (.inr hmiddle) hhigh (by omega) (by omega)
      next hmiddle => exact ih hlow (Bool.eq_false_iff.2 hmiddle) (by omega) (by omega)

theorem bisect_le (h : low ≤ high) : bisect has fuel low high ≤ high := by
  induction fuel generalizing low high with
  | zero => exact h
  | succ fuel ih =>
    unfold bisect
    split
    · exact h
    · dsimp only
      split
      · exact ih (by omega)
      · exact Nat.le_trans (ih (by omega)) (by omega)

/-- The number is doubled until it passes the last one, so the fuel is enough for it. -/
theorem isBorder_double (hhas : has n = true) (hlast : ∀ m, lastNumber < m → has m = false)
    (hfuel : lastNumber < n * Nat.pow 2 fuel) : IsBorder has (double has fuel n) := by
  have hle : ∀ m, has m = true → m ≤ lastNumber := by
    intro m hm
    refine Nat.le_of_not_lt fun hlt => ?_
    rw [hlast m hlt] at hm
    cases hm
  induction fuel generalizing n with
  | zero =>
    have hlt : lastNumber < n := by rwa [← Nat.mul_one n]
    exact absurd (hle n hhas) (Nat.not_le.2 hlt)
  | succ fuel ih =>
    have hn := hle n hhas
    have hpos : 0 < n := by
      refine Nat.pos_of_ne_zero fun hzero => ?_
      rw [hzero, Nat.zero_mul] at hfuel
      omega
    unfold double
    dsimp only
    split
    next hnext =>
      have hmissing : has (min (2 * n) lastNumber) = false := by simpa using hnext
      have hne : n ≠ min (2 * n) lastNumber := by
        intro heq
        rw [← heq, hhas] at hmissing
        cases hmissing
      exact isBorder_bisect (.inr hhas) hmissing (by omega) (by omega)
    next hnext =>
      have hreached : has (min (2 * n) lastNumber) = true := by simpa using hnext
      split
      next hend =>
        rw [hend] at hreached ⊢
        exact ⟨.inr hreached, hlast _ (Nat.lt_succ_self _)⟩
      next hend =>
        have hdouble : min (2 * n) lastNumber = 2 * n := by omega
        rw [hdouble] at hreached ⊢
        refine ih hreached ?_
        have hpow : Nat.pow 2 (fuel + 1) = Nat.pow 2 fuel * 2 := rfl
        rw [hpow, Nat.mul_comm (Nat.pow 2 fuel) 2, ← Nat.mul_assoc, Nat.mul_comm n 2] at hfuel
        exact hfuel

/-! ## Items -/

theorem hasItem_iff : t.hasItem n = true ↔ t.item n ≠ .nil :=
  bne_iff_ne

theorem hasItem_eq_false : t.hasItem n = false ↔ t.item n = .nil := by
  unfold hasItem
  rw [bne_eq_false_iff_eq]

theorem hasItem_of_lastNumber_lt (h : lastNumber < n) : t.hasItem n = false := by
  rw [hasItem_eq_false, item, if_neg (Nat.not_le.2 h)]

theorem le_lastNumber (h : t.hasItem n = true) : n ≤ lastNumber := by
  refine Nat.le_of_not_lt fun hlt => ?_
  rw [hasItem_of_lastNumber_lt hlt] at h
  cases h

/-! ## The length -/

/-- The place that is searched first is among the slots. -/
def IsSound (t : Table) : Prop :=
  t.limit ≤ t.slots.length

theorem isBorder_border (h : t.IsSound) : IsBorder t.hasItem t.border.1 := by
  have hlimit : t.limit ≤ t.slots.length := h
  unfold border
  dsimp only
  split
  next hempty =>
    have hmissing : t.hasItem t.limit = false := by simpa using hempty.2
    split
    next hbefore =>
      have hnext : t.limit - 1 + 1 = t.limit := by omega
      exact ⟨.inr hbefore.2, by rw [hnext]; exact hmissing⟩
    next => exact isBorder_bisect (.inl rfl) hmissing (by omega) (by omega)
  next hfilled =>
    have hreached : t.limit = 0 ∨ t.hasItem t.limit = true := by
      by_cases hzero : t.limit = 0
      · exact .inl hzero
      · exact .inr (by simpa [hzero] using hfilled)
    split
    next hend => exact ⟨hreached, by simpa using hend.2⟩
    next hmore =>
      split
      next hlast =>
        have hlt : t.limit < t.slots.length := Nat.lt_of_le_of_ne hlimit hlast.1
        exact isBorder_bisect hreached (by simpa using hlast.2) hlt (by omega)
      next hfull =>
        have hcount : t.slots.length = 0 ∨ t.hasItem t.slots.length = true := by
          by_cases hsame : t.limit = t.slots.length
          · rwa [hsame] at hreached
          · exact .inr (by simpa [hsame] using hfull)
        split
        next hnodes =>
          have hstart : t.hasItem (max t.slots.length 1) = true := by
            obtain hzero | hlast := hcount
            · rw [hzero] at hnodes ⊢
              exact hnodes
            · by_cases hzero : t.slots.length = 0
              · rw [hzero] at hnodes ⊢
                exact hnodes
              · rwa [Nat.max_eq_left (Nat.pos_of_ne_zero hzero)]
          have hfuel : lastNumber < max t.slots.length 1 * Nat.pow 2 63 := by
            have hone : lastNumber < Nat.pow 2 63 := by decide
            exact Nat.lt_of_lt_of_le hone (Nat.le_mul_of_pos_left _ (Nat.le_max_right ..))
          exact isBorder_double hstart (fun m => hasItem_of_lastNumber_lt) hfuel
        next hnodes => exact ⟨hcount, by simpa using hnodes⟩

/-- A search leaves the place for the next one among the slots. -/
theorem isSound_measured (h : t.IsSound) : t.measured.IsSound := by
  have hlimit : t.limit ≤ t.slots.length := h
  show t.border.2 ≤ t.slots.length
  unfold border
  dsimp only
  split
  · split
    · dsimp only
      split <;> omega
    · have hfound : bisect t.hasItem t.limit 0 t.limit ≤ t.limit := bisect_le (Nat.zero_le _)
      dsimp only
      split <;> omega
  · split
    · exact hlimit
    · split
      · exact bisect_le hlimit
      · split <;> exact hlimit

/-- In a table without gaps there is one border. -/
theorem length_of_items (h : t.IsSound)
    (hitems : ∀ m, 0 < m → (t.hasItem m = true ↔ m ≤ n)) : t.length = n := by
  have hborder : IsBorder t.hasItem t.length := isBorder_border h
  have hle : t.length ≤ n := by
    obtain hzero | hreached := hborder.reached
    · omega
    · by_cases hzero : t.length = 0
      · omega
      · exact (hitems _ (Nat.pos_of_ne_zero hzero)).1 hreached
  refine Nat.le_antisymm hle (Nat.le_of_not_lt fun hlt => ?_)
  have hnext := (hitems (t.length + 1) (Nat.succ_pos _)).2 hlt
  rw [hborder.missing] at hnext
  cases hnext

end CrossShell.Script.Table
