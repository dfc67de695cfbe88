import CrossShell.Text.Blank
import CrossShell.Text.Split

/-!
What trimming leaves of a text.

`IsTrimmed` says it without an algorithm: blanks stand before and after, and the rest neither starts
nor ends with one. There is exactly one such rest. A carriage return is a blank, so it makes no
difference to a trimmed line whether the one before its line feed was dropped.
-/

set_option autoImplicit false

namespace CrossShell.Text

variable {s core : List Char}

/-- `core` is the text without the blanks at its two ends. -/
def IsTrimmed (s core : List Char) : Prop :=
  ∃ before after, s = before ++ core ++ after ∧ (∀ c ∈ before, isBlank c = true) ∧
    (∀ c ∈ after, isBlank c = true) ∧ (∀ c, core.head? = some c → isBlank c = false) ∧
    ∀ c, core.getLast? = some c → isBlank c = false

/-! ## Dropping blanks -/

theorem dropWhile_of_head? {p : Char → Bool} (h : ∀ c, s.head? = some c → p c = false) :
    s.dropWhile p = s := by
  cases s with
  | nil => rfl
  | cons c rest => rw [List.dropWhile_cons_of_neg (by simp [h c rfl])]

theorem head?_dropWhile {p : Char → Bool} {c : Char} (h : (s.dropWhile p).head? = some c) :
    p c = false := by
  have hnot := List.head?_dropWhile_not p s
  rw [h] at hnot
  exact hnot

theorem trimEnd_append {after : List Char} (hafter : ∀ c ∈ after, isBlank c = true)
    (hlast : ∀ c, core.getLast? = some c → isBlank c = false) : trimEnd (core ++ after) = core := by
  have hreverse : ∀ c ∈ after.reverse, isBlank c = true := fun c hc =>
    hafter c (List.mem_reverse.1 hc)
  have hhead : ∀ c, core.reverse.head? = some c → isBlank c = false := fun c hc =>
    hlast c (List.head?_reverse ▸ hc)
  unfold trimEnd
  rw [List.reverse_append, List.dropWhile_append_of_pos hreverse, dropWhile_of_head? hhead,
    List.reverse_reverse]

/-- What `trimEnd` drops are blanks. -/
theorem exists_after_trimEnd (s : List Char) :
    ∃ after, s = trimEnd s ++ after ∧ ∀ c ∈ after, isBlank c = true := by
  refine ⟨(s.reverse.takeWhile isBlank).reverse, ?_, ?_⟩
  · unfold trimEnd
    rw [← List.reverse_append, List.takeWhile_append_dropWhile, List.reverse_reverse]
  · intro c hc
    exact List.all_eq_true.1 List.all_takeWhile c (List.mem_reverse.1 hc)

/-! ## Trimming -/

theorem trim_of_isTrimmed (h : IsTrimmed s core) : trim s = core := by
  obtain ⟨before, after, rfl, hbefore, hafter, hhead, hlast⟩ := h
  have hstart : trimStart (before ++ core ++ after) = trimStart (core ++ after) := by
    rw [trimStart, List.append_assoc, List.dropWhile_append_of_pos hbefore]
    rfl
  unfold trim
  rw [hstart]
  cases core with
  | nil =>
    have hnil : trimStart (after ++ []) = [] := List.dropWhile_append_of_pos hafter
    rw [List.append_nil] at hnil
    rw [List.nil_append, hnil]
    rfl
  | cons c rest =>
    have hkept : trimStart (c :: rest ++ after) = c :: rest ++ after :=
      dropWhile_of_head? fun c' hc' => hhead c' hc'
    rw [hkept, trimEnd_append hafter hlast]

theorem isTrimmed_trim (s : List Char) : IsTrimmed s (trim s) := by
  obtain ⟨after, heq, hblank⟩ := exists_after_trimEnd (trimStart s)
  refine ⟨s.takeWhile isBlank, after, ?_, ?_, hblank, ?_, ?_⟩
  · have hsplit : s = s.takeWhile isBlank ++ trimStart s := List.takeWhile_append_dropWhile.symm
    rw [List.append_assoc, trim, ← heq]
    exact hsplit
  · intro c hc
    exact List.all_eq_true.1 List.all_takeWhile c hc
  · intro c hc
    have hstart : (trimStart s).head? = some c := by
      rw [heq, List.head?_append, show trimEnd (trimStart s) = trim s from rfl, hc]
      rfl
    exact head?_dropWhile hstart
  · intro c hc
    unfold trim trimEnd at hc
    rw [List.getLast?_reverse] at hc
    exact head?_dropWhile hc

theorem trim_eq_iff : trim s = core ↔ IsTrimmed s core := by
  refine ⟨?_, trim_of_isTrimmed⟩
  rintro rfl
  exact isTrimmed_trim s

theorem trim_ne_nil (h : isAllBlank s = false) : trim s ≠ [] := by
  intro hnil
  obtain ⟨before, after, hs, hbefore, hafter, _⟩ := trim_eq_iff.1 hnil
  have hall : isAllBlank s = true := by
    rw [hs, List.append_nil]
    unfold isAllBlank
    rw [List.all_append, List.all_eq_true.2 hbefore, List.all_eq_true.2 hafter]
    rfl
  rw [h] at hall
  cases hall

/-! ## Carriage returns -/

/-- A line is itself without a carriage return, or with one. -/
theorem dropReturn_cases (line : List Char) :
    dropReturn line = line ∨ line = dropReturn line ++ ['\r'] := by
  unfold dropReturn
  split
  next h =>
    obtain ⟨before, rfl⟩ := List.getLast?_eq_some_iff.1 h
    rw [List.dropLast_concat]
    exact .inr rfl
  · exact .inl rfl

theorem trim_append_return (s : List Char) : trim (s ++ ['\r']) = trim s := by
  obtain ⟨before, after, hs, hbefore, hafter, hends⟩ := isTrimmed_trim s
  refine trim_of_isTrimmed ⟨before, after ++ ['\r'], ?_, hbefore, ?_, hends⟩
  · rw [← List.append_assoc, ← hs]
  · intro c hc
    obtain hc | hc := List.mem_append.1 hc
    · exact hafter c hc
    · rw [List.mem_singleton.1 hc]
      decide

theorem trim_dropReturn (line : List Char) : trim (dropReturn line) = trim line := by
  obtain h | h := dropReturn_cases line
  · rw [h]
  · rw [← trim_append_return, ← h]

theorem isAllBlank_append_return (s : List Char) : isAllBlank (s ++ ['\r']) = isAllBlank s := by
  have hreturn : isBlank '\r' = true := by decide
  simp [isAllBlank, hreturn]

theorem isAllBlank_dropReturn (line : List Char) :
    isAllBlank (dropReturn line) = isAllBlank line := by
  obtain h | h := dropReturn_cases line
  · rw [h]
  · rw [← isAllBlank_append_return, ← h]

/-! ## Lines -/

/-- Neither carriage returns nor an empty last line matter to the trimmed lines of a kind. -/
theorem map_trim_filter_lines {p : List Char → Bool} (hnil : p [] = false)
    (hreturn : ∀ line, p (dropReturn line) = p line) (s : List Char) :
    ((lines s).filter p).map trim = ((fields '\n' s).filter p).map trim := by
  unfold lines
  fun_induction linesOfFields (fields '\n' s) with
  | case1 => rfl
  | case2 => simp [hnil]
  | case3 last hlast => rfl
  | case4 piece pieces hmore ih =>
    rw [List.filter_cons, List.filter_cons, hreturn]
    split
    · rw [List.map_cons, List.map_cons, trim_dropReturn, ih]
    · exact ih

theorem find?_lines {p : List Char → Bool} (hnil : p [] = false)
    (hreturn : ∀ line, p (dropReturn line) = p line) (s : List Char) :
    ((lines s).find? p).map trim = ((fields '\n' s).find? p).map trim := by
  rw [← List.head?_filter, ← List.head?_filter, ← List.head?_map, ← List.head?_map,
    map_trim_filter_lines hnil hreturn]

theorem find?_reverse_lines {p : List Char → Bool} (hnil : p [] = false)
    (hreturn : ∀ line, p (dropReturn line) = p line) (s : List Char) :
    ((lines s).reverse.find? p).map trim = ((fields '\n' s).reverse.find? p).map trim := by
  rw [← List.getLast?_filter, ← List.getLast?_filter, ← List.getLast?_map, ← List.getLast?_map,
    map_trim_filter_lines hnil hreturn]

/-- A text without a line has an empty one before its first line feed. -/
theorem trim_head?_lines (s : List Char) :
    trim ((lines s).head?.getD []) = trim ((fields '\n' s).head?.getD []) := by
  unfold lines
  fun_cases linesOfFields (fields '\n' s) with
  | case1 => rfl
  | case2 => rfl
  | case3 last hlast => rfl
  | case4 piece pieces hmore => exact trim_dropReturn piece

end CrossShell.Text
