import CrossShell.Machine.Path
import CrossShell.Proofs.Text.Split

/-!
The routes of joined paths.

A path below a directory takes the steps of the directory and then its own, and ends with the last
piece of its text. Names of three characters or more are neither of the two that stand for a step
without a name.
-/

set_option autoImplicit false

namespace CrossShell.Machine

variable {base rel name name' : String}

/-! ## Joined texts -/

theorem join_of_absolute (h : rel.toList.head? = some '/') : join base rel = rel :=
  if_pos h

/-- A joined path is the relative one after something that depends on the directory alone, and that
a slash ends unless it is empty. -/
theorem toList_join (h : rel.toList.head? ≠ some '/') :
    (join base rel).toList =
      (if base.toList.getLast?.all (· == '/') then base.toList else base.toList ++ ['/'])
        ++ rel.toList := by
  unfold join
  rw [if_neg h]
  by_cases hlast : base.toList.getLast?.all (· == '/')
  · rw [if_pos hlast, if_pos hlast, String.toList_append]
  · have hslash : "/".toList = ['/'] := by decide
    rw [if_neg hlast, if_neg hlast, String.toList_append, String.toList_append, hslash]

theorem join_eq (hname : '/' ∉ name.toList) :
    (join base name).toList =
      (if base.toList.getLast?.all (· == '/') then base.toList else base.toList ++ ['/'])
        ++ name.toList :=
  toList_join fun h => hname (List.mem_of_head? h)

theorem join_injective (hname : '/' ∉ name.toList) (hname' : '/' ∉ name'.toList)
    (h : join base name = join base name') : name = name' := by
  have hchars := congrArg String.toList h
  rw [join_eq hname, join_eq hname'] at hchars
  exact String.toList_inj.1 (List.append_cancel_left hchars)

/-- A joined path has a slash between the directory without a last one and the relative path, unless
there is nothing to put it after. -/
theorem toList_join_cases (base : String) (h : rel.toList.head? ≠ some '/') :
    (base.toList = [] ∧ (join base rel).toList = rel.toList) ∨
      ∃ front, (base.toList = front ++ ['/'] ∨ base.toList = front) ∧
        (join base rel).toList = front ++ '/' :: rel.toList := by
  rw [toList_join h]
  by_cases hlast : base.toList.getLast?.all (· == '/')
  · rw [if_pos hlast]
    cases hl : base.toList.getLast? with
    | none =>
      have hnil := List.getLast?_eq_none_iff.1 hl
      exact .inl ⟨hnil, by rw [hnil, List.nil_append]⟩
    | some c =>
      rw [hl, Option.all_some, beq_iff_eq] at hlast
      obtain ⟨front, hfront⟩ := List.getLast?_eq_some_iff.1 hl
      rw [hlast] at hfront
      exact .inr ⟨front, .inl hfront, by rw [hfront, List.append_assoc, List.singleton_append]⟩
  · rw [if_neg hlast]
    exact .inr ⟨base.toList, .inr rfl, by rw [List.append_assoc, List.singleton_append]⟩

theorem join_of_unclosed (hrel : rel.toList.head? ≠ some '/') (hne : base.toList ≠ [])
    (hlast : base.toList.getLast? ≠ some '/') : join base rel = base ++ "/" ++ rel := by
  obtain ⟨hnil, -⟩ | ⟨front, hbase, hjoin⟩ := toList_join_cases base hrel
  · exact absurd hnil hne
  · obtain hclosed | rfl := hbase
    · rw [hclosed, List.getLast?_concat] at hlast
      exact absurd rfl hlast
    · rw [← String.toList_inj, hjoin]
      simp [String.toList_append]

theorem fields_join (base : String) (hname : '/' ∉ name.toList) :
    ∃ before, Text.fields '/' (join base name).toList = before ++ [name.toList] := by
  have hhead : name.toList.head? ≠ some '/' := fun h => hname (List.mem_of_head? h)
  obtain ⟨-, hjoin⟩ | ⟨front, -, hjoin⟩ := toList_join_cases base hhead
  · rw [hjoin]
    exact ⟨[], Text.fields_of_not_mem hname⟩
  · rw [hjoin, Text.fields_append, Text.fields_of_not_mem hname]
    exact ⟨_, rfl⟩

/-- A path below an absolute directory is absolute, and so is one that was absolute itself. -/
theorem absolute_join (h : (Route.ofText base).absolute = true) (rel : String) :
    (Route.ofText (join base rel)).absolute = true := by
  by_cases hrel : rel.toList.head? = some '/'
  · rw [join_of_absolute hrel]
    exact decide_eq_true hrel
  · obtain ⟨rest, hrest⟩ := List.head?_eq_some_iff.1 (of_decide_eq_true h)
    refine decide_eq_true ?_
    rw [toList_join hrel, hrest]
    split <;> rfl

/-! ## Steps -/

namespace Route

/-- The steps of a path's text. -/
def stepsOf (text : List Char) : List Step :=
  (Text.fields '/' text).filterMap stepOf?

theorem stepsOf_append_slash (a b : List Char) :
    stepsOf (a ++ '/' :: b) = stepsOf a ++ stepsOf b := by
  unfold stepsOf
  rw [Text.fields_append, List.filterMap_append]

/-- A slash at the end of a path is no step. -/
theorem stepsOf_concat_slash (a : List Char) : stepsOf (a ++ ['/']) = stepsOf a := by
  rw [stepsOf_append_slash, show stepsOf [] = [] from rfl, List.append_nil]

/-- A joined path takes the steps of the directory and then those of the relative path. -/
theorem steps_join (hrel : rel.toList.head? ≠ some '/') :
    (ofText (join base rel)).steps = (ofText base).steps ++ (ofText rel).steps := by
  show stepsOf (join base rel).toList = stepsOf base.toList ++ stepsOf rel.toList
  obtain ⟨hnil, hjoin⟩ | ⟨front, hbase, hjoin⟩ := toList_join_cases base hrel
  · rw [hjoin, hnil]
    rfl
  · have hfront : stepsOf base.toList = stepsOf front := by
      obtain hclosed | hopen := hbase
      · rw [hclosed, stepsOf_concat_slash]
      · rw [hopen]
    rw [hjoin, stepsOf_append_slash, hfront]

/-- The steps of a path without those that stay. -/
def components (path : String) : List Step :=
  (ofText path).steps.filter (· ≠ .here)

theorem components_join (hrel : rel.toList.head? ≠ some '/') :
    components (join base rel) = components base ++ components rel := by
  unfold components
  rw [steps_join hrel, List.filter_append]

/-- A first piece that stays makes no difference to the components. -/
theorem components_of_here {path : String} {rest : List Char}
    (h : path.toList = '.' :: '/' :: rest) : components path = components (String.ofList rest) := by
  have hsteps : stepsOf ('.' :: '/' :: rest) = .here :: stepsOf rest :=
    stepsOf_append_slash ['.'] rest
  show (stepsOf path.toList).filter (· ≠ .here)
    = (stepsOf (String.ofList rest).toList).filter (· ≠ .here)
  rw [h, hsteps, String.toList_ofList]
  rfl

end Route

/-! ## The end of a route -/

namespace Route

/-- The route ends with a name, and asks for no directory there. -/
def EndsIn (r : Route) (name : String) : Prop :=
  r.closed = false ∧ r.steps.getLast? = some (.name name)

theorem steps_of_endsIn {r : Route} (h : r.EndsIn name) :
    (r.steps ++ if r.closed then [.here] else []) = r.steps.dropLast ++ [.name name] := by
  obtain ⟨around, hsteps⟩ := List.getLast?_eq_some_iff.1 h.2
  rw [h.1, hsteps, List.dropLast_concat]
  exact List.append_nil _

theorem stepOf?_of_length {piece : List Char} (h : 3 ≤ piece.length) :
    stepOf? piece = some (.name (String.ofList piece)) := by
  unfold stepOf?
  split
  · exact absurd h (by decide)
  · exact absurd h (by decide)
  · exact absurd h (by decide)
  · rfl

theorem endsIn_join (base : String) (hname : '/' ∉ name.toList) (hlength : 3 ≤ name.toList.length) :
    (ofText (join base name)).EndsIn name := by
  obtain ⟨before, hfields⟩ := fields_join base hname
  have hstep : stepOf? name.toList = some (.name name) := by
    rw [stepOf?_of_length hlength, String.ofList_toList]
  have hsteps : (Text.fields '/' (join base name).toList).filterMap stepOf? =
      before.filterMap stepOf? ++ [.name name] := by
    rw [hfields, List.filterMap_append, List.filterMap_cons_some hstep, List.filterMap_nil]
  have hnonempty : name.toList ≠ [] := by
    intro hnil
    rw [hnil] at hlength
    exact absurd hlength (by decide)
  constructor
  · show (!_ && (Text.fields '/' (join base name).toList).getLast? == some []) = false
    rw [hfields, List.getLast?_concat]
    simp [hnonempty]
  · show ((Text.fields '/' (join base name).toList).filterMap stepOf?).getLast? = _
    rw [hsteps, List.getLast?_concat]

end Route

end CrossShell.Machine
