import CrossShell.Proofs.Machine.Stored
import Mathlib.Algebra.Ring.Nat
import Mathlib.Data.List.Basic

/-!
Locations and the paths that spell them out.

A location that a route leads to from the root has proper names (`IsName`), and the directories
around it are there. So its plain path is a route to it from everywhere (`Real`), and that path is
no longer than any absolute path that names it. A relative path may name locations with longer paths
than can be handed over; a file that is read by it is not found there.
-/

set_option autoImplicit false

namespace CrossShell.Machine

/-! ## Names -/

/-- A name that can be a piece of a path. -/
structure IsName (name : String) : Prop where
  slash : '/' ∉ name.toList
  nul : '\x00' ∉ name.toList
  step : Route.stepOf? name.toList = some (.name name)

theorem IsName.ne_nil {name : String} (h : IsName name) : name.toList ≠ [] := by
  intro hnil
  have hstep := h.step
  rw [hnil] at hstep
  cases hstep

theorem checkSpelling_eq_ok {r : Route} :
    FileTree.checkSpelling r = .ok () ↔ r.hasNul = false ∧ r.isEmpty = false := by
  unfold FileTree.checkSpelling
  cases r.hasNul <;> cases r.isEmpty <;> simp

theorem Route.stepOf?_eq_name {piece : List Char} {name : String}
    (h : stepOf? piece = some (.name name)) : piece = name.toList := by
  unfold stepOf? at h
  split at h
  · cases h
  · cases h
  · cases h
  · cases h
    exact String.toList_ofList.symm

/-- The names on a path that is well spelt are proper names. -/
theorem Route.isName_of_mem_steps {path name : String}
    (hspelling : FileTree.checkSpelling (ofText path) = .ok ())
    (h : .name name ∈ (ofText path).steps) : IsName name := by
  obtain ⟨piece, hpiece, hstep⟩ := List.mem_filterMap.1 h
  obtain rfl := stepOf?_eq_name hstep
  refine ⟨Text.not_mem_of_mem_fields hpiece, ?_, hstep⟩
  intro hnul
  have hno := (checkSpelling_eq_ok.1 hspelling).1
  have hany := List.any_eq_false.1 hno (.name name) h
  exact hany (List.contains_iff_mem.2 hnul)

/-! ## Plain paths -/

theorem toList_pathOf (l : Location) :
    (pathOf l).toList = '/' :: Text.joinFields '/' (l.map String.toList) := by
  have hslash : "/".toList = ['/'] := by decide
  have hjoin : ("/".intercalate l).toList = Text.joinFields '/' (l.map String.toList) := by
    induction l with
    | nil => rfl
    | cons name l ih =>
      cases l with
      | nil => simp [Text.joinFields]
      | cons name' l =>
        rw [String.intercalate_cons_cons, String.toList_append, String.toList_append, ih, hslash]
        simp [Text.joinFields]
  unfold pathOf
  rw [String.toList_append, hslash, hjoin]
  rfl

theorem absolute_pathOf (l : Location) : (Route.ofText (pathOf l)).absolute = true := by
  refine decide_eq_true ?_
  rw [toList_pathOf]
  rfl

theorem hasNul_pathOf {l : Location} (h : ∀ name ∈ l, IsName name) : hasNul (pathOf l) = false := by
  unfold hasNul
  rw [List.contains_eq_mem, decide_eq_false_iff_not, toList_pathOf]
  intro hmem
  obtain hslash | hjoined := List.mem_cons.1 hmem
  · exact absurd hslash (by decide)
  obtain hslash | ⟨piece, hpiece, hnul⟩ := Text.of_mem_joinFields hjoined
  · exact absurd hslash (by decide)
  · obtain ⟨name, hname, rfl⟩ := List.mem_map.1 hpiece
    exact (h name hname).nul hnul

theorem filterMap_stepOf? {l : Location} (h : ∀ name ∈ l, IsName name) :
    (l.map String.toList).filterMap Route.stepOf? = l.map .name := by
  induction l with
  | nil => rfl
  | cons name l ih =>
    rw [List.map_cons, List.filterMap_cons_some (h name List.mem_cons_self).step,
      ih fun name' h' => h name' (List.mem_cons_of_mem name h'), List.map_cons]

/-- The pieces of a plain path; that of the root has none but what is around its slash. -/
theorem fields_pathOf {l : Location} (h : ∀ name ∈ l, IsName name) :
    Text.fields '/' (pathOf l).toList = [] :: if l = [] then [[]] else l.map String.toList := by
  rw [toList_pathOf, Text.fields, if_pos rfl]
  by_cases hl : l = []
  · rw [if_pos hl, hl]
    rfl
  · have hpieces : ∀ piece ∈ l.map String.toList, '/' ∉ piece := by
      intro piece hpiece
      obtain ⟨name, hname, rfl⟩ := List.mem_map.1 hpiece
      exact (h name hname).slash
    rw [if_neg hl, Text.fields_joinFields (mt List.map_eq_nil_iff.1 hl) hpieces]

theorem ofText_pathOf {l : Location} (h : ∀ name ∈ l, IsName name) :
    Route.ofText (pathOf l) = ⟨true, l.map .name, false, (pathOf l).utf8ByteSize⟩ := by
  have hsteps : (Text.fields '/' (pathOf l).toList).filterMap Route.stepOf? = l.map .name := by
    rw [fields_pathOf h, List.filterMap_cons_none rfl]
    by_cases hl : l = []
    · rw [if_pos hl, hl]
      rfl
    · rw [if_neg hl, filterMap_stepOf? h]
  have hclosed : (!(l.map Step.name).isEmpty &&
      (Text.fields '/' (pathOf l).toList).getLast? == some []) = false := by
    rw [fields_pathOf h]
    obtain rfl | ⟨before, name, rfl⟩ := l.eq_nil_or_concat'
    · rfl
    · have hname := (h name (List.mem_append_right before List.mem_cons_self)).ne_nil
      have hend : ([] :: (before ++ [name]).map String.toList).getLast? = some name.toList := by
        rw [List.map_append, List.map_singleton, ← List.cons_append, List.getLast?_concat]
      rw [if_neg (List.concat_ne_nil name before), hend]
      simp [hname]
  have habsolute := of_decide_eq_true (absolute_pathOf l)
  unfold Route.ofText
  simp only [hsteps, hclosed, habsolute, decide_true]

/-! ## Real locations -/

/-- A location that its own path leads to. -/
structure Real (t : FileTree) (l : Location) : Prop where
  names : ∀ name ∈ l, IsName name
  walk : t.walk [] (l.map .name) = .ok l

namespace Real

variable {t : FileTree} {cwd l l' : Location} {e : Entry}

theorem nil (t : FileTree) : Real t [] :=
  ⟨nofun, rfl⟩

theorem step {s : Step} (h : Real t l) (hname : ∀ name, s = .name name → IsName name)
    (hstep : t.step l s = .ok l') : Real t l' := by
  have hl' := FileTree.step_ok hstep
  cases s with
  | here => exact hl' ▸ h
  | up =>
    obtain rfl : l' = l.dropLast := hl'
    refine ⟨fun name hmem => h.names name (List.dropLast_subset l hmem), ?_⟩
    obtain rfl | ⟨before, name, rfl⟩ := l.eq_nil_or_concat'
    · rfl
    · have hwalk := h.walk
      rw [List.map_append] at hwalk
      obtain ⟨l₁, hbefore, hend⟩ := FileTree.walk_concat.1 hwalk
      have hl₁ := (List.append_inj' (FileTree.step_name_ok hend) rfl).1
      rw [List.dropLast_concat, hbefore, hl₁]
  | name text =>
    obtain rfl : l' = l ++ [text] := hl'
    constructor
    · intro name hmem
      obtain hl | hone := List.mem_append.1 hmem
      · exact h.names name hl
      · rw [List.mem_singleton.1 hone]
        exact hname text rfl
    · rw [List.map_append]
      exact FileTree.walk_concat.2 ⟨l, h.walk, hstep⟩

theorem of_walk {steps : List Step} (h : Real t l)
    (hnames : ∀ name, .name name ∈ steps → IsName name) (hwalk : t.walk l steps = .ok l') :
    Real t l' := by
  induction steps generalizing l with
  | nil =>
    cases hwalk
    exact h
  | cons s steps ih =>
    unfold FileTree.walk at hwalk
    cases hstep : t.step l s with
    | error fault => rw [hstep] at hwalk; cases hwalk
    | ok l₁ =>
      rw [hstep] at hwalk
      have hreal := h.step (fun name hs => hnames name (hs ▸ List.mem_cons_self)) hstep
      exact ih hreal (fun name hmem => hnames name (List.mem_cons_of_mem s hmem)) hwalk

/-- What a well spelt path leads to from a real location is at a real location. -/
theorem of_locationOf {path : String}
    (horigin : Real t (FileTree.origin cwd (Route.ofText path)))
    (h : t.locationOf cwd (Route.ofText path) = .ok l) : Real t l := by
  obtain ⟨hspelling, e, hwalk, _⟩ := FileTree.locationOf_eq_ok.1 h
  refine horigin.of_walk ?_ hwalk
  intro name hmem
  obtain hsteps | hend := List.mem_append.1 hmem
  · exact Route.isName_of_mem_steps hspelling hsteps
  · split at hend
    · simp at hend
    · cases hend

theorem leads (h : Real t l) (hget : t.get? l = some e) :
    t.Leads cwd (Route.ofText (pathOf l)) l e := by
  refine ⟨?_, hget⟩
  rw [ofText_pathOf h.names]
  show t.walk [] (l.map .name ++ []) = .ok l
  rw [List.append_nil]
  exact h.walk

theorem checkSpelling (h : Real t l) :
    FileTree.checkSpelling (Route.ofText (pathOf l)) = .ok () := by
  refine checkSpelling_eq_ok.2 ⟨?_, ?_⟩
  · rw [ofText_pathOf h.names, Route.hasNul, List.any_eq_false]
    intro s hs
    obtain ⟨name, hname, rfl⟩ := List.mem_map.1 hs
    exact fun hnul => (h.names name hname).nul (List.contains_iff_mem.1 hnul)
  · rw [ofText_pathOf h.names]
    rfl

theorem locationOf (h : Real t l) (hget : t.get? l = some e) :
    t.locationOf cwd (Route.ofText (pathOf l)) = .ok l :=
  FileTree.locationOf_eq_ok.2 ⟨h.checkSpelling, e, h.leads hget⟩

end Real

/-! ## The length of a path -/

/-- How many bytes some characters take. -/
def width (s : List Char) : Nat :=
  (s.map Char.utf8Size).sum

theorem utf8ByteSize_eq (text : String) : text.utf8ByteSize = width text.toList := by
  have hlist (s : List Char) : (String.ofList s).utf8ByteSize = width s := by
    induction s with
    | nil => rfl
    | cons c s ih =>
      have hcons : (String.ofList (c :: s)).utf8ByteSize =
          c.utf8Size + (String.ofList s).utf8ByteSize := by simp
      rw [hcons, ih, width, width, List.map_cons, List.sum_cons]
  rw [← hlist, String.ofList_toList]

/-- Every piece of a text takes its width and one byte that ends it. -/
theorem sum_width_pieces {pieces : List (List Char)} (h : pieces ≠ []) :
    (pieces.map fun piece => width piece + 1).sum = width (Text.joinFields '/' pieces) + 1 := by
  induction pieces with
  | nil => exact absurd rfl h
  | cons piece pieces ih =>
    cases pieces with
    | nil => simp [Text.joinFields]
    | cons next rest =>
      have hslash : Char.utf8Size '/' = 1 := by decide
      rw [List.map_cons, List.sum_cons, ih (List.cons_ne_nil next rest),
        Text.joinFields_cons '/' piece (List.cons_ne_nil next rest)]
      simp only [width, List.map_append, List.map_cons, List.sum_append, List.sum_cons, hslash]
      omega

/-- How many bytes a step adds to a location's path at most. -/
def Step.width : Step → Nat
  | .here | .up => 0
  | .name text => Machine.width text.toList + 1

/-- How many bytes a location's path takes, without the root. -/
def breadth (l : Location) : Nat :=
  (l.map fun name => width name.toList + 1).sum

theorem utf8ByteSize_pathOf (l : Location) : (pathOf l).utf8ByteSize = max 1 (breadth l) := by
  rw [utf8ByteSize_eq, toList_pathOf]
  by_cases hl : l = []
  · rw [hl]
    decide
  · have hslash : Char.utf8Size '/' = 1 := by decide
    have hpieces := sum_width_pieces (mt List.map_eq_nil_iff.1 hl : l.map String.toList ≠ [])
    rw [List.map_map] at hpieces
    have hbreadth : breadth l = width (Text.joinFields '/' (l.map String.toList)) + 1 := hpieces
    rw [hbreadth, width, List.map_cons, List.sum_cons, hslash]
    show 1 + width _ = _
    omega

theorem breadth_destination (s : Step) (l : Location) :
    breadth (s.destination l) ≤ breadth l + s.width := by
  cases s with
  | here => exact Nat.le_refl _
  | up =>
    show breadth l.dropLast ≤ breadth l
    obtain rfl | ⟨before, name, rfl⟩ := l.eq_nil_or_concat'
    · exact Nat.le_refl _
    · rw [List.dropLast_concat, breadth, breadth, List.map_append, List.sum_append]
      exact Nat.le_add_right _ _
  | name text =>
    show breadth (l ++ [text]) ≤ _
    simp only [breadth, List.map_append, List.map_singleton, List.sum_append, List.sum_singleton]
    exact Nat.le_refl _

theorem breadth_of_mem_named {l l' : Location} {steps : List Step}
    (h : l' ∈ FileTree.named l steps) : breadth l' ≤ breadth l + (steps.map Step.width).sum := by
  induction steps generalizing l with
  | nil => cases h
  | cons s steps ih =>
    have hone := breadth_destination s l
    have hrest : l' ∈ FileTree.named (s.destination l) steps → breadth l' ≤
        breadth (s.destination l) + (steps.map Step.width).sum := ih
    rw [List.map_cons, List.sum_cons]
    cases s with
    | here | up =>
      have hlater := hrest h
      omega
    | name text =>
      obtain rfl | hlater := List.mem_cons.1 h
      · change breadth (l ++ [text]) ≤ _ at hone
        omega
      · have hlater := hrest hlater
        omega

theorem sum_width_steps (pieces : List (List Char)) :
    ((pieces.filterMap Route.stepOf?).map Step.width).sum ≤
      (pieces.map fun piece => width piece + 1).sum := by
  induction pieces with
  | nil => exact Nat.le_refl _
  | cons piece pieces ih =>
    rw [List.map_cons, List.sum_cons]
    cases hstep : Route.stepOf? piece with
    | none =>
      rw [List.filterMap_cons_none hstep]
      omega
    | some s =>
      rw [List.filterMap_cons_some hstep, List.map_cons, List.sum_cons]
      have hone : s.width ≤ width piece + 1 := by
        cases s with
        | here | up => exact Nat.zero_le _
        | name text =>
          rw [Route.stepOf?_eq_name hstep]
          exact Nat.le_refl _
      omega

/-- The path of a location that an absolute path names is no longer than that path. -/
theorem utf8ByteSize_pathOf_le {cwd l : Location} {path : String}
    (habsolute : (Route.ofText path).absolute = true)
    (h : l ∈ FileTree.named (FileTree.origin cwd (Route.ofText path)) (Route.ofText path).steps) :
    (pathOf l).utf8ByteSize ≤ path.utf8ByteSize := by
  obtain ⟨rest, hrest⟩ := List.head?_eq_some_iff.1 (of_decide_eq_true habsolute)
  have hsteps : ((Route.ofText path).steps.map Step.width).sum ≤ width rest + 1 := by
    have hfields : Text.fields '/' path.toList = [] :: Text.fields '/' rest := by
      rw [hrest, Text.fields, if_pos rfl]
    have hpieces := sum_width_pieces (Text.fields_ne_nil '/' rest)
    rw [Text.joinFields_fields] at hpieces
    rw [← hpieces]
    show (((Text.fields '/' path.toList).filterMap Route.stepOf?).map Step.width).sum ≤ _
    rw [hfields, List.filterMap_cons_none rfl]
    exact sum_width_steps (Text.fields '/' rest)
  have horigin : FileTree.origin cwd (Route.ofText path) = [] := if_pos habsolute
  have hpath : path.utf8ByteSize = width rest + 1 := by
    have hslash : Char.utf8Size '/' = 1 := by decide
    rw [utf8ByteSize_eq, hrest, width, List.map_cons, List.sum_cons, hslash, Nat.add_comm]
    rfl
  rw [horigin] at h
  have hbreadth := breadth_of_mem_named h
  have hroot : breadth [] = 0 := rfl
  rw [utf8ByteSize_pathOf, hpath]
  omega

theorem fits_of_absolute {cwd : Location} {path : String}
    (habsolute : (Route.ofText path).absolute = true)
    (hsize : path.utf8ByteSize ≤ FileTree.pathLimit) :
    FileTree.fits cwd (Route.ofText path) = true := by
  refine List.all_eq_true.2 fun l hl => decide_eq_true ?_
  exact Nat.le_trans (utf8ByteSize_pathOf_le habsolute hl) hsize

theorem size_of_fits {t : FileTree} {cwd l : Location} {r : Route} {name : String} {e : Entry}
    (hfits : FileTree.fits cwd r = true) (hend : r.EndsIn name) (hleads : t.Leads cwd r l e) :
    (pathOf l).utf8ByteSize ≤ FileTree.pathLimit := by
  have hwalk := hleads.1
  rw [Route.steps_of_endsIn hend] at hwalk
  obtain ⟨around, hsteps⟩ := List.getLast?_eq_some_iff.1 hend.2
  have hnamed := FileTree.mem_named_of_walk hwalk
  rw [hsteps, List.dropLast_concat, ← hsteps] at hnamed
  exact of_decide_eq_true (List.all_eq_true.1 hfits l hnamed)

/-! ## Full paths -/

/-- The current directory is where its own path leads. -/
def HasDirectory (m : Machine) : Prop :=
  m.files.locationOf [] (Route.ofText (pathOf m.directory)) = .ok m.directory

theorem HasDirectory.real {m : Machine} (h : m.HasDirectory) : Real m.files m.directory := by
  have hroot : Real m.files (FileTree.origin [] (Route.ofText (pathOf m.directory))) := by
    rw [FileTree.origin, if_pos (absolute_pathOf m.directory)]
    exact .nil m.files
  exact hroot.of_locationOf h

theorem real_of_locationOf {m : Machine} {path : String} {l : Location}
    (hdirectory : (Route.ofText path).absolute = false → m.HasDirectory)
    (hat : m.files.locationOf m.directory (Route.ofText path) = .ok l) : Real m.files l := by
  refine Real.of_locationOf ?_ hat
  cases habsolute : (Route.ofText path).absolute with
  | true =>
    rw [FileTree.origin, if_pos habsolute]
    exact .nil m.files
  | false =>
    rw [FileTree.origin, if_neg (by rw [habsolute]; decide)]
    exact (hdirectory habsolute).real

section Content

variable {m : Machine} {path name : String} {c : ByteArray}

theorem exists_leads_of_content (h : m.content path = .ok c) :
    ∃ l, m.files.Leads m.directory (Route.ofText path) l (.file c) ∧
      m.files.locationOf m.directory (Route.ofText path) = .ok l := by
  obtain ⟨hcheck, l, hleads⟩ := FileTree.read_eq_ok.1 h
  exact ⟨l, hleads, FileTree.locationOf_eq_ok.2
    ⟨FileTree.checkSpelling_of_checkPath hcheck, _, hleads⟩⟩

/-- A file that is read by a path that ends with its name and can be spelt out is found there, and
it is found and read at its full path as well. -/
theorem content_pathOf (hcontent : m.content path = .ok c) (hend : (Route.ofText path).EndsIn name)
    (hdirectory : (Route.ofText path).absolute = false → m.HasDirectory)
    (hfits : FileTree.fits m.directory (Route.ofText path) = true) :
    ∃ l, m.files.spellOut m.directory (Route.ofText path) = .ok l ∧
      m.files.spellOut m.directory (Route.ofText (pathOf l)) = .ok l ∧
      m.content (pathOf l) = .ok c ∧ hasNul (pathOf l) = false := by
  obtain ⟨l, hleads, hat⟩ := exists_leads_of_content hcontent
  have hreal : Real m.files l := real_of_locationOf hdirectory hat
  have hsize := size_of_fits hfits hend hleads
  have hfull : m.files.Leads m.directory (Route.ofText (pathOf l)) l (.file c) :=
    hreal.leads hleads.2
  have hcheckFull : FileTree.checkPath (Route.ofText (pathOf l)) = .ok () := by
    refine FileTree.checkPath_of_size hreal.checkSpelling ?_
    rw [ofText_pathOf hreal.names]
    exact hsize
  exact ⟨l, FileTree.spellOut_eq_ok.2 ⟨hat, hfits⟩,
    FileTree.spellOut_eq_ok.2
      ⟨hreal.locationOf hleads.2, fits_of_absolute (absolute_pathOf l) hsize⟩,
    FileTree.read_eq_ok.2 ⟨hcheckFull, l, hfull⟩, hasNul_pathOf hreal.names⟩

/-- A file that is read by a path that cannot be spelt out is not found there. -/
theorem spellOut_of_content (hcontent : m.content path = .ok c)
    (hfits : FileTree.fits m.directory (Route.ofText path) = false) :
    m.files.spellOut m.directory (Route.ofText path) = .error .nameTooLong := by
  obtain ⟨l, -, hat⟩ := exists_leads_of_content hcontent
  exact FileTree.spellOut_of_not_fits hat hfits

/-- An absolute path by which a file is read can be spelt out. -/
theorem fits_of_content (hcontent : m.content path = .ok c)
    (habsolute : (Route.ofText path).absolute = true) :
    FileTree.fits m.directory (Route.ofText path) = true := by
  obtain ⟨hcheck, -⟩ := FileTree.read_eq_ok.1 hcontent
  exact fits_of_absolute habsolute (FileTree.size_of_checkPath hcheck)

end Content

end CrossShell.Machine
