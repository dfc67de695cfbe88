import CrossShell.Proofs.Target

/-!
The texts that are triples of targets.

A text is the triple of at most one target, and reading it gives that target. The texts that are
read are the triples of the listed targets and, for Linux, the same triples with the vendor `pc` in
place of `unknown`. A text that is refused is named in the error as it was given, although the last
check writes it anew from the fields that were recognised.
-/

set_option autoImplicit false

namespace CrossShell

theorem Arch.name_of_ofName? {s : String} {a : Arch} (h : ofName? s = some a) : a.name = s := by
  simpa using List.find?_some h

theorem Os.tripleName_of_ofTripleName? {s : String} {o : Os} (h : ofTripleName? s = some o) :
    o.tripleName = s := by
  simpa using List.find?_some h

theorem Abi.name_of_ofName? {s : String} {a : Abi} (h : ofName? s = some a) : a.name = s := by
  simpa using List.find?_some h

namespace Target

variable {s : String} {t : Target} {e : TargetError} {arch : Arch} {vendor : String} {os : Os}
  {abi : Option Abi}

/-! ## Fields as they are written -/

/-- The triple whose fields are written so. -/
def joinTriple (fields : List String) : String :=
  String.ofList (Text.joinFields '-' (fields.map String.toList))

theorem joinTriple_splitTriple (s : String) : joinTriple (splitTriple s) = s := by
  have hmap : ∀ pieces : List (List Char),
      (pieces.map String.ofList).map String.toList = pieces := by
    intro pieces
    simp [Function.comp_def]
  unfold joinTriple splitTriple
  rw [hmap, Text.joinFields_fields, String.ofList_toList]

/-- The fields of a triple, of which the last may be missing. -/
def fieldNames (arch : Arch) (vendor : String) (os : Os) (abi : Option Abi) : List String :=
  [arch.name, vendor, os.tripleName] ++ (abi.map Abi.name).toList

theorem tripleOf_eq (arch : Arch) (vendor : String) (os : Os) (abi : Option Abi) :
    tripleOf arch vendor os abi = joinTriple (fieldNames arch vendor os abi) := by
  apply String.toList_inj.1
  cases abi <;> simp [tripleOf, joinTriple, fieldNames, Text.joinFields]

/-! ## Reading the fields -/

theorem ofFields_eq_ok :
    ofFields arch vendor os abi = .ok t ↔
      t.arch = arch ∧ t.vendor = vendor ∧ t.os = os ∧ t.abi = abi := by
  constructor
  · intro h
    unfold ofFields at h
    split at h
    · cases h
      exact ⟨rfl, rfl, rfl, rfl⟩
    · cases h
  · rintro ⟨rfl, rfl, rfl, rfl⟩
    exact t.ofFields_self

theorem triple_of_ofFields_error (h : ofFields arch vendor os abi = .error e) :
    e.triple = tripleOf arch vendor os abi := by
  unfold ofFields at h
  split at h
  · cases h
  · cases h
    rfl

theorem fieldNames_of_parseFields {a v o : String} {b : Option String}
    (h : parseFields s a v o b = .ok t) :
    [a, v, o] ++ b.toList = fieldNames t.arch t.vendor t.os t.abi := by
  unfold parseFields at h
  split at h
  · cases h
  next arch harch =>
  split at h
  · cases h
  next os hos =>
  rw [← Arch.name_of_ofName? harch, ← Os.tripleName_of_ofTripleName? hos]
  split at h
  · obtain ⟨rfl, rfl, rfl, habi⟩ := ofFields_eq_ok.1 h
    simp [fieldNames, habi]
  next abi =>
  split at h
  · cases h
  next abi habi =>
  obtain ⟨rfl, rfl, rfl, habi'⟩ := ofFields_eq_ok.1 h
  simp [fieldNames, habi', Abi.name_of_ofName? habi]

/-- Where the fields are those of the text, an error names the text. The combination as a whole is
refused only after every field was recognised, so the triple that is written then is the text. -/
theorem triple_of_parseFields_error {a v o : String} {b : Option String}
    (hs : s = joinTriple ([a, v, o] ++ b.toList)) (h : parseFields s a v o b = .error e) :
    e.triple = s := by
  unfold parseFields at h
  split at h
  · cases h
    rfl
  next arch harch =>
  split at h
  · cases h
    rfl
  next os hos =>
  rw [← Arch.name_of_ofName? harch, ← Os.tripleName_of_ofTripleName? hos] at hs
  split at h
  · rw [triple_of_ofFields_error h, tripleOf_eq, hs]
    rfl
  next abi =>
  split at h
  · cases h
    rfl
  next abi habi =>
  rw [← Abi.name_of_ofName? habi] at hs
  rw [triple_of_ofFields_error h, tripleOf_eq, hs]
  rfl

/-! ## Reading a text -/

/-- A target that was read has the text as its triple. -/
theorem triple_of_parse (h : parse s = .ok t) : t.triple = s := by
  have hjoin := joinTriple_splitTriple s
  have htriple : t.triple = joinTriple (fieldNames t.arch t.vendor t.os t.abi) := tripleOf_eq ..
  unfold parse at h
  split at h
  next a v o b hsplit =>
    rw [htriple, ← fieldNames_of_parseFields h, ← hjoin, hsplit]
    rfl
  next a v o hsplit =>
    rw [htriple, ← fieldNames_of_parseFields h, ← hjoin, hsplit]
    rfl
  · cases h

/-- A text that is no triple of a target is named in the error. -/
theorem triple_of_parse_error (h : parse s = .error e) : e.triple = s := by
  have hjoin := joinTriple_splitTriple s
  unfold parse at h
  split at h
  next a v o b hsplit =>
    have hs : s = joinTriple ([a, v, o] ++ (some b).toList) := by rw [← hjoin, hsplit]; rfl
    exact triple_of_parseFields_error hs h
  next a v o hsplit =>
    have hs : s = joinTriple ([a, v, o] ++ none.toList) := by rw [← hjoin, hsplit]; rfl
    exact triple_of_parseFields_error hs h
  · cases h
    rfl

theorem parse_eq_ok : parse s = .ok t ↔ t.triple = s := by
  constructor
  · exact triple_of_parse
  · rintro rfl
    exact t.parse_triple

/-! ## Listed targets -/

theorem listed?_eq_some : listed? os arch abi = some t ↔
    t.arch = arch ∧ t.vendor = os.vendor ∧ t.os = os ∧ t.abi = abi := by
  rw [← ofFields_eq_ok]
  unfold listed?
  cases ofFields arch os.vendor os abi <;> simp [Except.toOption]

/-- The listed targets are those with the listed vendor. -/
theorem mem_supported : t ∈ supported ↔ t.vendor = t.os.vendor := by
  unfold supported
  simp only [List.mem_flatMap, List.mem_filterMap, listed?_eq_some]
  constructor
  · rintro ⟨os, _, arch, _, abi, _, _, hvendor, rfl, _⟩
    exact hvendor
  · intro h
    refine ⟨t.os, t.os.mem_all, t.arch, t.arch.mem_all, t.abi, ?_, rfl, h, rfl, rfl⟩
    cases t.abi with
    | none => exact List.mem_cons_self
    | some abi => exact List.mem_cons_of_mem _ (List.mem_map_of_mem abi.mem_all)

/-! ## The other vendor of Linux -/

/-- Only Linux has a choice of vendors. -/
theorem vendor_of_ne_linux (h : defect? arch vendor os abi = none) (hos : os ≠ .linux) :
    vendor = os.vendor := by
  have hother : defect? arch vendor os abi =
      if !runsOn os arch then some (.foreignArch os arch)
      else if vendor ≠ os.vendor then some (.otherVendor os vendor)
      else abi.map (.needlessAbi os) := by
    cases os with
    | linux => exact absurd rfl hos
    | macos => rfl
    | windows => rfl
  by_cases hvendor : vendor = os.vendor
  · exact hvendor
  · rw [hother, if_pos hvendor] at h
    split at h <;> cases h

/-- A target that is not listed is one of Linux with the vendor `pc`. -/
theorem vendor_cases (t : Target) : t.vendor = t.os.vendor ∨ t.os = .linux ∧ t.vendor = "pc" := by
  by_cases hos : t.os = .linux
  · obtain h | h := vendor_of_sound t.sound
    · simp only [linuxVendors, List.mem_cons, List.not_mem_nil, or_false] at h
      rw [hos]
      exact h.imp_right fun hpc => ⟨rfl, hpc⟩
    · exact .inl h
  · exact .inl (vendor_of_ne_linux t.sound hos)

/-- Linux does not tell its vendors apart. -/
theorem defect?_linux {vendor' : String} (h : vendor ∈ linuxVendors) (h' : vendor' ∈ linuxVendors) :
    defect? arch vendor .linux abi = defect? arch vendor' .linux abi := by
  simp only [defect?, h, h', not_true_eq_false, if_false]

/-- The text with another vendor field, where the vendor field is `old`. -/
def replaceVendor? (old new s : String) : Option String :=
  match splitTriple s with
  | arch :: vendor :: rest => if vendor = old then some (joinTriple (arch :: new :: rest)) else none
  | _ => none

theorem replaceVendor?_triple (t : Target) (old new : String) :
    replaceVendor? old new t.triple =
      if t.vendor = old then some (tripleOf t.arch new t.os t.abi) else none := by
  unfold replaceVendor?
  rw [triple, splitTriple_tripleOf t.arch t.dash_not_mem_vendor, tripleOf_eq]
  rfl

/-- The texts that the listing of targets accounts for. -/
inductive IsTriple : String → Prop where
  /-- The triple of a listed target. -/
  | listed {t : Target} (ht : t ∈ supported) : IsTriple t.triple
  /-- The triple of a listed target of Linux with the other vendor. -/
  | otherVendor {t : Target} {s : String} (ht : t ∈ supported) (hos : t.os = .linux)
      (hs : replaceVendor? "unknown" "pc" t.triple = some s) : IsTriple s

theorem IsTriple.exists_target (h : IsTriple s) : ∃ t : Target, t.triple = s := by
  cases h with
  | @listed t ht => exact ⟨t, rfl⟩
  | @otherVendor t _ ht hos hs =>
    have hvendor : t.vendor = "unknown" := by rw [mem_supported.1 ht, hos]; rfl
    rw [replaceVendor?_triple, if_pos hvendor, Option.some.injEq] at hs
    have hsound : defect? t.arch "pc" t.os t.abi = none := by
      rw [← t.sound, hos, hvendor]
      exact defect?_linux (by decide) (by decide)
    exact ⟨⟨t.arch, "pc", t.os, t.abi, hsound⟩, hs⟩

theorem isTriple_triple (t : Target) : IsTriple t.triple := by
  obtain hlisted | ⟨hos, hvendor⟩ := t.vendor_cases
  · exact .listed (mem_supported.2 hlisted)
  · have hsound : defect? t.arch "unknown" t.os t.abi = none := by
      rw [← t.sound, hos, hvendor]
      exact defect?_linux (by decide) (by decide)
    let canonical : Target := ⟨t.arch, "unknown", t.os, t.abi, hsound⟩
    have hlinux : canonical.os = .linux := hos
    have hmem : canonical ∈ supported := mem_supported.2 (by rw [hlinux]; rfl)
    refine .otherVendor hmem hos ?_
    rw [replaceVendor?_triple, if_pos rfl, triple, hvendor]

/-- A text is read exactly if the listing accounts for it. What is read has the text as its triple
and is read back from it, and what is refused is named in the error. -/
theorem parse_exact (s : String) :
    ((∃ t, parse s = .ok t) ↔ IsTriple s) ∧
      (∀ t, parse s = .ok t → t.triple = s ∧ parse t.triple = .ok t) ∧
      ∀ e, parse s = .error e → e.triple = s := by
  refine ⟨⟨?_, ?_⟩, ?_, fun e => triple_of_parse_error⟩
  · rintro ⟨t, h⟩
    rw [← triple_of_parse h]
    exact t.isTriple_triple
  · intro h
    obtain ⟨t, ht⟩ := h.exists_target
    exact ⟨t, parse_eq_ok.2 ht⟩
  · intro t h
    exact ⟨triple_of_parse h, t.parse_triple⟩

/-- One text with the other vendor, and one whose fields are known but do not go together. -/
theorem parse_exact_neighbours :
    (∃ t, parse "x86_64-pc-linux-musl" = .ok t ∧ t.triple = "x86_64-pc-linux-musl") ∧
      ∃ e, parse "armv7l-pc-linux-musl" = .error e ∧ e.triple = "armv7l-pc-linux-musl" := by
  constructor
  · let listed : Target := ⟨.x86_64, "unknown", .linux, some .musl, rfl⟩
    have hlanguage : IsTriple "x86_64-pc-linux-musl" :=
      .otherVendor (t := listed) (mem_supported.2 rfl) rfl (by decide +kernel)
    obtain ⟨hread, hkept, _⟩ := parse_exact "x86_64-pc-linux-musl"
    obtain ⟨t, ht⟩ := hread.2 hlanguage
    exact ⟨t, ht, (hkept t ht).1⟩
  · have hrefused : (parse "armv7l-pc-linux-musl").toOption = none := by decide +kernel
    cases hparse : parse "armv7l-pc-linux-musl" with
    | ok t => rw [hparse] at hrefused; cases hrefused
    | error e => exact ⟨e, rfl, (parse_exact "armv7l-pc-linux-musl").2.2 e hparse⟩

end Target

end CrossShell
