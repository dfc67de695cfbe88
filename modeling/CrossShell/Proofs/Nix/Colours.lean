import CrossShell.Nix.Diagnosis

/-!
Complaints in colours.

`Coloured plain coloured` says that escape sequences stand anywhere in a text that is otherwise
plain, inside of words and marks as well and any number of them in one place. What is diagnosed from
coloured complaints is what is diagnosed from the plain ones.
-/

set_option autoImplicit false

namespace CrossShell.Nix

variable {plain coloured sequence parameters text : List Char}

/-! ## Texts in colours -/

/-- An escape sequence that sets a colour: after its opening come parameters without letters and
then the one letter that ends it. -/
def IsEscape (sequence : List Char) : Prop :=
  ∃ parameters last, sequence = '\x1b' :: '[' :: (parameters ++ [last]) ∧
    (∀ c ∈ parameters, c.isAlpha = false) ∧ last.isAlpha = true

/-- The second text is the first one with escape sequences put in. -/
inductive Coloured : List Char → List Char → Prop
  | nil : Coloured [] []
  | char (c : Char) {plain coloured : List Char} (h : Coloured plain coloured) :
      Coloured (c :: plain) (c :: coloured)
  | escape {sequence plain coloured : List Char} (hescape : IsEscape sequence)
      (h : Coloured plain coloured) : Coloured plain (sequence ++ coloured)

namespace Coloured

/-- A text is a coloured one without colours. -/
theorem refl (text : List Char) : Coloured text text := by
  induction text with
  | nil => exact .nil
  | cons c text ih => exact .char c ih

theorem append {plain' coloured' : List Char} (h : Coloured plain coloured)
    (h' : Coloured plain' coloured') : Coloured (plain ++ plain') (coloured ++ coloured') := by
  induction h with
  | nil => exact h'
  | char c _ ih => exact .char c ih
  | escape hescape _ ih =>
    rw [List.append_assoc]
    exact .escape hescape ih

end Coloured

/-! ## Without colours -/

/-- Inside of a sequence nothing is kept up to its first letter. -/
theorem stripFrom_true_append {last : Char} (h : ∀ c ∈ parameters, c.isAlpha = false)
    (hlast : last.isAlpha = true) (rest : List Char) :
    stripFrom true (parameters ++ last :: rest) = stripFrom false rest := by
  induction parameters with
  | nil =>
    show stripFrom (!last.isAlpha) rest = stripFrom false rest
    rw [hlast, Bool.not_true]
  | cons c parameters ih =>
    show stripFrom (!c.isAlpha) (parameters ++ last :: rest) = stripFrom false rest
    rw [h c List.mem_cons_self, Bool.not_false]
    exact ih fun d hd => h d (List.mem_cons_of_mem c hd)

theorem stripEscapes_escape_append (h : IsEscape sequence) (rest : List Char) :
    stripEscapes (sequence ++ rest) = stripEscapes rest := by
  obtain ⟨parameters, last, rfl, hparameters, hlast⟩ := h
  have hopening : ∀ c ∈ '[' :: parameters, c.isAlpha = false := by
    intro c hc
    obtain rfl | hc := List.mem_cons.1 hc
    · decide
    · exact hparameters c hc
  have hinside := stripFrom_true_append hopening hlast rest
  rw [List.cons_append] at hinside
  show stripFrom true ('[' :: (parameters ++ [last] ++ rest)) = stripFrom false rest
  rw [List.append_assoc, List.singleton_append, hinside]

theorem stripEscapes_cons {c : Char} (h : c ≠ '\x1b') (rest : List Char) :
    stripEscapes (c :: rest) = c :: stripEscapes rest := by
  simp only [stripEscapes, stripFrom, if_neg h, Bool.false_eq_true, if_false]

/-- The sequences that were put into a text are what is taken out of it. -/
theorem stripEscapes_of_coloured (h : Coloured plain coloured) (hplain : '\x1b' ∉ plain) :
    stripEscapes coloured = plain := by
  induction h with
  | nil => rfl
  | char c _ ih =>
    obtain ⟨hc, hrest⟩ := not_or.1 (mt List.mem_cons.2 hplain)
    rw [stripEscapes_cons (Ne.symm hc), ih hrest]
  | escape hescape _ ih => rw [stripEscapes_escape_append hescape, ih hplain]

/-- No sequence begins in what is left, whether or not one had begun before. -/
theorem not_mem_stripFrom (inside : Bool) (text : List Char) : '\x1b' ∉ stripFrom inside text := by
  induction text generalizing inside with
  | nil => exact List.not_mem_nil
  | cons c text ih =>
    unfold stripFrom
    split
    · exact ih _
    · split
      · exact ih _
      next hc =>
        rw [List.mem_cons, not_or]
        exact ⟨Ne.symm hc, ih _⟩

theorem stripEscapes_of_not_mem (h : '\x1b' ∉ text) : stripEscapes text = text :=
  stripEscapes_of_coloured (Coloured.refl text) h

/-! ## Diagnoses -/

/-- Two diagnoses that are the same, but for the complaints where these are handed on as they
are. -/
inductive SameDiagnosis (stderr stderr' : String) : ResolveError → ResolveError → Prop
  | recognised {e : ResolveError} (h : ∀ diagnostic, e ≠ .buildFailure diagnostic) :
      SameDiagnosis stderr stderr' e e
  | handedOn : SameDiagnosis stderr stderr' (.buildFailure stderr) (.buildFailure stderr')

/-- A diagnosis depends on what the complaints say, and not on their escape sequences. -/
theorem sameDiagnosis_of_stripEscapes {stderr stderr' : String}
    (h : stripEscapes stderr.toList = stripEscapes stderr'.toList) (target : String)
    (packages : List String) :
    SameDiagnosis stderr stderr' (diagnose stderr target packages)
      (diagnose stderr' target packages) := by
  simp only [diagnose, h]
  cases missingPackage? (stripEscapes stderr'.toList) packages with
  | some name => exact .recognised fun _ => nofun
  | none =>
    cases complainsOfPlatform (stripEscapes stderr'.toList) with
    | true => exact .recognised fun _ => nofun
    | false => exact .handedOn

/-- Colours are taken out of complaints without a trace, and what is diagnosed does not depend on
them. No text keeps the start of a sequence, also where one is cut short. -/
theorem colours_do_not_matter :
    (∀ plain coloured : String, '\x1b' ∉ plain.toList → Coloured plain.toList coloured.toList →
      stripEscapes coloured.toList = plain.toList ∧
      ∀ target packages, SameDiagnosis coloured plain (diagnose coloured target packages)
        (diagnose plain target packages)) ∧
    ∀ text : List Char, '\x1b' ∉ stripEscapes text ∧
      stripEscapes (stripEscapes text) = stripEscapes text := by
  constructor
  · intro plain coloured hplain hcoloured
    have hstrip := stripEscapes_of_coloured hcoloured hplain
    refine ⟨hstrip, fun target packages => sameDiagnosis_of_stripEscapes ?_ target packages⟩
    rw [hstrip, stripEscapes_of_not_mem hplain]
  · intro text
    have hclean : '\x1b' ∉ stripEscapes text := not_mem_stripFrom false text
    exact ⟨hclean, stripEscapes_of_not_mem hclean⟩

/-- Complaints with a sequence inside of a marker, and with two of them inside of a name. -/
def splitComplaints : String :=
  "error: undefined var\x1b[31;1miable 'g\x1b[0m\x1b[mcc'"

theorem colours_do_not_matter_split :
    stripEscapes splitComplaints.toList = "error: undefined variable 'gcc'".toList ∧
      diagnose splitComplaints "arm" ["gcc"] = .packageNotFound "gcc" := by
  have hred : IsEscape "\x1b[31;1m".toList := ⟨"31;1".toList, 'm', rfl, by simp, rfl⟩
  have hplain : IsEscape "\x1b[0m".toList := ⟨"0".toList, 'm', rfl, by simp, rfl⟩
  have hshort : IsEscape "\x1b[m".toList := ⟨[], 'm', rfl, by simp, rfl⟩
  have hcoloured : Coloured "error: undefined variable 'gcc'".toList splitComplaints.toList :=
    (Coloured.refl "error: undefined var".toList).append
      (.escape hred ((Coloured.refl "iable 'g".toList).append
        (.escape hplain (.escape hshort (Coloured.refl "cc'".toList)))))
  obtain ⟨hstrip, hsame⟩ := colours_do_not_matter.1 "error: undefined variable 'gcc'"
    splitComplaints (by decide) hcoloured
  have hfound : diagnose "error: undefined variable 'gcc'" "arm" ["gcc"]
      = .packageNotFound "gcc" := by decide +kernel
  have hsplit := hsame "arm" ["gcc"]
  rw [hfound] at hsplit
  refine ⟨hstrip, ?_⟩
  generalize diagnose splitComplaints "arm" ["gcc"] = e at hsplit ⊢
  cases hsplit with
  | recognised => rfl

end CrossShell.Nix
