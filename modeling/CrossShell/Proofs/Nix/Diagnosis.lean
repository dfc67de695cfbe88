import CrossShell.Nix.Diagnosis
import CrossShell.Proofs.Text.Search
import CrossShell.Proofs.Text.Trim

/-!
What a diagnosis says about the complaints that it was made of.

`Diagnosed` lists the ways in which complaints can be taken: they call a package missing that was
asked for, they speak of the target, or they are handed on as they are. Of each kind of phrase that
calls a package missing only the first one in the text is looked at, so a wanted package is found if
and only if one of these names it.
-/

set_option autoImplicit false

namespace CrossShell.Nix

open Text (IsCut)

variable {stderr target : String} {packages : List String} {text : List Char}

/-! ## Missing packages -/

def missingPhrase (marker : String × String) (name : String) : List Char :=
  marker.1.toList ++ name.toList ++ marker.2.toList

theorem missingWith?_eq_some_iff {marker : String × String} {name : String} :
    missingWith? text packages marker = some name ↔
      name ∈ packages ∧ ∃ before rest after,
        IsCut marker.1.toList text before rest ∧ IsCut marker.2.toList rest name.toList after := by
  rw [← Text.between_eq_some_iff]
  unfold missingWith?
  cases Text.between text marker.1.toList marker.2.toList with
  | none => simp
  | some inner =>
    simp only [List.contains_iff_mem, Option.some_inj, Option.ite_none_right_eq_some]
    constructor
    · rintro ⟨hmem, rfl⟩
      exact ⟨hmem, String.toList_ofList.symm⟩
    · rintro ⟨hmem, rfl⟩
      rw [String.ofList_toList]
      exact ⟨hmem, rfl⟩

theorem of_missingPackage? {name : String} (h : missingPackage? text packages = some name) :
    name ∈ packages ∧ ∃ marker ∈ missingMarkers, ∃ before after,
      IsCut marker.1.toList text before (name.toList ++ marker.2.toList ++ after) := by
  obtain ⟨marker, hmarker, hwith⟩ := List.exists_of_findSome?_eq_some h
  obtain ⟨hwanted, before, rest, after, hopening, hclosing⟩ := missingWith?_eq_some_iff.1 hwith
  obtain ⟨rfl, -⟩ := hclosing
  exact ⟨hwanted, marker, hmarker, before, after, hopening⟩

/-- Every closing marker starts with a quote, so that a name without quotes ends where the first one
does. -/
theorem head?_closing : ∀ marker ∈ missingMarkers, marker.2.toList.head? = some '\'' := by
  decide

/-- If the first phrase of a kind names a wanted package, then one is found. -/
theorem exists_missingPackage? {marker : String × String} (hmarker : marker ∈ missingMarkers)
    {name : String} (hwanted : name ∈ packages) (hquote : '\'' ∉ name.toList)
    {before after : List Char}
    (h : IsCut marker.1.toList text before (name.toList ++ marker.2.toList ++ after)) :
    ∃ found, missingPackage? text packages = some found := by
  have hclosing : IsCut marker.2.toList (name.toList ++ marker.2.toList ++ after) name.toList
      after := by
    obtain ⟨more, hmore⟩ := List.head?_eq_some_iff.1 (head?_closing marker hmarker)
    rw [hmore]
    exact Text.isCut_of_not_mem hquote
  have hwith : missingWith? text packages marker = some name :=
    missingWith?_eq_some_iff.2 ⟨hwanted, before, _, after, h, hclosing⟩
  have hsome : (missingPackage? text packages).isSome = true :=
    List.findSome?_isSome_iff.2 ⟨marker, hmarker, by rw [hwith]; rfl⟩
  exact Option.isSome_iff_exists.1 hsome

/-! ## Lines -/

/-- A text without the blanks around it is the first line that speaks of an error, or the first line
where none does. Lines end at line feeds. -/
def IsTellingLine (text line : List Char) : Prop :=
  (∃ before raw after, Text.fields '\n' text = before ++ raw :: after ∧
      "error:".toList <:+: raw ∧ (∀ l ∈ before, ¬ "error:".toList <:+: l) ∧
      Text.IsTrimmed raw line) ∨
    (∀ l ∈ Text.fields '\n' text, ¬ "error:".toList <:+: l) ∧
      ∃ raw after, Text.fields '\n' text = raw :: after ∧ Text.IsTrimmed raw line

theorem occurs_dropReturn {pattern : List Char} (hne : pattern ≠ []) (h : '\r' ∉ pattern)
    (line : List Char) : Text.occurs pattern (Text.dropReturn line) = Text.occurs pattern line := by
  obtain hsame | hreturn := Text.dropReturn_cases line
  · rw [hsame]
  · rw [← Text.occurs_concat hne h, ← hreturn]

theorem tellingLine_eq (text : List Char) :
    tellingLine text =
      (((Text.fields '\n' text).find? (Text.occurs "error:".toList)).map Text.trim).getD
        (Text.trim ((Text.fields '\n' text).head?.getD [])) := by
  have hreturn : ∀ line, Text.occurs "error:".toList (Text.dropReturn line)
      = Text.occurs "error:".toList line := occurs_dropReturn (by decide) (by decide)
  rw [← Text.find?_lines (by decide) hreturn, ← Text.trim_head?_lines]
  simp only [tellingLine]
  cases (Text.lines text).find? (Text.occurs "error:".toList) with
  | some line => rfl
  | none => rfl

theorem isTellingLine_tellingLine (text : List Char) : IsTellingLine text (tellingLine text) := by
  rw [tellingLine_eq]
  cases hfind : (Text.fields '\n' text).find? (Text.occurs "error:".toList) with
  | some raw =>
    obtain ⟨hraw, before, after, hsplit, hbefore⟩ := List.find?_eq_some_iff_append.1 hfind
    refine .inl ⟨before, raw, after, hsplit, Text.occurs_iff.1 hraw, fun l hl => ?_,
      Text.isTrimmed_trim raw⟩
    rw [← Text.occurs_iff]
    simpa using hbefore l hl
  | none =>
    refine .inr ⟨fun l hl => ?_, ?_⟩
    · rw [← Text.occurs_iff]
      exact List.find?_eq_none.1 hfind l hl
    · cases hfields : Text.fields '\n' text with
      | nil => exact absurd hfields (Text.fields_ne_nil '\n' text)
      | cons raw after => exact ⟨raw, after, rfl, Text.isTrimmed_trim raw⟩

/-! ## The three ways -/

theorem complainsOfPlatform_iff :
    complainsOfPlatform text = true ↔ ∃ marker ∈ crossMarkers, marker.toList <:+: text := by
  unfold complainsOfPlatform
  simp only [List.any_eq_true, Text.occurs_iff]

/-- The ways in which complaints can be taken, each with its reasons; `text` is what they are
without escape sequences. -/
inductive Diagnosed (stderr target : String) (packages : List String) (text : List Char) :
    ResolveError → Prop
  | missing {name : String} (hmissing : missingPackage? text packages = some name) :
      Diagnosed stderr target packages text (.packageNotFound name)
  | platform {name : Option String} (hnone : missingPackage? text packages = none)
      (hcomplains : complainsOfPlatform text = true)
      (hname : name = (Text.between text packageOpening.toList packageClosing.toList).map
        fun name => String.ofList (packageOfStoreName name)) :
      Diagnosed stderr target packages text
        (.crossUnsupported name target (String.ofList (tellingLine text)))
  | other (hnone : missingPackage? text packages = none)
      (hquiet : complainsOfPlatform text = false) :
      Diagnosed stderr target packages text (.buildFailure stderr)

theorem diagnosed_diagnose (stderr target : String) (packages : List String) :
    Diagnosed stderr target packages (stripEscapes stderr.toList)
      (diagnose stderr target packages) := by
  simp only [diagnose]
  cases hmissing : missingPackage? (stripEscapes stderr.toList) packages with
  | some name => exact .missing hmissing
  | none =>
    cases hcomplains : complainsOfPlatform (stripEscapes stderr.toList) with
    | true => exact .platform hmissing hcomplains rfl
    | false => exact .other hmissing hcomplains

theorem diagnose_eq_packageNotFound {name : String} :
    diagnose stderr target packages = .packageNotFound name ↔
      missingPackage? (stripEscapes stderr.toList) packages = some name := by
  constructor
  · intro h
    have hdiagnosed := diagnosed_diagnose stderr target packages
    rw [h] at hdiagnosed
    cases hdiagnosed with
    | missing hmissing => exact hmissing
  · intro h
    simp only [diagnose, h]

/-! ## What is found -/

/-- A wanted package is found if the first phrase of a kind names one, and what is found is named by
the first phrase of some kind. -/
theorem missing_package_found (stderr target : String) (packages : List String) :
    (∀ marker ∈ missingMarkers, ∀ name ∈ packages, '\'' ∉ name.toList → ∀ before after,
      IsCut marker.1.toList (stripEscapes stderr.toList) before
        (name.toList ++ marker.2.toList ++ after) →
      ∃ found ∈ packages, diagnose stderr target packages = .packageNotFound found) ∧
    ∀ found, diagnose stderr target packages = .packageNotFound found →
      found ∈ packages ∧ ∃ marker ∈ missingMarkers, ∃ before after,
        IsCut marker.1.toList (stripEscapes stderr.toList) before
          (found.toList ++ marker.2.toList ++ after) := by
  constructor
  · intro marker hmarker name hwanted hquote before after h
    obtain ⟨found, hfound⟩ := exists_missingPackage? hmarker hwanted hquote h
    exact ⟨found, (of_missingPackage? hfound).1, diagnose_eq_packageNotFound.2 hfound⟩
  · intro found h
    exact of_missingPackage? (diagnose_eq_packageNotFound.1 h)

/-- Complaints in colours that speak of an attribute before they call a package missing. -/
def colouredComplaints : String :=
  "while evaluating attribute 'src'\nerror: undefined variable '\x1b[1mgcc\x1b[0m'\n"

theorem missing_package_found_coloured :
    ∃ found ∈ ["zlib", "gcc"], diagnose colouredComplaints "aarch64-unknown-linux-gnu"
      ["zlib", "gcc"] = .packageNotFound found := by
  obtain ⟨hfinds, -⟩ :=
    missing_package_found colouredComplaints "aarch64-unknown-linux-gnu" ["zlib", "gcc"]
  refine hfinds ("undefined variable '", "'") (by decide) "gcc" (by decide) (by decide)
    "while evaluating attribute 'src'\nerror: ".toList ['\n'] ?_
  rw [← Text.cut_eq_some_iff]
  decide +kernel

/-- Complaints that speak of an attribute before they call another one missing. -/
def tracedComplaints : String :=
  "while evaluating the attribute 'src'\nerror: attribute 'gcc' missing\n"

/-- The first phrase of the kind is about another attribute, and the package is overlooked. -/
theorem later_phrase_overlooked :
    ("attribute '", "' missing") ∈ missingMarkers ∧
      missingPhrase ("attribute '", "' missing") "gcc" <:+: stripEscapes tracedComplaints.toList ∧
      diagnose tracedComplaints "aarch64-unknown-linux-gnu" ["gcc"]
        = .buildFailure tracedComplaints := by
  refine ⟨by decide, ?_, by decide +kernel⟩
  rw [← Text.occurs_iff]
  decide +kernel

/-! ## What is said -/

/-- Whatever comes out of complaints is borne out by them. -/
theorem diagnosis_sound (stderr target : String) (packages : List String) :
    (∀ name, diagnose stderr target packages = .packageNotFound name →
      name ∈ packages ∧
      ∃ marker ∈ missingMarkers, missingPhrase marker name <:+: stripEscapes stderr.toList) ∧
    (∀ name place diagnostic,
      diagnose stderr target packages = .crossUnsupported name place diagnostic →
      (∃ marker ∈ crossMarkers, marker.toList <:+: stripEscapes stderr.toList) ∧
      place = target ∧ IsTellingLine (stripEscapes stderr.toList) diagnostic.toList) ∧
    (∀ diagnostic, diagnose stderr target packages = .buildFailure diagnostic →
      diagnostic = stderr ∧
      ∀ marker ∈ crossMarkers, ¬ marker.toList <:+: stripEscapes stderr.toList) ∧
    ((∃ name, diagnose stderr target packages = .packageNotFound name) ∨
      (∃ name diagnostic,
        diagnose stderr target packages = .crossUnsupported name target diagnostic) ∨
      diagnose stderr target packages = .buildFailure stderr) := by
  have h := diagnosed_diagnose stderr target packages
  refine ⟨?_, ?_, ?_, ?_⟩
  · intro name heq
    obtain ⟨hwanted, marker, hmarker, before, after, hcut, -⟩ :=
      of_missingPackage? (diagnose_eq_packageNotFound.1 heq)
    refine ⟨hwanted, marker, hmarker, before, after, ?_⟩
    rw [hcut, missingPhrase]
    simp only [List.append_assoc]
  · intro name place diagnostic heq
    rw [heq] at h
    cases h with
    | platform hnone hcomplains hname =>
      rw [String.toList_ofList]
      exact ⟨complainsOfPlatform_iff.1 hcomplains, rfl, isTellingLine_tellingLine _⟩
  · intro diagnostic heq
    rw [heq] at h
    cases h with
    | other hnone hquiet =>
      refine ⟨rfl, fun marker hmarker hinfix => ?_⟩
      rw [complainsOfPlatform_iff.2 ⟨marker, hmarker, hinfix⟩] at hquiet
      cases hquiet
  · generalize diagnose stderr target packages = e at h ⊢
    cases h with
    | missing => exact .inl ⟨_, rfl⟩
    | platform => exact .inr (.inl ⟨_, _, rfl⟩)
    | other => exact .inr (.inr rfl)

/-- Coloured complaints about the target on their second line. -/
def platformComplaints : String :=
  "warning: dirty\r\n \x1b[1merror:\x1b[0m Unknown ABI\r\n"

def otherComplaints : String :=
  "error: builder failed"

theorem diagnosis_sound_each_way :
    (∃ marker ∈ missingMarkers,
      missingPhrase marker "gcc" <:+: stripEscapes colouredComplaints.toList) ∧
    (diagnose platformComplaints "arm" [] = .crossUnsupported none "arm" "error: Unknown ABI" ∧
      IsTellingLine (stripEscapes platformComplaints.toList) "error: Unknown ABI".toList) ∧
    ∀ marker ∈ crossMarkers, ¬ marker.toList <:+: stripEscapes otherComplaints.toList := by
  have hmissing : diagnose colouredComplaints "arm" ["gcc"] = .packageNotFound "gcc" :=
    diagnose_eq_packageNotFound.2 (by decide +kernel)
  have hplatform : diagnose platformComplaints "arm" []
      = .crossUnsupported none "arm" "error: Unknown ABI" := by decide +kernel
  have hother : diagnose otherComplaints "arm" [] = .buildFailure otherComplaints := by
    decide +kernel
  obtain ⟨hfound, -⟩ := diagnosis_sound colouredComplaints "arm" ["gcc"]
  obtain ⟨-, hcross, -⟩ := diagnosis_sound platformComplaints "arm" []
  obtain ⟨-, -, hfailure, -⟩ := diagnosis_sound otherComplaints "arm" []
  exact ⟨(hfound "gcc" hmissing).2, ⟨hplatform, (hcross _ _ _ hplatform).2.2⟩,
    (hfailure _ hother).2⟩

end CrossShell.Nix
