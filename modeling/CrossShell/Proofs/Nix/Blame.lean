import CrossShell.Proofs.Nix.Diagnosis
import CrossShell.Proofs.Text.Pieces

/-!
Which package is reported where complaints speak of the target.

There is a first line that speaks of the target, and it may name a package. The package that is
reported is the first one that the complaints name on any line: it is the one of that line if no
earlier line names one, and the one of the earlier line otherwise.
-/

set_option autoImplicit false

namespace CrossShell.Nix

open Text (IsCut fields lead)

variable {text line name before after : List Char} {earlier later : List (List Char)}

/-! ## Mentions -/

/-- The first package that a text mentions, between what stands before its mention and after it. -/
def FirstMention (text before name after : List Char) : Prop :=
  ∃ rest, IsCut packageOpening.toList text before rest ∧
    IsCut packageClosing.toList rest name after

/-- Whether a line starts to mention a package. -/
def OpensMention (line : List Char) : Prop :=
  packageOpening.toList <:+: line

/-- What is said of a package by its name in the store. -/
def packageOf (name : List Char) : String :=
  String.ofList (packageOfStoreName name)

theorem between_eq_some_iff_firstMention :
    Text.between text packageOpening.toList packageClosing.toList = some name ↔
      ∃ before after, FirstMention text before name after := by
  rw [Text.between_eq_some_iff]
  constructor
  · rintro ⟨before, rest, after, hopening, hclosing⟩
    exact ⟨before, after, rest, hopening, hclosing⟩
  · rintro ⟨before, after, rest, hopening, hclosing⟩
    exact ⟨before, rest, after, hopening, hclosing⟩

theorem newline_not_mem_packageOpening : '\n' ∉ packageOpening.toList := by
  decide

/-- What a line mentions first is what the text mentions first, unless an earlier line has begun to
mention something. -/
theorem firstMention_of_line (hlines : fields '\n' text = earlier ++ line :: later)
    (hearlier : ∀ l ∈ earlier, ¬ OpensMention l) (h : FirstMention line before name after) :
    ∃ after', FirstMention text (lead '\n' earlier ++ before) name after' := by
  obtain ⟨rest, hopening, hclosing⟩ := h
  obtain ⟨more, rfl⟩ := Text.exists_rest_of_fields hlines
  exact ⟨after ++ more, rest ++ more,
    (hopening.append more).of_lead newline_not_mem_packageOpening hearlier, hclosing.append more⟩

theorem firstMention_in_line_iff (hlines : fields '\n' text = earlier ++ line :: later)
    (h : FirstMention line before name after) :
    (∃ after', FirstMention text (lead '\n' earlier ++ before) name after') ↔
      ∀ l ∈ earlier, ¬ OpensMention l := by
  refine ⟨?_, fun hearlier => firstMention_of_line hlines hearlier h⟩
  rintro ⟨after', rest, hopening, -⟩
  obtain ⟨more, rfl⟩ := Text.exists_rest_of_fields hlines
  exact hopening.not_infix_of_lead

/-! ## Failing lines -/

/-- The first line that speaks of the target, between the earlier lines and the later ones. -/
structure FailingLine (text : List Char) (earlier : List (List Char)) (line : List Char)
    (later : List (List Char)) : Prop where
  lines : fields '\n' text = earlier ++ line :: later
  complains : complainsOfPlatform line = true
  first : ∀ l ∈ earlier, complainsOfPlatform l = false

theorem newline_not_mem_crossMarkers : ∀ marker ∈ crossMarkers, '\n' ∉ marker.toList := by
  decide

theorem exists_failingLine (h : complainsOfPlatform text = true) :
    ∃ earlier line later, FailingLine text earlier line later := by
  obtain ⟨marker, hmarker, hinfix⟩ := complainsOfPlatform_iff.1 h
  obtain ⟨line, hline, hoccurs⟩ :=
    (Text.infix_iff_exists_mem_fields (newline_not_mem_crossMarkers marker hmarker)).1 hinfix
  have hcomplains : complainsOfPlatform line = true :=
    complainsOfPlatform_iff.2 ⟨marker, hmarker, hoccurs⟩
  have hsome : ((fields '\n' text).find? complainsOfPlatform).isSome = true :=
    List.find?_isSome.2 ⟨line, hline, hcomplains⟩
  obtain ⟨first, hfirst⟩ := Option.isSome_iff_exists.1 hsome
  obtain ⟨hspeaks, earlier, later, hlines, hquiet⟩ := List.find?_eq_some_iff_append.1 hfirst
  exact ⟨earlier, first, later, hlines, hspeaks, fun l hl => by simpa using hquiet l hl⟩

/-! ## Reports -/

theorem platform_of_diagnose {stderr target place diagnostic : String} {packages : List String}
    {reported : Option String}
    (h : diagnose stderr target packages = .crossUnsupported reported place diagnostic) :
    complainsOfPlatform (stripEscapes stderr.toList) = true ∧
      reported = (Text.between (stripEscapes stderr.toList) packageOpening.toList
        packageClosing.toList).map packageOf := by
  have hdiagnosed := diagnosed_diagnose stderr target packages
  rw [h] at hdiagnosed
  cases hdiagnosed with
  | platform hnone hcomplains hname => exact ⟨hcomplains, hname⟩

/-- Where complaints speak of the target, some line is the first to do so. The package that is
reported is the first one that is mentioned at all. It is the first one that the line mentions if no
earlier line begins to mention one, and only then is it reported for being mentioned there. -/
theorem blamed_package {stderr target place diagnostic : String} {packages : List String}
    {reported : Option String}
    (h : diagnose stderr target packages = .crossUnsupported reported place diagnostic) :
    (∃ earlier line later, FailingLine (stripEscapes stderr.toList) earlier line later) ∧
    (∀ package, reported = some package ↔ ∃ before name after,
      FirstMention (stripEscapes stderr.toList) before name after ∧ package = packageOf name) ∧
    ∀ earlier line later, FailingLine (stripEscapes stderr.toList) earlier line later →
      ∀ before name after, FirstMention line before name after →
        ((∀ l ∈ earlier, ¬ OpensMention l) → reported = some (packageOf name)) ∧
        ((∃ after', FirstMention (stripEscapes stderr.toList) (lead '\n' earlier ++ before) name
          after') ↔ ∀ l ∈ earlier, ¬ OpensMention l) := by
  obtain ⟨hcomplains, hreported⟩ := platform_of_diagnose h
  have hfirst : ∀ package, reported = some package ↔ ∃ before name after,
      FirstMention (stripEscapes stderr.toList) before name after ∧ package = packageOf name := by
    intro package
    rw [hreported, Option.map_eq_some_iff]
    constructor
    · rintro ⟨name, hbetween, rfl⟩
      obtain ⟨before, after, hmention⟩ := between_eq_some_iff_firstMention.1 hbetween
      exact ⟨before, name, after, hmention, rfl⟩
    · rintro ⟨before, name, after, hmention, rfl⟩
      exact ⟨name, between_eq_some_iff_firstMention.2 ⟨before, after, hmention⟩, rfl⟩
  refine ⟨exists_failingLine hcomplains, hfirst, ?_⟩
  intro earlier line later hline before name after hmention
  refine ⟨fun hearlier => ?_, firstMention_in_line_iff hline.lines hmention⟩
  obtain ⟨after', htext⟩ := firstMention_of_line hline.lines hearlier hmention
  exact (hfirst _).2 ⟨_, name, after', htext, rfl⟩

/-- The line of complaints about a package that is not there for the target. -/
def unavailableLine : String :=
  "error: Package ‘alsa-1.2’ is not supported on arm"

theorem complainsOfPlatform_unavailableLine :
    complainsOfPlatform unavailableLine.toList = true := by
  decide +kernel

theorem firstMention_unavailableLine :
    FirstMention unavailableLine.toList "error: ".toList "alsa-1.2".toList
      " is not supported on arm".toList :=
  ⟨"alsa-1.2’ is not supported on arm".toList,
    Text.cut_eq_some_iff.1 (by decide +kernel), Text.cut_eq_some_iff.1 (by decide +kernel)⟩

/-- Complaints that mention another package after the one that is not there for the target. -/
def tracedBackComplaints : String :=
  "warning: dirty\n" ++ unavailableLine ++ "\nPackage ‘zlib-1.3’ as well"

theorem blamed_package_traced_back :
    diagnose tracedBackComplaints "arm" ["zlib"]
      = .crossUnsupported (some "alsa") "arm" unavailableLine := by
  obtain ⟨reported, h⟩ : ∃ reported, diagnose tracedBackComplaints "arm" ["zlib"]
      = .crossUnsupported reported "arm" unavailableLine := ⟨some "alsa", by decide +kernel⟩
  have hline : FailingLine (stripEscapes tracedBackComplaints.toList) ["warning: dirty".toList]
      unavailableLine.toList ["Package ‘zlib-1.3’ as well".toList] :=
    ⟨by decide +kernel, complainsOfPlatform_unavailableLine, by decide +kernel⟩
  have hquiet : ∀ l ∈ ["warning: dirty".toList], ¬ OpensMention l := by
    intro l hl
    rw [List.mem_singleton.1 hl, OpensMention, ← Text.cut_eq_none_iff]
    decide
  have hreported := ((blamed_package h).2.2 _ _ _ hline _ _ _ firstMention_unavailableLine).1 hquiet
  have hname : packageOf "alsa-1.2".toList = "alsa" := by decide +kernel
  rw [h, hreported, hname]

/-- Complaints that warn of another package before they speak of the target. -/
def warningComplaints : String :=
  "warning: Package ‘zlib-1.3’ is old\n" ++ unavailableLine

/-- The package of the warning is reported, not the one of the line that speaks of the target. -/
theorem earlier_package_reported :
    FailingLine (stripEscapes warningComplaints.toList)
        ["warning: Package ‘zlib-1.3’ is old".toList] unavailableLine.toList [] ∧
      FirstMention unavailableLine.toList "error: ".toList "alsa-1.2".toList
        " is not supported on arm".toList ∧
      diagnose warningComplaints "arm" []
        = .crossUnsupported (some "zlib") "arm" unavailableLine ∧
      packageOf "alsa-1.2".toList ≠ "zlib" :=
  ⟨⟨by decide +kernel, complainsOfPlatform_unavailableLine, by decide +kernel⟩,
    firstMention_unavailableLine, by decide +kernel, by decide +kernel⟩

end CrossShell.Nix
