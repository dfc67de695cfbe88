import CrossShell.Nix.Diagnosis
import CrossShell.Proofs.Text.Split
import Mathlib.Data.List.DropRight
import Mathlib.Data.List.Infix

/-!
Which part of a store name is taken for the name of a package.

A store name is the name of a package, a dash and a version, which begins at the first dash that a
digit follows. The version is dropped from behind, one piece after another for as long as the pieces
begin with a digit, so what is left is the shortest beginning with no other dashes behind it than
those that a digit follows. It is the package if and only if a digit follows each dash of the
version.
-/

set_option autoImplicit false

namespace CrossShell.Nix

open Text (fields joinFields)

variable {name package version text piece front tail : List Char} {pieces : List (List Char)}

/-! ## Dashes and digits -/

/-- Whether a text begins with a digit. -/
def IsDigitLed (text : List Char) : Prop :=
  ∃ c rest, text = c :: rest ∧ c.isDigit = true

/-- Whether a digit follows each dash of a text. -/
def DashesLeadDigits (text : List Char) : Prop :=
  ∀ rest, '-' :: rest <:+ text → IsDigitLed rest

/-- Names of packages: no dash is at the end or has a digit behind it. -/
structure IsPackageName (name : List Char) : Prop where
  ne_nil : name ≠ []
  dashes : ∀ rest, '-' :: rest <:+ name → rest ≠ [] ∧ ¬ IsDigitLed rest

theorem startsWithDigit_iff : startsWithDigit text = true ↔ IsDigitLed text := by
  cases text with
  | nil => simp [startsWithDigit, IsDigitLed]
  | cons c rest => simp [startsWithDigit, IsDigitLed]

theorem forall_dash_iff {P : List Char → Prop} :
    (∀ rest, '-' :: rest <:+ text → P rest) ↔
      ∀ t ∈ text.tails, t.head? = some '-' → P t.tail := by
  constructor
  · intro h t ht hdash
    obtain ⟨rest, rfl⟩ := List.head?_eq_some_iff.1 hdash
    exact h rest ((List.mem_tails _ text).1 ht)
  · intro h rest hrest
    exact h ('-' :: rest) ((List.mem_tails _ text).2 hrest) rfl

instance (text : List Char) : Decidable (IsDigitLed text) :=
  decidable_of_iff _ startsWithDigit_iff

instance (text : List Char) : Decidable (DashesLeadDigits text) :=
  decidable_of_iff _ forall_dash_iff.symm

instance (name : List Char) : Decidable (IsPackageName name) :=
  decidable_of_iff
    (name ≠ [] ∧ ∀ t ∈ name.tails, t.head? = some '-' → t.tail ≠ [] ∧ ¬ IsDigitLed t.tail)
    ⟨fun h => ⟨h.1, forall_dash_iff.2 h.2⟩, fun h => ⟨h.ne_nil, forall_dash_iff.1 h.dashes⟩⟩

theorem not_isDigitLed_dash : ¬ IsDigitLed ('-' :: text) := by
  rintro ⟨c, rest, heq, hdigit⟩
  obtain ⟨rfl, -⟩ := List.cons.inj heq
  exact absurd hdigit (by decide)

theorem IsPackageName.not_isDigitLed {rest : List Char} (h : IsPackageName name)
    (hsuffix : '-' :: rest <:+ name) (text : List Char) : ¬ IsDigitLed (rest ++ text) := by
  obtain ⟨hsome, hdigit⟩ := h.dashes rest hsuffix
  cases rest with
  | nil => exact absurd rfl hsome
  | cons c rest =>
    rintro ⟨d, more, heq, hd⟩
    obtain ⟨rfl, -⟩ := List.cons.inj heq
    exact hdigit ⟨c, rest, rfl, hd⟩

theorem dashesLeadDigits_dash :
    DashesLeadDigits ('-' :: text) ↔ IsDigitLed text ∧ DashesLeadDigits text := by
  constructor
  · intro h
    exact ⟨h text List.suffix_rfl, fun rest hrest => h rest (hrest.trans (List.suffix_cons _ _))⟩
  · rintro ⟨hdigit, htext⟩ rest hrest
    obtain heq | hsuffix := List.suffix_cons_iff.1 hrest
    · obtain ⟨-, rfl⟩ := List.cons.inj heq
      exact hdigit
    · exact htext rest hsuffix

theorem dashesLeadDigits_append (h : '-' ∉ piece) :
    DashesLeadDigits (piece ++ text) ↔ DashesLeadDigits text := by
  induction piece with
  | nil => exact Iff.rfl
  | cons c piece ih =>
    obtain ⟨hc, hpiece⟩ := not_or.1 (mt List.mem_cons.2 h)
    rw [← ih hpiece]
    constructor
    · exact fun hall rest hrest => hall rest (hrest.trans (List.suffix_cons c _))
    · intro hall rest hrest
      obtain heq | hsuffix := List.suffix_cons_iff.1 hrest
      · exact absurd (List.cons.inj heq).1 hc
      · exact hall rest hsuffix

/-! ## Pieces -/

/-- Pieces with a dash before each. -/
def dashed (pieces : List (List Char)) : List Char :=
  pieces.flatMap fun piece => '-' :: piece

theorem dashed_cons (piece : List Char) (pieces : List (List Char)) :
    dashed (piece :: pieces) = '-' :: (piece ++ dashed pieces) := by
  rw [dashed, List.flatMap_cons, List.cons_append]
  rfl

theorem joinFields_eq_dashed (piece : List Char) (pieces : List (List Char)) :
    joinFields '-' (piece :: pieces) = piece ++ dashed pieces := by
  induction pieces generalizing piece with
  | nil => exact (List.append_nil piece).symm
  | cons next pieces ih =>
    rw [Text.joinFields_cons '-' piece (List.cons_ne_nil next pieces), ih, dashed_cons]

theorem dashed_fields (text : List Char) : dashed (fields '-' text) = '-' :: text := by
  have hjoin := Text.joinFields_fields '-' text
  cases hfields : fields '-' text with
  | nil => exact absurd hfields (Text.fields_ne_nil '-' text)
  | cons piece pieces =>
    rw [hfields, joinFields_eq_dashed] at hjoin
    rw [dashed_cons, hjoin]

theorem isDigitLed_append_dashed : IsDigitLed (piece ++ dashed pieces) ↔ IsDigitLed piece := by
  cases piece with
  | cons c piece => simp [IsDigitLed]
  | nil =>
    cases pieces with
    | nil => exact Iff.rfl
    | cons next pieces =>
      rw [List.nil_append, dashed_cons]
      exact iff_of_false not_isDigitLed_dash (by rintro ⟨c, rest, heq, -⟩; cases heq)

theorem dashesLeadDigits_dashed (h : ∀ piece ∈ pieces, '-' ∉ piece) :
    DashesLeadDigits (dashed pieces) ↔ ∀ piece ∈ pieces, IsDigitLed piece := by
  induction pieces with
  | nil =>
    refine iff_of_true (fun rest hrest => ?_) fun piece hpiece => absurd hpiece List.not_mem_nil
    exact absurd (List.suffix_nil.1 hrest) (List.cons_ne_nil '-' rest)
  | cons piece pieces ih =>
    rw [dashed_cons, dashesLeadDigits_dash, isDigitLed_append_dashed,
      dashesLeadDigits_append (h piece List.mem_cons_self),
      ih fun p hp => h p (List.mem_cons_of_mem piece hp), List.forall_mem_cons]

theorem dashesLeadDigits_iff_fields :
    DashesLeadDigits ('-' :: version) ↔ ∀ piece ∈ fields '-' version, IsDigitLed piece := by
  rw [← dashed_fields]
  exact dashesLeadDigits_dashed fun piece hpiece => Text.not_mem_of_mem_fields hpiece

/-! ## What is left -/

/-- What can be dropped: nothing, or a text that begins with a dash and where a digit follows each
dash. -/
def IsDroppable (tail : List Char) : Prop :=
  tail = [] ∨ ∃ version, tail = '-' :: version ∧ DashesLeadDigits tail

/-- What is left of a name is its shortest beginning with nothing behind it that cannot be
dropped. -/
structure IsLeft (name kept : List Char) : Prop where
  dropped : ∃ tail, name = kept ++ tail ∧ IsDroppable tail
  shortest : ∀ front tail, name = front ++ tail → IsDroppable tail → kept <+: front

theorem isDroppable_dashed (h : ∀ piece ∈ pieces, '-' ∉ piece)
    (hdigit : ∀ piece ∈ pieces, IsDigitLed piece) : IsDroppable (dashed pieces) := by
  cases pieces with
  | nil => exact .inl rfl
  | cons piece pieces =>
    exact .inr ⟨_, dashed_cons piece pieces, (dashesLeadDigits_dashed h).2 hdigit⟩

theorem packageOfStoreName_eq {first : List Char} (h : fields '-' name = first :: pieces) :
    packageOfStoreName name = joinFields '-' (first :: pieces.rdropWhile startsWithDigit) := by
  unfold packageOfStoreName
  rw [h]
  rfl

theorem exists_dropped (name : List Char) :
    ∃ tail, name = packageOfStoreName name ++ tail ∧ IsDroppable tail := by
  cases hfields : fields '-' name with
  | nil => exact absurd hfields (Text.fields_ne_nil '-' name)
  | cons first pieces =>
    -- The pieces at the end that begin with a digit; the first piece is never one of them.
    refine ⟨dashed (pieces.rtakeWhile startsWithDigit), ?_, isDroppable_dashed ?_ ?_⟩
    · have hpieces : pieces.rdropWhile startsWithDigit ++ pieces.rtakeWhile startsWithDigit
          = pieces := List.rdropWhile_append_rtakeWhile
      have hjoin := Text.joinFields_fields '-' name
      rw [hfields, joinFields_eq_dashed, ← hpieces, dashed, List.flatMap_append] at hjoin
      rw [packageOfStoreName_eq hfields, joinFields_eq_dashed, List.append_assoc]
      exact hjoin.symm
    · intro piece hpiece
      have hmem : piece ∈ pieces := (List.rtakeWhile_suffix startsWithDigit pieces).mem hpiece
      exact Text.not_mem_of_mem_fields (hfields ▸ List.mem_cons_of_mem first hmem)
    · exact fun piece hpiece => startsWithDigit_iff.1 (List.mem_rtakeWhile_imp hpiece)

/-- A version of which a digit follows each dash is dropped as a whole. -/
theorem packageOfStoreName_append (h : DashesLeadDigits ('-' :: version)) (front : List Char) :
    packageOfStoreName (front ++ '-' :: version) = packageOfStoreName front := by
  have hversion : ∀ piece ∈ (fields '-' version).reverse, startsWithDigit piece = true :=
    fun piece hpiece =>
      startsWithDigit_iff.2 (dashesLeadDigits_iff_fields.1 h piece (List.mem_reverse.1 hpiece))
  cases hfields : fields '-' front with
  | nil => exact absurd hfields (Text.fields_ne_nil '-' front)
  | cons first pieces =>
    have hall : fields '-' (front ++ '-' :: version) = first :: (pieces ++ fields '-' version) := by
      rw [Text.fields_append, hfields, List.cons_append]
    rw [packageOfStoreName_eq hall, packageOfStoreName_eq hfields, List.rdropWhile,
      List.reverse_append, List.dropWhile_append_of_pos hversion]
    rfl

theorem isLeft_packageOfStoreName (name : List Char) : IsLeft name (packageOfStoreName name) := by
  refine ⟨exists_dropped name, fun front tail hname htail => ?_⟩
  -- What can be dropped makes no difference, so a beginning without it leaves as much.
  have hfront : packageOfStoreName name = packageOfStoreName front := by
    obtain rfl | ⟨version, rfl, hdigits⟩ := htail
    · rw [hname, List.append_nil]
    · rw [hname, packageOfStoreName_append hdigits]
  obtain ⟨dropped, hdropped, -⟩ := exists_dropped front
  rw [hfront]
  exact ⟨dropped, hdropped.symm⟩

/-! ## Packages and versions -/

/-- A store name is parted at its first dash that a digit follows. -/
structure IsParted (name package version : List Char) : Prop where
  parts : name = package ++ '-' :: version
  digit : IsDigitLed version
  first : ∀ rest, '-' :: rest <:+ name → IsDigitLed rest → rest.length ≤ version.length

theorem isParted_of_isPackageName (hpackage : IsPackageName package)
    (hversion : IsDigitLed version) : IsParted (package ++ '-' :: version) package version := by
  refine ⟨rfl, hversion, fun rest hrest hdigit => Nat.le_of_not_lt fun hlt => ?_⟩
  have hbehind : '-' :: version <:+ rest :=
    List.suffix_of_suffix_length_le (List.suffix_append package _)
      ((List.suffix_cons '-' rest).trans hrest) hlt
  obtain ⟨more, rfl⟩ := hbehind
  have hinside : '-' :: more <:+ package := by
    rwa [← List.cons_append, List.suffix_append_self_iff] at hrest
  exact hpackage.not_isDigitLed hinside _ hdigit

theorem packageOfStoreName_of_isPackageName (h : IsPackageName package) :
    packageOfStoreName package = package := by
  obtain ⟨tail, hname, htail⟩ := exists_dropped package
  obtain rfl | ⟨version, rfl, hdigits⟩ := htail
  · rw [List.append_nil] at hname
    exact hname.symm
  · have hsuffix : '-' :: version <:+ package := ⟨_, hname.symm⟩
    have hdigit := (dashesLeadDigits_dash.1 hdigits).1
    rw [← List.append_nil version] at hdigit
    exact absurd hdigit (h.not_isDigitLed hsuffix [])

/-- A package alone is left as it is. A version behind it begins at the first dash that a digit
follows. What is left of both is the shortest beginning with no other dashes behind it than those
that a digit follows, and this is the package if and only if a digit follows each dash of the
version. -/
theorem version_dropped_iff (hpackage : IsPackageName package) (hversion : IsDigitLed version) :
    packageOfStoreName package = package ∧
      IsParted (package ++ '-' :: version) package version ∧
      IsLeft (package ++ '-' :: version) (packageOfStoreName (package ++ '-' :: version)) ∧
      (packageOfStoreName (package ++ '-' :: version) = package ↔ DashesLeadDigits version) := by
  have halone := packageOfStoreName_of_isPackageName hpackage
  have hleft := isLeft_packageOfStoreName (package ++ '-' :: version)
  refine ⟨halone, isParted_of_isPackageName hpackage hversion, hleft, ?_⟩
  constructor
  · intro h
    obtain ⟨tail, hname, htail⟩ := hleft.dropped
    rw [h] at hname
    obtain rfl := List.append_cancel_left hname
    obtain hnil | ⟨version', -, hdigits⟩ := htail
    · cases hnil
    · exact (dashesLeadDigits_dash.1 hdigits).2
  · intro h
    rw [packageOfStoreName_append (dashesLeadDigits_dash.2 ⟨hversion, h⟩), halone]

theorem version_dropped_iff_dated :
    packageOfStoreName "alsa-lib-2021-01-05".toList = "alsa-lib".toList := by
  have hpackage : IsPackageName "alsa-lib".toList := by decide
  have hversion : IsDigitLed "2021-01-05".toList := by decide
  have hdashes : DashesLeadDigits "2021-01-05".toList := by decide
  obtain ⟨-, -, -, hiff⟩ := version_dropped_iff hpackage hversion
  exact hiff.2 hdashes

/-- Complaints about a package of which no digit follows the last dash of the version. -/
def prereleaseComplaints : String :=
  "error: Package ‘alsa-lib-1.2.9-rc1’ is not supported on arm"

/-- A piece of a version that begins with a letter keeps all of the version in the name. -/
theorem lettered_piece_keeps_version :
    IsPackageName "alsa-lib".toList ∧ IsDigitLed "1.2.9-rc1".toList ∧
      packageOfStoreName ("alsa-lib".toList ++ '-' :: "1.2.9-rc1".toList)
        = "alsa-lib-1.2.9-rc1".toList ∧
      "alsa-lib-1.2.9-rc1".toList ≠ "alsa-lib".toList ∧
      diagnose prereleaseComplaints "arm" ["alsa-lib"]
        = .crossUnsupported (some "alsa-lib-1.2.9-rc1") "arm" prereleaseComplaints :=
  ⟨by decide, by decide, by decide, by decide, by decide +kernel⟩

end CrossShell.Nix
