import CrossShell.Proofs.Catalog.RoundTrip
import Mathlib.Data.List.Induction

/-!
Catalogs that are made by one edit after the other.

`LastOf f edits a` says that `a` is what `f` finds in the last edit in which it finds anything. A
catalog that is made from the empty one has for each package what the last edit of the package says,
and the list of targets of the last edit that gives one. So edits may be put in another order or
left out as long as these stay the last ones, and a text that lists packages, some of them more than
once, loads as the edits that it lists.
-/

set_option autoImplicit false

namespace CrossShell

open Json
open Json.Reader (SpellsField)

/-! ## The last that counts -/

section

variable {ε α σ : Type} {f : ε → Option α} {edits : List ε} {a : α}

/-- What is found in the last edit where anything is found. -/
def LastOf (f : ε → Option α) (edits : List ε) (a : α) : Prop :=
  ∃ before e after, edits = before ++ e :: after ∧ f e = some a ∧ ∀ e' ∈ after, f e' = none

theorem lastOf_nil : ¬ LastOf f [] a := by
  rintro ⟨before, e, after, h, -⟩
  simp at h

theorem lastOf_concat {e : ε} :
    LastOf f (edits ++ [e]) a ↔ f e = some a ∨ (f e = none ∧ LastOf f edits a) := by
  constructor
  · rintro ⟨before, e', after, heq, hfound, hafter⟩
    cases after using List.reverseRecOn with
    | nil =>
      obtain ⟨rfl, hlast⟩ := List.append_inj' heq rfl
      cases hlast
      exact .inl hfound
    | append_singleton after e'' =>
      rw [← List.cons_append, ← List.append_assoc] at heq
      obtain ⟨rfl, hlast⟩ := List.append_inj' heq rfl
      cases hlast
      refine .inr ⟨hafter e (by simp), before, e', after, rfl, hfound, fun d hd => ?_⟩
      exact hafter d (List.mem_append_left _ hd)
  · rintro (hfound | ⟨hnone, before, e', after, rfl, hfound, hafter⟩)
    · exact ⟨edits, e, [], rfl, hfound, nofun⟩
    · refine ⟨before, e', after ++ [e], by simp, hfound, fun d hd => ?_⟩
      obtain hd | hd := List.mem_append.1 hd
      · exact hafter d hd
      · rw [List.mem_singleton.1 hd]
        exact hnone

/-- If each edit replaces what is seen of a state by what is found in the edit, then after all of
them the last one is seen. -/
theorem foldl_eq_some_iff {apply : σ → ε → σ} {start : σ} (view : σ → Option α)
    (hstep : ∀ s e, view (apply s e) = (f e).or (view s)) (hstart : view start = none) :
    view (edits.foldl apply start) = some a ↔ LastOf f edits a := by
  -- from the end: what the last edit leaves as it is was left by the edits before it
  induction edits using List.reverseRecOn with
  | nil => simp [hstart, lastOf_nil]
  | append_singleton edits e ih =>
    rw [List.foldl_append, List.foldl_cons, List.foldl_nil, hstep, lastOf_concat, ← ih]
    cases f e <;> simp

theorem exists_lastOf : (∃ a, LastOf f edits a) ↔ ∃ e ∈ edits, f e ≠ none := by
  induction edits using List.reverseRecOn with
  | nil => simp [lastOf_nil]
  | append_singleton edits e ih =>
    simp only [lastOf_concat, List.mem_append, List.mem_singleton]
    cases hfound : f e with
    | some a =>
      refine ⟨fun _ => ⟨e, .inr rfl, by simp [hfound]⟩, fun _ => ⟨a, .inl rfl⟩⟩
    | none =>
      have hold : (∃ d, (d ∈ edits ∨ d = e) ∧ f d ≠ none) ↔ ∃ d ∈ edits, f d ≠ none := by
        constructor
        · rintro ⟨d, hd | rfl, hne⟩
          · exact ⟨d, hd, hne⟩
          · exact absurd hfound hne
        · rintro ⟨d, hd, hne⟩
          exact ⟨d, .inl hd, hne⟩
      rw [hold, ← ih]
      simp

end

namespace Catalog

/-! ## Edits -/

/-- One step in the making of a catalog. -/
inductive Edit where
  | package (name : String) (entry : CatalogEntry)
  | targets (list : List Target)

namespace Edit

def apply (c : Catalog) : Edit → Catalog
  | .package name entry => c.withPackage name entry
  | .targets list => c.withTargets list

def entryOf? (name : String) : Edit → Option CatalogEntry
  | .package name' entry => if name = name' then some entry else none
  | .targets _ => none

def targets? : Edit → Option (List Target)
  | .package _ _ => none
  | .targets list => some list

theorem get?_apply (name : String) (c : Catalog) (e : Edit) :
    (e.apply c).packages.get? name = (e.entryOf? name).or (c.packages.get? name) := by
  cases e with
  | package name' entry =>
    by_cases h : name = name'
    · simp [apply, entryOf?, withPackage, h]
    · simp [apply, entryOf?, withPackage, h]
  | targets list => rfl

theorem targets_apply (c : Catalog) (e : Edit) :
    (e.apply c).targets = e.targets?.or c.targets := by
  cases e <;> rfl

theorem entryOf?_ne_none {name : String} {e : Edit} :
    e.entryOf? name ≠ none ↔ ∃ entry, e = .package name entry := by
  cases e with
  | package name' entry =>
    by_cases h : name = name'
    · simp [entryOf?, h]
    · simp [entryOf?, h, Ne.symm h]
  | targets list => simp [entryOf?]

theorem targets?_ne_none {e : Edit} : e.targets? ≠ none ↔ ∃ list, e = .targets list := by
  cases e <;> simp [targets?]

end Edit

/-- The catalog that is made from the empty one. -/
def edited (edits : List Edit) : Catalog :=
  edits.foldl (fun c e => e.apply c) empty

variable {edits edits' : List Edit}

theorem get?_edited {name : String} {entry : CatalogEntry} :
    (edited edits).packages.get? name = some entry ↔ LastOf (Edit.entryOf? name) edits entry :=
  foldl_eq_some_iff (fun c : Catalog => c.packages.get? name) (Edit.get?_apply name) rfl

theorem targets_edited {list : List Target} :
    (edited edits).targets = some list ↔ LastOf Edit.targets? edits list :=
  foldl_eq_some_iff Catalog.targets Edit.targets_apply rfl

theorem mem_keys_edited {name : String} :
    name ∈ (edited edits).packages.keys ↔ ∃ entry, .package name entry ∈ edits := by
  have hkeys : name ∈ (edited edits).packages.keys
      ↔ ∃ entry, (edited edits).packages.get? name = some entry := by
    rw [← not_iff_not, ← SortedMap.get?_eq_none, ← Option.ne_none_iff_exists', not_not]
  simp only [hkeys, get?_edited, exists_lastOf, Edit.entryOf?_ne_none]
  constructor
  · rintro ⟨e, he, entry, rfl⟩
    exact ⟨entry, he⟩
  · rintro ⟨entry, he⟩
    exact ⟨_, he, entry, rfl⟩

theorem targets_edited_eq_none : (edited edits).targets = none ↔ ∀ list, .targets list ∉ edits := by
  have hnone : (edited edits).targets = none ↔ ¬ ∃ list, LastOf Edit.targets? edits list := by
    simp only [Option.eq_none_iff_forall_ne_some, ← targets_edited, not_exists, ne_eq]
  simp only [hnone, exists_lastOf, Edit.targets?_ne_none]
  constructor
  · intro h list he
    exact h ⟨_, he, list, rfl⟩
  · rintro h ⟨e, he, list, rfl⟩
    exact h list he

/-- The last edit of every package and of the list of targets are the same. -/
structure SameLast (edits edits' : List Edit) : Prop where
  entries : ∀ name entry,
    LastOf (Edit.entryOf? name) edits entry ↔ LastOf (Edit.entryOf? name) edits' entry
  targets : ∀ list, LastOf Edit.targets? edits list ↔ LastOf Edit.targets? edits' list

theorem edited_eq_iff : edited edits = edited edits' ↔ SameLast edits edits' := by
  constructor
  · intro h
    constructor
    · intro name entry
      rw [← get?_edited, ← get?_edited, h]
    · intro list
      rw [← targets_edited, ← targets_edited, h]
  · intro h
    have hpackages : (edited edits).packages = (edited edits').packages := by
      refine SortedMap.eq_of_get? fun name => Option.ext fun entry => ?_
      rw [get?_edited, get?_edited]
      exact h.entries name entry
    have htargets : (edited edits).targets = (edited edits').targets := by
      refine Option.ext fun list => ?_
      rw [targets_edited, targets_edited]
      exact h.targets list
    calc edited edits
        = ⟨(edited edits).targets, (edited edits).packages⟩ := rfl
      _ = ⟨(edited edits').targets, (edited edits').packages⟩ := by rw [htargets, hpackages]
      _ = edited edits' := rfl

/-! ## Packages listed one after the other -/

def packageEdits (kvs : List (String × CatalogEntry)) : List Edit :=
  kvs.map fun e => .package e.1 e.2

theorem edited_packageEdits (kvs : List (String × CatalogEntry)) :
    edited (packageEdits kvs) = ⟨none, SortedMap.ofList kvs⟩ := by
  have hrun : ∀ c : Catalog, (packageEdits kvs).foldl (fun c e => e.apply c) c
      = { c with packages := c.packages.insertAll kvs } := by
    induction kvs with
    | nil => intro c; rfl
    | cons e kvs ih => intro c; exact ih (c.withPackage e.1 e.2)
  exact hrun empty

/-- The texts of an object that holds nothing but packages, listed in this order. -/
def SpellsListing (kvs : List (String × CatalogEntry)) (text : List Char) : Prop :=
  Bracketed '\x7b' '\x7d'
    (Keyed SpellsString (Bracketed '\x7b' '\x7d' (Keyed SpellsString CatalogEntry.Spells)))
    [("packages", kvs)] text

def listingJson (kvs : List (String × CatalogEntry)) : Json :=
  .object [("packages", .object (kvs.map fun e => (e.1, e.2.toJson)))]

theorem spellsListing_compact (kvs : List (String × CatalogEntry)) :
    SpellsListing kvs (listingJson kvs).compactChars := by
  have hkvs : Bracketed '\x7b' '\x7d' (Keyed SpellsString CatalogEntry.Spells) kvs
      (Json.object (kvs.map fun e => (e.1, e.2.toJson))).compactChars :=
    bracketed_object fun e _ => e.2.spells_compact
  have hfield := Members.last isBlank_nil (field_compact "packages" hkvs) isBlank_nil
  simpa [SpellsListing, listingJson, compactChars, compactFields, compactMoreFields]
    using Bracketed.mk hfield

theorem spells_of_listing {kvs : List (String × CatalogEntry)} {text : List Char}
    (h : SpellsListing kvs text) : Spells ⟨none, SortedMap.ofList kvs⟩ text := by
  cases h with | mk hmembers =>
  cases hmembers with | last hbefore hfield hafter =>
  cases hfield with | @mk _ _ keyText after before text hkey hafter' hbefore' hkvs =>
  have hfield' : SpellsField ("packages", text) (keyText ++ (after ++ ':' :: (before ++ text))) :=
    .mk hkey hafter' hbefore' rfl
  refine ⟨[("packages", text)], ⟨by simp, ?_, ?_, ?_⟩, .mk (.last hbefore hfield' hafter)⟩
  · simpa [fieldNames] using Tells.packages ⟨kvs, rfl, hkvs⟩
  · simp [fieldNames, Omits]
  · simp [fieldNames]

/-- The last edit counts: of every package, and of the list of targets. The order of the edits shows
neither in the text of the catalog nor in a check, and a text that lists packages, with any blanks
and escapes, loads as the edits in the order of the list. -/
theorem last_edit_counts (edits : List Edit) :
    (∀ name entry, (edited edits).packages.get? name = some entry ↔
      LastOf (Edit.entryOf? name) edits entry) ∧
    (∀ name, name ∈ (edited edits).packages.keys ↔ ∃ entry, Edit.package name entry ∈ edits) ∧
    (∀ list, (edited edits).targets = some list ↔ LastOf Edit.targets? edits list) ∧
    ((edited edits).targets = none ↔ ∀ list, Edit.targets list ∉ edits) ∧
    (∀ edits', SameLast edits edits' ↔
      (edited edits).toJson.compact = (edited edits').toJson.compact) ∧
    (∀ edits', SameLast edits edits' →
      (edited edits).toJson.pretty = (edited edits').toJson.pretty ∧
        ∀ d, (edited edits).check d = (edited edits').check d) ∧
    ∀ kvs, SpellsDocument (SpellsListing kvs) (listingJson kvs).compact.toList ∧
      ∀ text : String, SpellsDocument (SpellsListing kvs) text.toList →
        ofJson text = .ok (edited (packageEdits kvs)) ∧
          ∀ (m : Machine) (path : String), m.content path = .ok (Text.encode text) →
            load path m = .ok (edited (packageEdits kvs)) m := by
  refine ⟨fun name entry => get?_edited, fun name => mem_keys_edited, fun list => targets_edited,
    targets_edited_eq_none, fun edits' => ?_, fun edits' hsame => ?_, fun kvs => ?_⟩
  · rw [← edited_eq_iff]
    exact ⟨fun h => h ▸ rfl, toJson_compact_injective⟩
  · rw [edited_eq_iff.2 hsame]
    exact ⟨rfl, fun _ => rfl⟩
  · refine ⟨spellsDocument_compact (spellsListing_compact kvs), fun text htext => ?_⟩
    have hspells : SpellsDocument (Spells ⟨none, SortedMap.ofList kvs⟩) text.toList := by
      obtain ⟨before, value, after, hbefore, hlisting, hafter, heq⟩ := htext
      exact ⟨before, value, after, hbefore, spells_of_listing hlisting, hafter, heq⟩
    have hjson := ofJson_of_spells hspells
    rw [← edited_packageEdits] at hjson
    exact ⟨hjson, fun m path hcontent => load_of_content hcontent hjson⟩

/-- A package that is broken at first and good in the end. -/
def mended : List (String × CatalogEntry) :=
  [("zlib", ⟨none, true, none⟩), ("cmake", .plain), ("zlib", .plain)]

theorem last_edit_counts_mended :
    SameLast (packageEdits mended) [.package "zlib" .plain, .package "cmake" .plain] ∧
      (edited (packageEdits mended)).toJson.pretty
        = (edited [.package "zlib" .plain, .package "cmake" .plain]).toJson.pretty ∧
      load "catalog.json" (machineWith (listingJson mended).compact)
        = .ok (edited (packageEdits mended)) (machineWith (listingJson mended).compact) := by
  obtain ⟨-, -, -, -, -, hsame, hlisting⟩ := last_edit_counts (packageEdits mended)
  have hlast : SameLast (packageEdits mended)
      [.package "zlib" .plain, .package "cmake" .plain] := edited_eq_iff.1 (by decide)
  obtain ⟨hwritten, hloads⟩ := hlisting mended
  exact ⟨hlast, (hsame _ hlast).1, (hloads _ hwritten).2 _ _ (content_machineWith _)⟩

end Catalog

end CrossShell
