import CrossShell.Catalog.Load
import CrossShell.Proofs.Descriptor
import CrossShell.Proofs.Machine.Stored

/-!
Every text that writes a catalog loads as that catalog.

`Spells c text` says that a text writes the catalog: in whatever order its fields come, with or
without those that are as in the empty catalog, with fields between them that catalogs do not have.
The entries of the packages stand in any order too; of entries with one name the last one counts.
-/

set_option autoImplicit false

namespace CrossShell

open Json
open Json.Reader

/-! ## Targets -/

/-- The texts of a target: those of its triple. -/
def Target.Spells (t : Target) (text : List Char) : Prop :=
  SpellsString t.triple text

/-- The texts of a list of targets. -/
def SpellsTargets (targets : List Target) (text : List Char) : Prop :=
  Bracketed '[' ']' Target.Spells targets text

theorem opens_of_spellsString {s : String} {text : List Char} (h : SpellsString s text) :
    Opens text ∧ text.head? ≠ some 'n' := by
  obtain ⟨-⟩ := h
  exact ⟨⟨'"', _, rfl, rfl, by decide⟩, nofun⟩

theorem reads_spelledTargets {targets : Option (List Target)} {text : List Char}
    (h : SpellsOptional SpellsTargets targets text) : Reads targetListReader text targets := by
  refine reads_spelledOptional (fun targets text h => ?_) h
  refine ⟨reads_spelledList (fun t text h => ?_) h, ?_⟩
  · exact ⟨Target.reads_spelled h, (opens_of_spellsString h).1⟩
  · obtain ⟨-⟩ := h
    exact ⟨⟨'[', _, rfl, rfl, by decide⟩, nofun⟩

theorem skipsBlanks_targetListReader : SkipsBlanks targetListReader :=
  skipsBlanks_optional _

theorem spellsTargets_compact (targets : List Target) :
    SpellsTargets targets (targetListJson targets).compactChars :=
  bracketed_array fun t _ => spellsString_quote t.triple

/-- What is stored of a field that came, or else has the value that it has if it is missing. -/
theorem getD_of_seen {α : Type} {seen : List String} {name : String} {a default : α}
    (h : name ∉ seen → a = default) :
    (if name ∈ seen then some a else none).getD default = a := by
  split
  · rfl
  · next hseen => exact (h hseen).symm

/-! ## Entries -/

namespace CatalogEntry

def fieldNames : List String := ["platforms", "broken", "reason"]

/-- The texts of the fields of an entry. -/
inductive Tells (entry : CatalogEntry) : String → List Char → Prop
  | platforms {text : List Char} (h : SpellsOptional SpellsTargets entry.platforms text) :
      Tells entry "platforms" text
  | broken {text : List Char} (h : SpellsBool entry.broken text) : Tells entry "broken" text
  | reason {text : List Char} (h : SpellsOptional SpellsString entry.reason text) :
      Tells entry "reason" text

/-- A field of an entry may be missing if it is as in a plain entry. -/
def Omits (entry : CatalogEntry) (name : String) : Prop :=
  (name = "platforms" → entry.platforms = none) ∧ (name = "broken" → entry.broken = false) ∧
    (name = "reason" → entry.reason = none)

def Spells (entry : CatalogEntry) (text : List Char) : Prop :=
  SpellsRecord fieldNames entry.Tells entry.Omits text

theorem spells_compact (entry : CatalogEntry) : entry.Spells entry.toJson.compactChars := by
  obtain ⟨platforms, broken, reason⟩ := entry
  have hplatforms : ∀ targets, Tells ⟨some targets, broken, reason⟩ "platforms"
      (targetListJson targets).compactChars := fun targets =>
    .platforms (.value (spellsTargets_compact targets))
  have hbroken : Tells ⟨platforms, broken, reason⟩ "broken" (Json.bool broken).compactChars :=
    .broken (spellsBool_compact broken)
  have hreason : ∀ text, Tells ⟨platforms, broken, some text⟩ "reason"
      (Json.string text).compactChars := fun text =>
    .reason (.value (spellsString_quote text))
  refine spellsRecord_compact ?_
  cases platforms <;> cases reason <;> constructor <;>
    simp_all [optionalField, fieldNames, Omits]

def draftAfter (entry : CatalogEntry) (seen : List String) : Draft :=
  ⟨if "platforms" ∈ seen then some entry.platforms else none,
    if "broken" ∈ seen then some entry.broken else none,
    if "reason" ∈ seen then some entry.reason else none⟩

theorem tracks_draftAfter (entry : CatalogEntry) :
    Tracks fields entry.draftAfter fieldNames entry.Tells where
  known := by
    intro seen name value _ hseen htells
    cases htells with
    | platforms h =>
      have hnext : entry.draftAfter ("platforms" :: seen)
          = { entry.draftAfter seen with platforms := some entry.platforms } := by
        simp [draftAfter]
      rw [hnext]
      exact ⟨_, rfl, readsField_fresh (if_neg hseen) skipsBlanks_targetListReader
        (reads_spelledTargets h)⟩
    | broken h =>
      have hnext : entry.draftAfter ("broken" :: seen)
          = { entry.draftAfter seen with broken := some entry.broken } := by
        simp [draftAfter]
      rw [hnext]
      exact ⟨_, rfl, readsField_fresh (if_neg hseen) skipsBlanks_bool (reads_spelledBool h)⟩
    | reason h =>
      have hnext : entry.draftAfter ("reason" :: seen)
          = { entry.draftAfter seen with reason := some entry.reason } := by
        simp [draftAfter]
      have hreads := reads_spelledOptional (r := text) (fun s text h =>
        ⟨reads_spelledString h, opens_of_spellsString h⟩) h
      rw [hnext]
      exact ⟨_, rfl, readsField_fresh (if_neg hseen) (skipsBlanks_optional _) hreads⟩
  other := by
    intro seen name hname
    simp only [fieldNames, List.mem_cons, List.not_mem_nil, or_false, not_or] at hname
    obtain ⟨hplatforms, hbroken, hreason⟩ := hname
    simp [fields, draftAfter, hplatforms, hbroken, hreason, Ne.symm hplatforms, Ne.symm hbroken,
      Ne.symm hreason]

theorem entry_draftAfter {entry : CatalogEntry} {seen : List String}
    (h : ∀ name ∈ fieldNames, name ∉ seen → entry.Omits name) :
    (entry.draftAfter seen).entry = entry := by
  have hplatforms := getD_of_seen fun hseen => (h "platforms" (by decide) hseen).1 rfl
  have hbroken := getD_of_seen fun hseen => (h "broken" (by decide) hseen).2.1 rfl
  have hreason := getD_of_seen fun hseen => (h "reason" (by decide) hseen).2.2 rfl
  simp only [draftAfter, Draft.entry, hplatforms, hbroken, hreason]

theorem reads_spelled {entry : CatalogEntry} {text : List Char} (h : entry.Spells text) :
    Reads CatalogEntry.reader text entry := by
  refine reads_spelledRecord entry.tracks_draftAfter rfl (fun seen hseen => ?_) h
  rw [entry_draftAfter hseen]

end CatalogEntry

/-! ## Catalogs -/

namespace Catalog

def fieldNames : List String := ["targets", "packages"]

/-- The texts of packages: those of entries that write them, one after the other. -/
def SpellsPackages (packages : SortedMap CatalogEntry) (text : List Char) : Prop :=
  ∃ kvs, SortedMap.ofList kvs = packages ∧
    Bracketed '\x7b' '\x7d' (Keyed SpellsString CatalogEntry.Spells) kvs text

/-- The texts of the fields of a catalog. -/
inductive Tells (c : Catalog) : String → List Char → Prop
  | targets {text : List Char} (h : SpellsOptional SpellsTargets c.targets text) :
      Tells c "targets" text
  | packages {text : List Char} (h : SpellsPackages c.packages text) : Tells c "packages" text

/-- A field of a catalog may be missing if it is as in the empty catalog. -/
def Omits (c : Catalog) (name : String) : Prop :=
  (name = "targets" → c.targets = none) ∧ (name = "packages" → c.packages = SortedMap.empty)

def Spells (c : Catalog) (text : List Char) : Prop :=
  SpellsRecord fieldNames c.Tells c.Omits text

/-- The text that is written for a catalog is one of its texts. -/
theorem spells_compact (c : Catalog) : c.Spells c.toJson.compactChars := by
  obtain ⟨targets, packages⟩ := c
  have htargets : ∀ list, Tells ⟨some list, packages⟩ "targets"
      (targetListJson list).compactChars := fun list =>
    .targets (.value (spellsTargets_compact list))
  have hpackages : Tells ⟨targets, packages⟩ "packages"
      (Json.object (packages.entries.map fun e => (e.1, e.2.toJson))).compactChars :=
    .packages ⟨packages.entries, packages.ofList_entries,
      bracketed_object fun e _ => e.2.spells_compact⟩
  refine spellsRecord_compact ?_
  cases targets <;> constructor <;> simp_all [optionalField, fieldNames, Omits]

theorem reads_spelledPackages {packages : SortedMap CatalogEntry} {text : List Char}
    (h : SpellsPackages packages text) : Reads (map CatalogEntry.reader) text packages := by
  obtain ⟨kvs, rfl, h⟩ := h
  exact reads_spelledMap (fun _ _ => CatalogEntry.reads_spelled) skipsBlanks_record h

def draftAfter (c : Catalog) (seen : List String) : Draft :=
  ⟨if "targets" ∈ seen then some c.targets else none,
    if "packages" ∈ seen then some c.packages else none⟩

theorem tracks_draftAfter (c : Catalog) : Tracks fields c.draftAfter fieldNames c.Tells where
  known := by
    intro seen name value _ hseen htells
    cases htells with
    | targets h =>
      have hnext : c.draftAfter ("targets" :: seen)
          = { c.draftAfter seen with targets := some c.targets } := by
        simp [draftAfter]
      rw [hnext]
      exact ⟨_, rfl, readsField_fresh (if_neg hseen) skipsBlanks_targetListReader
        (reads_spelledTargets h)⟩
    | packages h =>
      have hnext : c.draftAfter ("packages" :: seen)
          = { c.draftAfter seen with packages := some c.packages } := by
        simp [draftAfter]
      rw [hnext]
      exact ⟨_, rfl, readsField_fresh (if_neg hseen) (skipsBlanks_map _)
        (reads_spelledPackages h)⟩
  other := by
    intro seen name hname
    simp only [fieldNames, List.mem_cons, List.not_mem_nil, or_false, not_or] at hname
    obtain ⟨htargets, hpackages⟩ := hname
    simp [fields, draftAfter, htargets, hpackages, Ne.symm htargets, Ne.symm hpackages]

theorem catalog_draftAfter {c : Catalog} {seen : List String}
    (h : ∀ name ∈ fieldNames, name ∉ seen → c.Omits name) : (c.draftAfter seen).catalog = c := by
  have htargets := getD_of_seen fun hseen => (h "targets" (by decide) hseen).1 rfl
  have hpackages := getD_of_seen fun hseen => (h "packages" (by decide) hseen).2 rfl
  simp only [draftAfter, Draft.catalog, htargets, hpackages]

theorem reads_spelled {c : Catalog} {text : List Char} (h : c.Spells text) :
    Reads Catalog.reader text c := by
  refine reads_spelledRecord c.tracks_draftAfter rfl (fun seen hseen => ?_) h
  rw [catalog_draftAfter hseen]

theorem ofJson_of_spells {c : Catalog} {text : String} (h : SpellsDocument c.Spells text.toList) :
    ofJson text = .ok c :=
  decode_of_spelled skipsBlanks_record (fun _ => reads_spelled) h

theorem load_of_content {c : Catalog} {m : Machine} {path text : String}
    (hcontent : m.content path = .ok (Text.encode text)) (h : ofJson text = .ok c) :
    load path m = .ok c m := by
  have hread := Machine.readText_of_content hcontent
  unfold load
  rw [Machine.Action.bind_of_ok (Machine.explain_of_ok hread), h]
  rfl

/-! ## A catalog written by hand -/

/-- A catalog of a broken package and of one that nothing is known of. -/
def twoPackages : Catalog :=
  ⟨none, SortedMap.ofList [("zlib", ⟨none, true, none⟩), ("alsa-lib", .plain)]⟩

def notesText : String :=
  "[-1.5e2, \"\\ud800\"]"

def packagesText : String :=
  "\x7b\"\\u007Alib\" :\x7b\"broken\":true\x7d,\"alsa-lib\":\x7b\x7d\x7d"

/-- A text of these packages, with a field that catalogs do not have. -/
def handWritten : String :=
  " \x7b\"notes\":" ++ notesText ++ ",\n\"packages\":" ++ packagesText ++ "\x7d "

theorem isJson_notesText : IsJson notesText.toList := by
  have hspace : IsBlank [' '] := by simp [IsBlank]
  have hnumber : IsNumber (['-'] ++ (['1'] ++ ('.' :: ['5'] ++ 'e' :: ([] ++ ['2'])))) :=
    .mk (.inr rfl) (.digits (by simp [IsDigits]) nofun) (.digits (by simp [IsDigits]))
      (.digits (.inl rfl) (.inl rfl) (by simp [IsDigits]))
  have hquad : Quad ['d', '8', '0', '0'] 0xD800 := quad_of rfl rfl rfl rfl rfl
  have hstring : IsString ('"' :: ('\\' :: 'u' :: (['d', '8', '0', '0'] ++ []) ++ ['"'])) :=
    .mk (.digits hquad .nil)
  have hlast : Members (fun (_ : Unit) => IsValue 0) [()] _ :=
    .last hspace (IsScalar.string hstring) isBlank_nil
  have hboth : Members (fun (_ : Unit) => IsValue 0) [(), ()] _ :=
    .more isBlank_nil (IsScalar.number hnumber) isBlank_nil hlast
  exact ⟨1, .inr (.inl ⟨_, Bracketed.mk hboth⟩)⟩

theorem field_written (key : String) (value : List Char) :
    SpellsField (key, value) (quote key.toList ++ ([] ++ ':' :: ([] ++ value))) :=
  .mk (spellsString_quote key) isBlank_nil isBlank_nil rfl

theorem spells_broken :
    CatalogEntry.Spells ⟨none, true, none⟩ "\x7b\"broken\":true\x7d".toList := by
  have hmembers := Members.last isBlank_nil (field_written "broken" ['t', 'r', 'u', 'e'])
    isBlank_nil
  refine ⟨_, ⟨by simp, ?_, ?_, ?_⟩, Bracketed.mk hmembers⟩
  · rintro f hf -
    cases List.mem_singleton.1 hf
    exact .broken .yes
  · simp [CatalogEntry.fieldNames, CatalogEntry.Omits]
  · simp [CatalogEntry.fieldNames]

theorem spells_plain : CatalogEntry.Spells .plain "\x7b\x7d".toList := by
  refine ⟨[], ⟨.nil, nofun, ?_, nofun⟩, Bracketed.mk (.none isBlank_nil)⟩
  simp [CatalogEntry.fieldNames, CatalogEntry.Omits, CatalogEntry.plain]

theorem spells_packagesText : SpellsPackages twoPackages.packages packagesText.toList := by
  have hspace : IsBlank [' '] := by simp [IsBlank]
  have hquad : Quad ['0', '0', '7', 'A'] 'z'.toNat := quad_of rfl rfl rfl rfl rfl
  have hchars : SpellsChars "zlib".toList _ :=
    .cons (.digits hquad) (spellsChars_escaped ['l', 'i', 'b'])
  have hzlib := Keyed.mk (SpellsString.mk hchars) hspace isBlank_nil spells_broken
  have halsa := Keyed.mk (spellsString_quote "alsa-lib") isBlank_nil isBlank_nil spells_plain
  have hlast := Members.last isBlank_nil halsa isBlank_nil
  have hboth := Members.more isBlank_nil hzlib isBlank_nil hlast
  exact ⟨_, rfl, Bracketed.mk hboth⟩

theorem spells_handWritten : SpellsDocument twoPackages.Spells handWritten.toList := by
  have hspace : IsBlank [' '] := by simp [IsBlank]
  have hline : IsBlank ['\n'] := by simp [IsBlank]
  have hlast := Members.last hline (field_written "packages" packagesText.toList) isBlank_nil
  have hboth := Members.more isBlank_nil (field_written "notes" notesText.toList) isBlank_nil hlast
  have hrecord : Record fieldNames twoPackages.Tells twoPackages.Omits
      [("notes", notesText.toList), ("packages", packagesText.toList)] := by
    refine ⟨by simp [fieldNames], ?_, ?_, ?_⟩
    · simpa [fieldNames] using Tells.packages spells_packagesText
    · simp [fieldNames, Omits, twoPackages]
    · simpa [fieldNames] using isJson_notesText
  exact ⟨[' '], _, [' '], hspace, ⟨_, hrecord, Bracketed.mk hboth⟩, hspace, by decide⟩

def machineWith (text : String) : Machine :=
  Machine.ofFiles (Machine.FileTree.empty.put ["catalog.json"] (.file (Text.encode text)))

theorem content_machineWith (text : String) :
    (machineWith text).content "catalog.json" = .ok (Text.encode text) :=
  rfl

/-- A catalog is loaded from every text that writes it, be it a text or the content of a file. -/
theorem spelled_catalog_loads {c : Catalog} {text : String}
    (h : SpellsDocument c.Spells text.toList) :
    ofJson text = .ok c ∧
      ∀ (m : Machine) (path : String), m.content path = .ok (Text.encode text) →
        load path m = .ok c m :=
  ⟨ofJson_of_spells h, fun _ _ hcontent => load_of_content hcontent (ofJson_of_spells h)⟩

theorem spelled_catalog_loads_by_hand :
    SpellsDocument twoPackages.Spells handWritten.toList ∧
      load "catalog.json" (machineWith handWritten)
        = .ok twoPackages (machineWith handWritten) :=
  ⟨spells_handWritten,
    (spelled_catalog_loads spells_handWritten).2 _ _ (content_machineWith handWritten)⟩

end Catalog

end CrossShell
