import CrossShell.Proofs.Catalog.Spelling

/-!
Catalogs read back from the JSON text that is written for them.

That text is one of the texts of the catalog, so no two catalogs have one text. A list that is
absent is no field and an empty list is one, so this tells even them apart.
-/

set_option autoImplicit false

namespace CrossShell.Catalog

open Json

/-- A catalog is read back from its compact JSON text. -/
theorem ofJson_compact (c : Catalog) : ofJson c.toJson.compact = .ok c :=
  ofJson_of_spells (spellsDocument_compact c.spells_compact)

theorem toJson_compact_injective {c c' : Catalog} (h : c.toJson.compact = c'.toJson.compact) :
    c = c' := by
  have hc := c.ofJson_compact
  rw [h, c'.ofJson_compact] at hc
  injection hc with heq
  exact heq.symm

/-- A catalog is read back from its JSON text, be it a text or the content of a file, so no two
catalogs have one text: not even two that differ in a list being absent or empty. -/
theorem written_catalog_loads (c : Catalog) :
    ofJson c.toJson.compact = .ok c ∧
      (∀ (m : Machine) (path : String), m.content path = .ok (Text.encode c.toJson.compact) →
        load path m = .ok c m) ∧
      (∀ c' : Catalog, c'.toJson.compact = c.toJson.compact ↔ c' = c) ∧
      ({ c with targets := none } : Catalog).toJson.compact ≠
        ({ c with targets := some [] } : Catalog).toJson.compact ∧
      ∀ (name : String) (entry : CatalogEntry),
        (c.withPackage name { entry with platforms := none }).toJson.compact ≠
          (c.withPackage name { entry with platforms := some [] }).toJson.compact := by
  refine ⟨c.ofJson_compact, fun m path hcontent => load_of_content hcontent c.ofJson_compact,
    fun c' => ⟨toJson_compact_injective, fun h => h ▸ rfl⟩, ?_, ?_⟩
  · intro htext
    have htargets := congrArg Catalog.targets (toJson_compact_injective htext)
    cases htargets
  · intro name entry htext
    have hentries := congrArg (fun c => c.packages.get? name) (toJson_compact_injective htext)
    simp [withPackage] at hentries

/-- A catalog without a list of targets, with one package for no target and one for every target. -/
def mixed : Catalog :=
  ⟨none, SortedMap.ofList
    [("qt\"\n", ⟨some [], false, none⟩), ("zlib", ⟨none, true, some "needs \\"⟩)]⟩

def mixedMachine : Machine :=
  Machine.ofFiles (Machine.FileTree.empty.put ["catalog.json"]
    (.file (Text.encode mixed.toJson.compact)))

theorem written_catalog_loads_mixed :
    mixedMachine.content "catalog.json" = .ok (Text.encode mixed.toJson.compact) ∧
      load "catalog.json" mixedMachine = .ok mixed mixedMachine := by
  have hcontent : mixedMachine.content "catalog.json" = .ok (Text.encode mixed.toJson.compact) := by
    rfl
  exact ⟨hcontent, (written_catalog_loads mixed).2.1 mixedMachine "catalog.json" hcontent⟩

end CrossShell.Catalog
