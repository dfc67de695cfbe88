import CrossShell.Descriptor
import CrossShell.Proofs.Json.RoundTrip
import CrossShell.Proofs.SortedMap
import CrossShell.Proofs.Target

/-!
Descriptors read back from their JSON text.

Every part of a descriptor is read back by the reader of its type: the target through its triple,
the dependencies as records, the variables as a map. A descriptor without variables has no field for
them, and a missing field means no variables.
-/

set_option autoImplicit false

namespace CrossShell

open Json (Reads SkipsBlanks SpellsString spellsString_quote)
open Json.Reader

/-! ## Parts -/

/-- A target is read off each text of its triple. -/
theorem Target.reads_spelled {t : Target} {word : List Char} (h : SpellsString t.triple word) :
    Reads Target.reader word t := by
  intro rest
  unfold Target.reader
  rw [bind_ok (reads_spelledString h rest), Target.parse_triple]
  rfl

theorem Target.reads_reader (t : Target) : Reads Target.reader t.toJson.compactChars t :=
  Target.reads_spelled (spellsString_quote t.triple)

theorem Role.reads_reader (r : Role) : Reads Role.reader (Json.string r.name).compactChars r := by
  apply reads_variant
  cases r <;> decide

theorem skipsBlanks_targetReader : SkipsBlanks Target.reader :=
  skipsBlanks_bind skipsBlanks_text _

namespace Dependency

theorem collects_fields (d : Dependency) :
    Collects fields fields.start
      [("name", (Json.string d.name).compactChars),
        ("role", (Json.string d.role.name).compactChars)]
      ⟨some d.name, some d.role⟩ := by
  refine .known rfl (readsField_fresh rfl skipsBlanks_text (reads_text d.name)) ?_
  refine .known rfl (readsField_fresh rfl (skipsBlanks_variant _) d.role.reads_reader) ?_
  exact .nil _

theorem reads_reader (d : Dependency) : Reads Dependency.reader d.toJson.compactChars d :=
  reads_record d.collects_fields rfl

end Dependency

namespace Descriptor

theorem reads_dependencyList (ds : List Dependency) :
    Reads dependencyList (Json.array (ds.map Dependency.toJson)).compactChars ds :=
  reads_list fun d _ => d.reads_reader

theorem reads_envReader (env : SortedMap String) :
    Reads envReader (envJson env).compactChars env := by
  have h : Reads envReader (envJson env).compactChars (SortedMap.ofList env.entries) :=
    reads_map skipsBlanks_text fun e _ => reads_text e.2
  rw [SortedMap.ofList_entries] at h
  exact h

/-! ## Whole descriptors -/

/-- The variables that a descriptor has a field for. -/
def envField? (d : Descriptor) : Option (SortedMap String) :=
  if d.env.isEmpty then none else some d.env

theorem getD_envField? (d : Descriptor) : d.envField?.getD SortedMap.empty = d.env := by
  unfold envField?
  split
  · next h =>
    have hnil : d.env.entries = [] := List.isEmpty_iff.1 h
    exact SortedMap.eq_of_entries hnil.symm
  · rfl

theorem collects_env (d : Descriptor) (draft : Draft) (h : draft.env = none) :
    Collects fields draft
      ((if d.env.isEmpty then [] else [("env", envJson d.env)]).map
        fun f => (f.1, f.2.compactChars))
      { draft with env := d.envField? } := by
  obtain ⟨target, natives, builds, env⟩ := draft
  simp only at h
  subst h
  unfold envField?
  split
  · exact .nil _
  · refine .known rfl (readsField_fresh rfl (skipsBlanks_map _) (reads_envReader d.env)) ?_
    exact .nil _

theorem collects_fields (d : Descriptor) :
    Collects fields fields.start
      (([("target", d.target.toJson),
        ("native_build_inputs", .array (d.nativeBuildInputs.map Dependency.toJson)),
        ("build_inputs", .array (d.buildInputs.map Dependency.toJson))]
        ++ if d.env.isEmpty then [] else [("env", envJson d.env)]).map
          fun f => (f.1, f.2.compactChars))
      ⟨some d.target, some d.nativeBuildInputs, some d.buildInputs, d.envField?⟩ := by
  have hlist : SkipsBlanks dependencyList := skipsBlanks_list _
  rw [List.map_append]
  refine .known rfl (readsField_fresh rfl skipsBlanks_targetReader d.target.reads_reader) ?_
  refine .known rfl (readsField_fresh rfl hlist (reads_dependencyList d.nativeBuildInputs)) ?_
  refine .known rfl (readsField_fresh rfl hlist (reads_dependencyList d.buildInputs)) ?_
  exact d.collects_env ⟨some d.target, some d.nativeBuildInputs, some d.buildInputs, none⟩ rfl

theorem finish_fields (d : Descriptor) :
    finish ⟨some d.target, some d.nativeBuildInputs, some d.buildInputs, d.envField?⟩ = pure d := by
  have henv := d.getD_envField?
  show (pure ⟨d.target, d.nativeBuildInputs, d.buildInputs, _⟩ : Json.Reader Descriptor) = pure d
  rw [henv]

theorem reads_reader (d : Descriptor) : Reads Descriptor.reader d.toJson.compactChars d :=
  reads_record d.collects_fields d.finish_fields

/-- A descriptor is read back from its compact JSON text. -/
theorem decode_compact (d : Descriptor) :
    Json.decode Descriptor.reader d.toJson.compact = .ok d := by
  apply Json.decode_of_reads
  rw [Json.compact, String.toList_ofList]
  exact d.reads_reader

theorem toJson_compact_injective {d d' : Descriptor} (h : d.toJson.compact = d'.toJson.compact) :
    d = d' := by
  have hd := d.decode_compact
  rw [h, d'.decode_compact] at hd
  injection hd with heq
  exact heq.symm

/-- Decoding the JSON text of a descriptor, which is the text that its digest is taken of, gives the
descriptor back. So no two descriptors have one text. -/
theorem json_round_trip (d : Descriptor) :
    Json.decode Descriptor.reader d.toJson.compact = .ok d ∧
      d.digest = Digest.ofText d.toJson.compact ∧
      ∀ d' : Descriptor, d'.toJson.compact = d.toJson.compact ↔ d' = d := by
  refine ⟨d.decode_compact, rfl, fun d' => ⟨toJson_compact_injective, ?_⟩⟩
  rintro rfl
  rfl

end Descriptor

end CrossShell
