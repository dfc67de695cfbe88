import CrossShell.Proofs.Config.Load
import CrossShell.Proofs.Config.Shape
import CrossShell.Proofs.Outcome
import CrossShell.Proofs.Script.Sound
import CrossShell.Proofs.Script.Store

/-!
The lists of packages in the table that a script answers.

A list is read up to its length, and the length of a table is a border. So what is read are the
items from the first one up to the first number without one, and each of them is a text. Whatever
else a table has is not looked at: what is under another key gets lost, and nobody is told.
-/

set_option autoImplicit false

namespace CrossShell.Config

open Script (Store Table Value)

variable {s : Store} {t : Table} {address : Nat} {around : List Nat} {names : List String}
  {v : Value} {draft draft' : Draft}

/-! ## Reading an item -/

theorem decodeText_eq_ok {text : String} : decodeText s v = .ok text ↔ v = .ofText text := by
  constructor
  · intro h
    cases v with
    | string bytes =>
      have hdecoded : Text.decode? (ByteArray.mk bytes.toArray) = some text := by
        cases hbytes : Text.decode? (ByteArray.mk bytes.toArray) with
        | none => simp only [decodeText, decodeString, hbytes] at h; cases h
        | some text' =>
          simp only [decodeText, decodeString, hbytes] at h
          cases h
          rfl
      have hencoded := Text.encode_of_decode? hdecoded
      rw [← Text.mk_bytesOf] at hencoded
      have harray := congrArg (fun b => b.data.toList) hencoded
      exact congrArg Value.string harray.symm
    | _ => cases h
  · rintro rfl
    exact decodeText_ofText s text

/-- What a list of texts is read from: the texts under the numbers from one on. -/
def itemOf (names : List String) (i : Nat) : Value :=
  (names[i]?.map .ofText).getD .nil

theorem itemOf_of_lt {i : Nat} (h : i < names.length) : itemOf names i = .ofText names[i] := by
  unfold itemOf
  rw [List.getElem?_eq_getElem h]
  rfl

theorem itemOf_of_le {i : Nat} (h : names.length ≤ i) : itemOf names i = .nil := by
  unfold itemOf
  rw [List.getElem?_eq_none h]
  rfl

/-! ## Reading a list -/

/-- What is read of a list has its length, and at each place the text of the item there. -/
theorem decodeList_eq_ok (hs : s.IsSound) :
    decodeList s around (.table address) = .ok names ↔
      names.length = (s.tableAt address).length ∧
        ∀ i, i < names.length → (s.tableAt address).item (i + 1) = itemOf names i := by
  have hborder := Table.isBorder_border (hs.tableAt address)
  have hitem : ∀ i, i < (s.tableAt address).length →
      (s.tableAt address).get (.integer (Int64.ofNat (i + 1)))
        = (s.tableAt address).item (i + 1) := by
    intro i hi
    have hlast : (s.tableAt address).length ≤ Table.lastNumber := by
      obtain hzero | hreached := hborder.reached
      · exact absurd hi (by rw [Table.length, hzero]; exact Nat.not_lt_zero i)
      · exact Table.le_lastNumber hreached
    rw [Table.item, if_pos (Nat.le_trans hi hlast)]
  have hread : ∀ (item : Value) (name : String), (do
      refuseRecursion (address :: around) item
      decodeText s item) = .ok name ↔ item = .ofText name := by
    intro item name
    rw [← decodeText_eq_ok (s := s)]
    constructor
    · intro h
      cases hflat : refuseRecursion (address :: around) item with
      | error e => rw [hflat] at h; cases h
      | ok _ => rwa [hflat] at h
    · intro h
      rw [decodeText_eq_ok.1 h, refuseRecursion_ofText, ← decodeText_eq_ok.1 h]
      exact h
  have hrange : (List.range (s.tableAt address).length).length = (s.tableAt address).length :=
    List.length_range
  show (List.range (s.tableAt address).length).mapM _ = _ ↔ _
  rw [mapM_eq_ok, List.forall₂_iff_get]
  constructor
  · rintro ⟨hlength, hall⟩
    refine ⟨by omega, fun i hi => ?_⟩
    have hname := (hread _ _).1 (hall i (by omega) hi)
    rw [List.get_eq_getElem, List.get_eq_getElem, List.getElem_range] at hname
    rw [itemOf_of_lt hi, ← hname, hitem i (by omega)]
  · rintro ⟨hlength, hall⟩
    refine ⟨by omega, fun i hi hi' => (hread _ _).2 ?_⟩
    rw [List.get_eq_getElem, List.get_eq_getElem, List.getElem_range, hitem i (by omega),
      hall i hi', itemOf_of_lt hi']

/-- The texts are the items of a table up to the first number that has none. -/
def Lists (t : Table) (names : List String) : Prop :=
  ∀ i, i ≤ names.length → t.item (i + 1) = itemOf names i

theorem lists_of_decodeList (hs : s.IsSound)
    (h : decodeList s around (.table address) = .ok names) :
    Lists (s.tableAt address) names := by
  obtain ⟨hlength, hall⟩ := (decodeList_eq_ok hs).1 h
  intro i hi
  obtain rfl | hlt := Nat.eq_or_lt_of_le hi
  · have hmissing := (Table.isBorder_border (hs.tableAt address)).missing
    rw [itemOf_of_le (Nat.le_refl _), hlength]
    exact Table.hasItem_eq_false.1 hmissing
  · exact hall i hlt

/-- A table whose items are the texts and no others is read as these, whatever it has under keys
that are no numbers of items. -/
theorem decodeList_of_items (hs : s.IsSound)
    (h : ∀ i, (s.tableAt address).item (i + 1) = itemOf names i) :
    decodeList s around (.table address) = .ok names := by
  have hlength : (s.tableAt address).length = names.length := by
    refine Table.length_of_items (hs.tableAt address) fun m hm => ?_
    obtain ⟨i, rfl⟩ := Nat.exists_eq_succ_of_ne_zero (Nat.ne_of_gt hm)
    rw [Table.hasItem_iff, h i]
    constructor
    · intro hthere
      exact Nat.lt_of_not_le fun hle => hthere (itemOf_of_le hle)
    · intro hlt
      rw [itemOf_of_lt hlt]
      exact Value.ofText_ne_nil _
  exact (decodeList_eq_ok hs).2 ⟨hlength.symm, fun i _ => h i⟩

/-! ## Reading the fields -/

/-- The field with the packages of a role. -/
def fieldOf : Role → String
  | .nativeBuildInput => "native_build_inputs"
  | .buildInput => "build_inputs"

/-- The packages of a role that were read so far. -/
def Draft.namesOf (draft : Draft) : Role → List String
  | .nativeBuildInput => draft.nativeBuildInputs
  | .buildInput => draft.buildInputs

/-- The packages of a role. -/
def namesOf (c : Config) : Role → List String
  | .nativeBuildInput => c.nativeBuildInputs
  | .buildInput => c.buildInputs

theorem decodeFieldName_fieldOf (role : Role) :
    decodeFieldName s (.ofText (fieldOf role)) = .ok (fieldOf role) := by
  cases role
  · exact decodeFieldName_ofText (by decide +kernel)
  · exact decodeFieldName_ofText (by decide +kernel)

theorem decodeFieldName_eq_fieldOf {key : Value} {role : Role}
    (h : decodeFieldName s key = .ok (fieldOf role)) : key = .ofText (fieldOf role) := by
  cases key with
  | string bytes =>
    have hall : (fieldOf role).toList.all (fun c => c.toNat != 0 && decide (c.toNat < 0x80)) := by
      cases role <;> decide +kernel
    have hplain : ∀ c ∈ (fieldOf role).toList, Text.IsPlain c := by
      intro c hc
      have hc := List.all_eq_true.1 hall c hc
      rw [Bool.and_eq_true, bne_iff_ne, decide_eq_true_iff] at hc
      exact hc
    have hown : Script.Literal.bytesOf (fieldOf role).toList
        = (fieldOf role).toList.map fun c => UInt8.ofNat c.toNat := by
      cases role <;> decide +kernel
    have hbytes := Text.bytes_of_decodeLossy hplain (Except.ok.inj h)
    rw [hbytes, ← hown]
    rfl
  | _ => cases h

/-- A field changes the packages of its own role, if it is one for packages, and no others. -/
theorem decodeField_namesOf {key : Value} (h : decodeField s address draft (key, v) = .ok draft')
    (role : Role) :
    (key = .ofText (fieldOf role) ∧ decodeList s [address] v = .ok (draft'.namesOf role)) ∨
      (key ≠ .ofText (fieldOf role) ∧ draft'.namesOf role = draft.namesOf role) := by
  obtain ⟨_, -, h⟩ := bind_eq_ok h
  obtain ⟨_, -, h⟩ := bind_eq_ok h
  obtain ⟨name, hname, h⟩ := bind_eq_ok h
  have hother : name ≠ fieldOf role → key ≠ .ofText (fieldOf role) := by
    rintro hne rfl
    rw [decodeFieldName_fieldOf] at hname
    exact hne (Except.ok.inj hname).symm
  split at h
  · obtain ⟨text, -, h⟩ := bind_eq_ok h
    cases h
    cases role <;> exact .inr ⟨hother (by decide), rfl⟩
  · obtain ⟨read, hread, h⟩ := bind_eq_ok h
    cases h
    cases role
    · exact .inl ⟨decodeFieldName_eq_fieldOf hname, hread⟩
    · exact .inr ⟨hother (by decide), rfl⟩
  · obtain ⟨read, hread, h⟩ := bind_eq_ok h
    cases h
    cases role
    · exact .inr ⟨hother (by decide), rfl⟩
    · exact .inl ⟨decodeFieldName_eq_fieldOf hname, hread⟩
  · obtain ⟨env, -, h⟩ := bind_eq_ok h
    cases h
    cases role <;> exact .inr ⟨hother (by decide), rfl⟩
  · obtain ⟨text, -, h⟩ := bind_eq_ok h
    cases h
    cases role <;> exact .inr ⟨hother (by decide), rfl⟩
  · cases h

/-- What the entries of a table make of a field with packages. Without the field there are none.
With it there is a table, and the packages are its items up to the first gap. -/
structure ReadsField (s : Store) (entries : List (Value × Value)) (field : String)
    (names : List String) : Prop where
  absent : (∀ v, (.ofText field, v) ∉ entries) → names = []
  table : ∀ v, (.ofText field, v) ∈ entries →
    ∃ inner names', v = .table inner ∧ Lists (s.tableAt inner) names'
  present : ∀ v, (.ofText field, v) ∈ entries →
    ∃ inner, (.ofText field, .table inner) ∈ entries ∧ Lists (s.tableAt inner) names

theorem exists_table_of_decodeList (hs : s.IsSound) (h : decodeList s around v = .ok names) :
    ∃ inner, v = .table inner ∧ Lists (s.tableAt inner) names := by
  cases v with
  | table inner => exact ⟨inner, rfl, lists_of_decodeList hs h⟩
  | _ => cases h

/-- Reading entries keeps the packages of a role until the field of that role is met, and has those
of the field that was met last from then on. -/
theorem foldlM_decodeField (hs : s.IsSound) {entries : List (Value × Value)}
    (h : entries.foldlM (decodeField s address) draft = .ok draft') (role : Role) :
    (∀ v, (.ofText (fieldOf role), v) ∈ entries →
      ∃ inner names, v = .table inner ∧ Lists (s.tableAt inner) names) ∧
    ((∀ v, (.ofText (fieldOf role), v) ∉ entries) ∧ draft'.namesOf role = draft.namesOf role ∨
      ∃ inner, (.ofText (fieldOf role), .table inner) ∈ entries ∧
        Lists (s.tableAt inner) (draft'.namesOf role)) := by
  induction entries generalizing draft with
  | nil =>
    cases h
    exact ⟨fun v hv => absurd hv List.not_mem_nil, .inl ⟨fun v => List.not_mem_nil, rfl⟩⟩
  | cons entry rest ih =>
    obtain ⟨key, v⟩ := entry
    rw [List.foldlM_cons] at h
    obtain ⟨middle, hfirst, hrest⟩ := bind_eq_ok h
    obtain ⟨htables, hread⟩ := ih hrest
    obtain ⟨rfl, hlist⟩ | ⟨hkey, hkept⟩ := decodeField_namesOf hfirst role
    · obtain ⟨inner, rfl, hlists⟩ := exists_table_of_decodeList hs hlist
      constructor
      · intro w hw
        obtain hhere | hlater := List.mem_cons.1 hw
        · exact ⟨inner, _, congrArg Prod.snd hhere, hlists⟩
        · exact htables w hlater
      · obtain ⟨-, hsame⟩ | ⟨inner', hmem, hlists'⟩ := hread
        · rw [hsame]
          exact .inr ⟨inner, List.mem_cons_self, hlists⟩
        · exact .inr ⟨inner', List.mem_cons_of_mem _ hmem, hlists'⟩
    · have hnot : ∀ w, (Value.ofText (fieldOf role), w) ≠ (key, v) :=
        fun w heq => hkey (congrArg Prod.fst heq).symm
      constructor
      · intro w hw
        exact htables w ((List.mem_cons.1 hw).resolve_left (hnot w))
      · obtain ⟨habsent, hsame⟩ | ⟨inner, hmem, hlists⟩ := hread
        · refine .inl ⟨fun w hw => ?_, hsame.trans hkept⟩
          exact habsent w ((List.mem_cons.1 hw).resolve_left (hnot w))
        · exact .inr ⟨inner, List.mem_cons_of_mem _ hmem, hlists⟩

theorem ofTable_eq_ok {c : Config} (h : ofTable s address = .ok c) :
    ∃ draft, (s.tableAt address).entries.foldlM (decodeField s address) Draft.start = .ok draft ∧
      ∀ role, c.namesOf role = draft.namesOf role := by
  obtain ⟨draft, hfold, hfinish⟩ := bind_eq_ok h
  refine ⟨draft, hfold, fun role => ?_⟩
  cases htarget : draft.target with
  | none => rw [htarget] at hfinish; cases hfinish
  | some target =>
    rw [htarget] at hfinish
    cases hfinish
    cases role <;> rfl

theorem readsField_of_ofTable {c : Config} (hs : s.IsSound) (h : ofTable s address = .ok c)
    (role : Role) :
    ReadsField s (s.tableAt address).entries (fieldOf role) (c.namesOf role) := by
  obtain ⟨draft, hfold, hnames⟩ := ofTable_eq_ok h
  obtain ⟨htables, hread⟩ := foldlM_decodeField hs hfold role
  rw [hnames role]
  refine ⟨fun habsent => ?_, htables, fun v hv => ?_⟩
  · obtain ⟨-, hsame⟩ | ⟨inner, hmem, -⟩ := hread
    · rw [hsame]
      cases role <;> rfl
    · exact absurd hmem (habsent _)
  · obtain ⟨habsent, -⟩ | hpresent := hread
    · exact absurd hv (habsent v)
    · exact hpresent

/-! ## Scripts -/

/-- Of every script that answers a config, each list of packages is what the field's table has up to
the first number without an item, and there is no list only if there is no field. A table whose
items have no gap is read as all of them, whatever else it has; what that is gets lost. -/
theorem lists_read_to_first_gap (name source : String) (m : Machine) :
    (∀ c m', ofSource Script.interpreter name source m = .ok c m' →
      ∃ address s, Script.evaluate source (startStore m.host) m = .ok (.table address, s) m' ∧
        ∀ role, ReadsField s (s.tableAt address).entries (fieldOf role) (c.namesOf role)) ∧
    ∀ v s m', Script.evaluate source (startStore m.host) m = .ok (v, s) m' →
      ∀ (address : Nat) (around : List Nat) (names : List String),
        (∀ i, (s.tableAt address).item (i + 1) = itemOf names i) →
          decodeList s around (.table address) = .ok names := by
  constructor
  · intro c m' h
    obtain ⟨address, s, heval, htable⟩ := ofSource_eq_ok h
    have hs := Script.isSound_of_evaluate (isSound_startStore m.host) heval
    exact ⟨address, s, heval, readsField_of_ofTable hs htable⟩
  · intro v s m' heval address around names hitems
    have hs := Script.isSound_of_evaluate (isSound_startStore m.host) heval
    exact decodeList_of_items hs hitems

/-- A script that names one of the packages for the target. -/
def namingScript : String :=
  "return \x7b target = 'aarch64-apple-darwin', build_inputs = \x7b 'zlib', audio = 'alsa' \x7d \x7d"

/-- The table that the script makes of them. -/
def namingTable : Table :=
  ⟨[.ofText "zlib"], 1, [⟨.ofText "audio", .ofText "alsa", none⟩], 1⟩

theorem item_namingTable (i : Nat) : namingTable.item (i + 1) = itemOf ["zlib"] i := by
  cases i with
  | zero => decide +kernel
  | succ i =>
    rw [itemOf_of_le (Nat.le_add_left 1 i)]
    unfold Table.item
    split
    next hlast =>
      have hnumber : (Int64.ofNat (i + 1 + 1)).toInt = Int.ofNat (i + 1 + 1) := by
        refine Int64.toInt_ofNat_of_lt (Nat.lt_of_le_of_lt hlast ?_)
        decide
      have hslot : namingTable.slotOf? (.integer (Int64.ofNat (i + 1 + 1))) = none := by
        have hone : namingTable.slots.length = 1 := rfl
        refine if_neg fun hin => ?_
        rw [hnumber, hone] at hin
        have hle : i + 1 + 1 ≤ 1 := Int.ofNat_le.1 hin.2
        omega
      have hnode : namingTable.nodeOf? (.integer (Int64.ofNat (i + 1 + 1))) = none := by
        have hhome : Table.home 1 (.integer (Int64.ofNat (i + 1 + 1))) = 0 := Nat.mod_one _
        show Table.findFrom _ _ 1 (Table.home 1 _) = none
        rw [hhome]
        rfl
      have hkey : (Value.integer (Int64.ofNat (i + 1 + 1))).asKey
          = .integer (Int64.ofNat (i + 1 + 1)) := rfl
      simp only [Table.get, hkey, hslot, hnode]
    next => rfl

/-- A machine of which nothing is known. -/
def unknownMachine : Machine :=
  Machine.ofFiles Machine.FileTree.empty

/-- What the script does: it answers a config without the named package, which its table has. -/
theorem exists_naming : ∃ c s m₁ m₂,
    ofSource Script.interpreter "shell.lua" namingScript unknownMachine = .ok c m₁ ∧
    Script.evaluate namingScript (startStore none) unknownMachine = .ok (.table 12, s) m₂ ∧
    c.buildInputs = ["zlib"] ∧
    (.ofText "build_inputs", .table 11) ∈ (s.tableAt 12).entries ∧
    s.tableAt 11 = namingTable := by
  have hanswer : Machine.answers (ofSource Script.interpreter "shell.lua" namingScript)
      unknownMachine (fun c => decide (c.buildInputs = ["zlib"])) = true := by decide +kernel
  have hstore : Machine.answers (Script.evaluate namingScript (startStore none)) unknownMachine
      (fun (v, s) => decide (v = .table 12 ∧
        (Value.ofText "build_inputs", Value.table 11) ∈ (s.tableAt 12).entries ∧
          s.tableAt 11 = namingTable)) = true := by decide +kernel
  obtain ⟨c, m₁, hscript, hnames⟩ := Machine.exists_ok_of_answers hanswer
  obtain ⟨⟨v, s⟩, m₂, heval, hfound⟩ := Machine.exists_ok_of_answers hstore
  obtain ⟨rfl, hentry, htable⟩ := of_decide_eq_true hfound
  exact ⟨c, s, m₁, m₂, hscript, heval, of_decide_eq_true hnames, hentry, htable⟩

/-- The items of the script's table have no gap, so they are read in spite of the named package. -/
theorem lists_read_to_first_gap_naming :
    (∃ c address s m',
      ofSource Script.interpreter "shell.lua" namingScript unknownMachine = .ok c m' ∧
        Script.evaluate namingScript (startStore none) unknownMachine
          = .ok (.table address, s) m' ∧
        ReadsField s (s.tableAt address).entries "build_inputs" c.buildInputs) ∧
    ∃ s m', Script.evaluate namingScript (startStore none) unknownMachine
        = .ok (.table 12, s) m' ∧
      (∀ i, (s.tableAt 11).item (i + 1) = itemOf ["zlib"] i) ∧
        decodeList s [] (.table 11) = .ok ["zlib"] := by
  obtain ⟨c, s, m₁, m₂, hscript, heval, -, -, htable⟩ := exists_naming
  obtain ⟨hread, hitems⟩ := lists_read_to_first_gap "shell.lua" namingScript unknownMachine
  constructor
  · obtain ⟨address, s', heval', hfields⟩ := hread c m₁ hscript
    exact ⟨c, address, s', m₁, hscript, heval', hfields .buildInput⟩
  · have hnaming : ∀ i, (s.tableAt 11).item (i + 1) = itemOf ["zlib"] i := by
      rw [htable]
      exact item_namingTable
    exact ⟨s, m₂, heval, hnaming, hitems _ _ _ heval 11 [] ["zlib"] hnaming⟩

/-- A package under a name of its own is in the table of the field and not in the config. -/
theorem named_package_is_dropped : ∃ c s m₁ m₂,
    ofSource Script.interpreter "shell.lua" namingScript unknownMachine = .ok c m₁ ∧
    Script.evaluate namingScript (startStore none) unknownMachine = .ok (.table 12, s) m₂ ∧
    (.ofText "build_inputs", .table 11) ∈ (s.tableAt 12).entries ∧
    (.ofText "audio", .ofText "alsa") ∈ (s.tableAt 11).entries ∧ "alsa" ∉ c.buildInputs := by
  obtain ⟨c, s, m₁, m₂, hscript, heval, hnames, hentry, htable⟩ := exists_naming
  refine ⟨c, s, m₁, m₂, hscript, heval, hentry, ?_, ?_⟩
  · rw [htable]
    decide +kernel
  · rw [hnames]
    decide

end CrossShell.Config
