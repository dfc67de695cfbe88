import CrossShell.Config.Load
import CrossShell.Proofs.Config.Shape
import CrossShell.Proofs.Machine.Action
import CrossShell.Proofs.Script.Grammar
import CrossShell.Proofs.Script.Store
import CrossShell.Proofs.Script.Token
import CrossShell.Proofs.Target
import CrossShell.Starter

/-!
The config that the starter script answers.

The script is followed from its characters to the config: the pieces of its text give its tokens,
these are read as one table to answer, the table is laid out with its three fields, and the fields
are read off again. Only the target differs from script to script, and it is a string without
quotes, escapes and line ends.
-/

set_option autoImplicit false

namespace CrossShell.Starter

open Script

/-! ## Tokens -/

/-- The string of a text, as a token. -/
def stringToken (text : String) : Token :=
  .string (Literal.bytesOf text.toList)

/-- The tokens of the script's last field and of the end of its table. -/
def buildTokens : List Token :=
  [.name "build_inputs", .symbol .assign, .symbol .braceOpen, .symbol .braceClose, .symbol .comma,
   .symbol .braceClose]

/-- The tokens of the list of packages after its opening brace, and those that follow them. -/
def packageTokens (ts : List Token) : List Token :=
  stringToken "gcc" :: .symbol .comma :: stringToken "pkg-config" :: .symbol .braceClose :: ts

/-- The tokens from the second field on. -/
def nativeTokens : List Token :=
  .name "native_build_inputs" :: .symbol .assign :: .symbol .braceOpen ::
    packageTokens (.symbol .comma :: buildTokens)

/-- The tokens of the script's table after its opening brace. -/
def tableTokens (target : String) : List Token :=
  .name "target" :: .symbol .assign :: stringToken target :: .symbol .comma :: nativeTokens

/-- The tokens of the script. -/
def scriptTokens (target : String) : List Token :=
  .word "return" :: .symbol .braceOpen :: tableTokens target

/-- The line of the script that names the target. -/
theorem lexes_targetField {target : String} (hreturn : '\r' ∉ target.toList)
    (hplain : ∀ c ∈ target.toList, c ≠ '"' ∧ c ≠ '\n' ∧ c ≠ '\\') :
    Lexes ("  target = \"".toList ++ target.toList ++ "\",\n".toList)
      [.name "target", .symbol .assign, stringToken target, .symbol .comma] := by
  have hkey : Lexes "  target = ".toList [.name "target", .symbol .assign] :=
    .ofList ⟨by decide, 6, by decide, fun _ _ => rfl⟩
  have hstring : Lexes (['"'] ++ target.toList ++ ['"']) [stringToken target] :=
    .string hreturn hplain
  have hcomma : Lexes ",\n".toList [.symbol .comma] :=
    .ofList ⟨by decide, 2, by decide, fun _ _ => rfl⟩
  have hopening : "  target = \"".toList = "  target = ".toList ++ ['"'] := by decide
  have hclosing : "\",\n".toList = ['"'] ++ ",\n".toList := by decide
  have hline : Lexes _ [.name "target", .symbol .assign, stringToken target, .symbol .comma] :=
    hkey.append (hstring.append hcomma)
  rw [hopening, hclosing]
  simpa only [List.append_assoc] using hline

theorem lexes_scriptWith {target : String} (hreturn : '\r' ∉ target.toList)
    (hplain : ∀ c ∈ target.toList, c ≠ '"' ∧ c ≠ '\n' ∧ c ≠ '\\') :
    Lexes (scriptWith target).toList (scriptTokens target) := by
  have hcomment₁ : Lexes "-- crossenv shell definition\n".toList [] :=
    .ofList (.comment (by decide) (by decide) (by decide) (by decide))
  have hcomment₂ : Lexes "--\n".toList [] :=
    .ofList (.comment (by decide) (by decide) (by decide) (by decide))
  have hcomment₃ : Lexes
      "-- native_build_inputs run on the build machine (compilers, pkg-config).\n".toList [] :=
    .ofList (.comment (by decide) (by decide) (by decide) (by decide))
  have hcomment₄ : Lexes
      "-- build_inputs are built for the target (libraries you link against).\n".toList [] :=
    .ofList (.comment (by decide) (by decide) (by decide) (by decide))
  have hopen : Lexes "return \x7b\n".toList [.word "return", .symbol .braceOpen] :=
    .ofList ⟨by decide, 4, by decide, fun _ _ => rfl⟩
  have hnatives : Lexes
      "  native_build_inputs = \x7b \"gcc\", \"pkg-config\" \x7d,\n".toList
      [.name "native_build_inputs", .symbol .assign, .symbol .braceOpen, stringToken "gcc",
        .symbol .comma, stringToken "pkg-config", .symbol .braceClose, .symbol .comma] :=
    .ofList ⟨by decide, 16, by decide, fun _ _ => rfl⟩
  have hbuilds : Lexes "  build_inputs = \x7b\x7d,\n".toList
      [.name "build_inputs", .symbol .assign, .symbol .braceOpen, .symbol .braceClose,
        .symbol .comma] :=
    .ofList ⟨by decide, 10, by decide, fun _ _ => rfl⟩
  have hclose : Lexes "\x7d\n".toList [.symbol .braceClose] :=
    .ofList ⟨by decide, 2, by decide, fun _ _ => rfl⟩
  have hscript : Lexes _ (scriptTokens target) :=
    hcomment₁.append (hcomment₂.append (hcomment₃.append (hcomment₄.append (hopen.append
      ((lexes_targetField hreturn hplain).append (hnatives.append (hbuilds.append hclose)))))))
  unfold scriptWith
  simpa only [String.toList_append, List.append_assoc] using hscript

section Plain

variable (t : Target)

theorem lexes_script : Lexes (script t).toList (scriptTokens t.triple) := by
  have hreturn : '\r' ∉ Target.tripleChars := by decide
  have hplain : ∀ c ∈ Target.tripleChars, decide (c ≠ '"' ∧ c ≠ '\n' ∧ c ≠ '\\') = true :=
    List.all_eq_true.1 (by decide)
  have hchars := Target.mem_tripleChars t.isTripleText_triple
  exact lexes_scriptWith (fun hmem => hreturn (hchars _ hmem))
    fun c hc => of_decide_eq_true (hplain c (hchars c hc))

theorem tokens_script : tokens (script t).toList = scriptTokens t.triple :=
  (lexes_script t).tokens

theorem tokens_return_script :
    tokens ("return ".toList ++ (script t).toList) = .word "return" :: scriptTokens t.triple := by
  have hreturn : Lexes "return ".toList [.word "return"] :=
    .ofList ⟨by decide, 2, by decide, fun _ _ => rfl⟩
  exact (hreturn.append (lexes_script t)).tokens

end Plain

/-! ## The program -/

/-- The string of a text, as an expression. -/
def stringOf (text : String) : Expr :=
  .string (Literal.bytesOf text.toList)

/-- The names of the packages that the script asks for. -/
def nativeNames : List String :=
  ["gcc", "pkg-config"]

/-- The table that the script answers. -/
def scriptTable (target : String) : Expr :=
  .table [(some (stringOf "target"), stringOf target),
    (some (stringOf "native_build_inputs"),
      .table (nativeNames.map fun name => (none, stringOf name))),
    (some (stringOf "build_inputs"), .table [])]

section Reading

open Parser

variable {ts : List Token} {depth places fuel : Nat}

theorem expression_packages (hdepth : depth + 2 < depthLimit) (hplaces : places + 3 < placeLimit)
    (hgood : ts.head? ≠ some .bad) (hend : ts.head?.bind binary? = none) :
    expression (fuel + 8) 0 ⟨.symbol .braceOpen :: packageTokens ts, depth, places, []⟩ =
      .ok (⟨.table (nativeNames.map fun name => (none, stringOf name)), .place⟩,
        ⟨ts, depth, places + 1, []⟩) := by
  have hgcc : entry (fuel + 4) ⟨packageTokens ts, depth + 1, places + 1, []⟩ =
      .ok ((none, stringOf "gcc"),
        ⟨.symbol .comma :: stringToken "pkg-config" :: .symbol .braceClose :: ts,
          depth + 1, places + 2, []⟩) :=
    entry_string (by omega) (by omega) (head?_ne nofun) rfl
  have hconfig : entry (fuel + 3)
      ⟨stringToken "pkg-config" :: .symbol .braceClose :: ts, depth + 1, places + 2, []⟩ =
      .ok ((none, stringOf "pkg-config"),
        ⟨.symbol .braceClose :: ts, depth + 1, places + 3, []⟩) :=
    entry_string (by omega) (by omega) (head?_ne nofun) rfl
  have hlast : entries (fuel + 4) (places + 1) 1
      ⟨stringToken "pkg-config" :: .symbol .braceClose :: ts, depth + 1, places + 2, []⟩ =
      .ok ([(none, stringOf "pkg-config")], ⟨ts, depth + 1, places + 3, []⟩) :=
    entries_last hconfig (head?_ne nofun) (by decide) hgood
  have hentries : entries (fuel + 5) (places + 1) 0
      ⟨packageTokens ts, depth + 1, places + 1, []⟩ =
      .ok (nativeNames.map fun name => (none, stringOf name), ⟨ts, depth + 1, places + 3, []⟩) :=
    entries_comma hgcc hlast (head?_ne nofun) (by decide) (head?_ne nofun)
  exact expression_table hentries (by omega) (by omega) (head?_ne nofun) hend

theorem entries_buildTokens :
    entries (fuel + 7) 1 0 ⟨buildTokens, 2, 1, []⟩ =
      .ok ([(some (stringOf "build_inputs"), .table [])], ⟨[], 2, 1, []⟩) := by
  have hempty : entries (fuel + 1) 2 0
      ⟨[.symbol .braceClose, .symbol .comma, .symbol .braceClose], 3, 2, []⟩ =
      .ok ([], ⟨[.symbol .comma, .symbol .braceClose], 3, 2, []⟩) :=
    entries_close (head?_ne nofun)
  have hvalue : expression (fuel + 4) 0
      ⟨[.symbol .braceOpen, .symbol .braceClose, .symbol .comma, .symbol .braceClose], 2, 1, []⟩ =
      .ok (⟨.table [], .place⟩, ⟨[.symbol .comma, .symbol .braceClose], 2, 2, []⟩) :=
    expression_table hempty (by decide) (by decide) (head?_ne nofun) rfl
  have hentry : entry (fuel + 6) ⟨buildTokens, 2, 1, []⟩ =
      .ok ((some (stringOf "build_inputs"), .table []),
        ⟨[.symbol .comma, .symbol .braceClose], 2, 1, []⟩) :=
    entry_field hvalue (.inr rfl) (by decide) (head?_ne nofun)
  have hend : entries (fuel + 6) 1 0 ⟨[.symbol .braceClose], 2, 1, []⟩ = .ok ([], ⟨[], 2, 1, []⟩) :=
    entries_close nofun
  exact entries_comma hentry hend (head?_ne nofun) (by decide) (head?_ne nofun)

theorem entries_nativeTokens :
    entries (fuel + 11) 1 0 ⟨nativeTokens, 2, 1, []⟩ =
      .ok ([(some (stringOf "native_build_inputs"),
          .table (nativeNames.map fun name => (none, stringOf name))),
        (some (stringOf "build_inputs"), .table [])], ⟨[], 2, 1, []⟩) := by
  have hvalue : expression (fuel + 8) 0
      ⟨.symbol .braceOpen :: packageTokens (.symbol .comma :: buildTokens), 2, 1, []⟩ =
      .ok (⟨.table (nativeNames.map fun name => (none, stringOf name)), .place⟩,
        ⟨.symbol .comma :: buildTokens, 2, 2, []⟩) :=
    expression_packages (by decide) (by decide) (head?_ne nofun) rfl
  have hentry : entry (fuel + 10) ⟨nativeTokens, 2, 1, []⟩ =
      .ok ((some (stringOf "native_build_inputs"),
          .table (nativeNames.map fun name => (none, stringOf name))),
        ⟨.symbol .comma :: buildTokens, 2, 1, []⟩) :=
    entry_field hvalue (.inr rfl) (by decide) (head?_ne nofun)
  exact entries_comma hentry entries_buildTokens (head?_ne nofun) (by decide) (head?_ne nofun)

/-- The brace of the script's table and what follows it are read as the table. -/
theorem expression_tableTokens (target : String) :
    expression (fuel + 15) 0 ⟨.symbol .braceOpen :: tableTokens target, 1, 0, []⟩ =
      .ok (⟨scriptTable target, .place⟩, ⟨[], 1, 1, []⟩) := by
  have hvalue : expression (fuel + 9) 0
      ⟨stringToken target :: .symbol .comma :: nativeTokens, 2, 1, []⟩ =
      .ok (⟨stringOf target, .literal⟩, ⟨.symbol .comma :: nativeTokens, 2, 1, []⟩) :=
    expression_string (by decide) (head?_ne nofun) rfl
  have hentry : entry (fuel + 11) ⟨tableTokens target, 2, 1, []⟩ =
      .ok ((some (stringOf "target"), stringOf target),
        ⟨.symbol .comma :: nativeTokens, 2, 1, []⟩) :=
    entry_field hvalue (.inl rfl) (by decide) (head?_ne nofun)
  have hentries : entries (fuel + 12) 1 0 ⟨tableTokens target, 2, 1, []⟩ =
      .ok ([(some (stringOf "target"), stringOf target),
        (some (stringOf "native_build_inputs"),
          .table (nativeNames.map fun name => (none, stringOf name))),
        (some (stringOf "build_inputs"), .table [])], ⟨[], 2, 1, []⟩) :=
    entries_comma hentry entries_nativeTokens (head?_ne nofun) (by decide) (head?_ne nofun)
  exact expression_table hentries (by decide) (by decide) (head?_ne nofun) rfl

end Reading

theorem program_script (t : Target) :
    program (script t).toList = .ok [.answer [scriptTable t.triple]] := by
  have hexpression : ∀ fuel, 15 ≤ fuel →
      Parser.expression fuel 0 ⟨.symbol .braceOpen :: tableTokens t.triple, 1, 0, []⟩ =
        .ok (⟨scriptTable t.triple, .place⟩, ⟨[], 1, 1, []⟩) := by
    intro fuel hfuel
    obtain ⟨fuel, rfl⟩ := Nat.exists_eq_add_of_le' hfuel
    exact expression_tableTokens t.triple
  have hfuel : 15 ≤ 16 * (tableTokens t.triple).length := Nat.le_of_ble_eq_true rfl
  exact program_return_table (tokens_return_script t) (tokens_script t) hfuel hexpression

/-! ## The tables -/

/-- The table of the packages. -/
def packageTable : Table :=
  .ofList (nativeNames.map .ofText)

/-- The table of the config, from what is under its three fields. -/
def configTable (target natives builds : Value) : Table :=
  .ofContents 0 [(some (.ofText "target"), [target]),
    (some (.ofText "native_build_inputs"), [natives]), (some (.ofText "build_inputs"), [builds])]

/-- The store with the tables of the script, and the address of the config. -/
def filled (target : String) (s : Store) : Nat × Store :=
  let (natives, s) := s.newTable packageTable
  let (builds, s) := s.newTable .empty
  s.newTable (configTable (.ofText target) (.table natives) (.table builds))

theorem evaluate_script (t : Target) (s : Store) (m : Machine) :
    evaluate (script t) s m = .ok (.table (filled t.triple s).1, (filled t.triple s).2) m := by
  have hprogram : Machine.answer (program (script t).toList) m =
      .ok [.answer [scriptTable t.triple]] m := by
    rw [program_script]
    rfl
  have hrun : Run.block [.answer [scriptTable t.triple]] s m =
      .ok (some [.table (filled t.triple s).1], (filled t.triple s).2) m := by rfl
  unfold evaluate
  rw [Machine.Action.bind_of_ok hprogram, Machine.Action.bind_of_ok hrun]
  rfl

section Layout

open Script.Table

variable {target natives builds : Value}

/-- Two of the fields have one home, so that the third finds its own taken and moves the second. -/
theorem configTable_eq (htarget : target ≠ .nil) (hnatives : natives ≠ .nil)
    (hbuilds : builds ≠ .nil) :
    configTable target natives builds =
      ⟨[], 0, [.unused, ⟨.ofText "native_build_inputs", natives, none⟩,
        ⟨.ofText "build_inputs", builds, none⟩, ⟨.ofText "target", target, some 1⟩], 1⟩ := by
  have hometarget : home 4 (.ofText "target") = 3 := by decide +kernel
  have homenatives : home 4 (.ofText "native_build_inputs") = 3 := by decide +kernel
  have homebuilds : home 4 (.ofText "build_inputs") = 2 := by decide +kernel
  have hne : Value.ofText "target" ≠ .ofText "native_build_inputs" := by decide +kernel
  have hne' : Value.ofText "native_build_inputs" ≠ .ofText "build_inputs" := by decide +kernel
  have hfirst : set ⟨[], 0, [.unused, .unused, .unused, .unused], 4⟩ (.ofText "target") target =
      ⟨[], 0, [.unused, .unused, .unused, ⟨.ofText "target", target, none⟩], 4⟩ := by
    refine set_of_addNode ?_ htarget ?_
    · simp [nodeOf?, findFrom, hometarget, Node.unused, (Value.ofText_ne_nil _).symm]
    · simp [addNode, hometarget, Node.unused]
  have hsecond : set ⟨[], 0, [.unused, .unused, .unused, ⟨.ofText "target", target, none⟩], 4⟩
      (.ofText "native_build_inputs") natives =
      ⟨[], 0, [.unused, .unused, ⟨.ofText "native_build_inputs", natives, none⟩,
        ⟨.ofText "target", target, some 2⟩], 2⟩ := by
    refine set_of_addNode ?_ hnatives ?_
    · simp [nodeOf?, findFrom, homenatives, hne]
    · simp [addNode, homenatives, hometarget, unusedBefore, Node.unused, htarget,
        Value.ofText_ne_nil]
  have hthird : set ⟨[], 0, [.unused, .unused, ⟨.ofText "native_build_inputs", natives, none⟩,
        ⟨.ofText "target", target, some 2⟩], 2⟩ (.ofText "build_inputs") builds =
      ⟨[], 0, [.unused, ⟨.ofText "native_build_inputs", natives, none⟩,
        ⟨.ofText "build_inputs", builds, none⟩, ⟨.ofText "target", target, some 1⟩], 1⟩ := by
    refine set_of_addNode ?_ hbuilds ?_
    · simp [nodeOf?, findFrom, homebuilds, hne']
    · simp [addNode, homebuilds, homenatives, unusedBefore, Node.unused, hnatives, before]
  have hroom : empty.resize 0 3 = ⟨[], 0, [.unused, .unused, .unused, .unused], 4⟩ := by rfl
  have hcount : configTable target natives builds =
      fill (empty.resize 0 3) 0 [] [(some (.ofText "target"), [target]),
        (some (.ofText "native_build_inputs"), [natives]),
        (some (.ofText "build_inputs"), [builds])] := by rfl
  rw [hcount, hroom, fill_field, hfirst, fill_field, hsecond, fill_field, hthird]
  rfl

theorem entries_configTable (htarget : target ≠ .nil) (hnatives : natives ≠ .nil)
    (hbuilds : builds ≠ .nil) :
    (configTable target natives builds).entries =
      [(.ofText "native_build_inputs", natives), (.ofText "build_inputs", builds),
        (.ofText "target", target)] := by
  rw [configTable_eq htarget hnatives hbuilds]
  simp [entries, Node.unused, htarget, hnatives, hbuilds]

end Layout

/-! ## The config -/

/-- The config that the script answers. -/
def scriptConfig (target : String) : Config :=
  ⟨target, nativeNames, [], SortedMap.empty, none⟩

section Decoding

open Config

variable {s : Store} {around : List Nat} {address : Nat}

theorem decodeList_packageTable (h : s.tableAt address = packageTable) :
    decodeList s around (.table address) = .ok nativeNames := by
  have hlength : packageTable.length = 2 := by decide +kernel
  have hgcc : packageTable.get (.integer (Int64.ofNat 1)) = .ofText "gcc" := by decide +kernel
  have hconfig : packageTable.get (.integer (Int64.ofNat 2)) = .ofText "pkg-config" := by
    decide +kernel
  have hrange : List.range 2 = [0, 1] := by decide
  simp only [decodeList, decodeTable, h, hlength, hrange, bind, Except.bind, List.mapM_cons,
    List.mapM_nil, hgcc, hconfig, refuseRecursion_ofText, decodeText_ofText, pure, Except.pure,
    nativeNames]

theorem decodeList_empty (h : s.tableAt address = .empty) :
    decodeList s around (.table address) = .ok [] := by
  have hlength : Table.empty.length = 0 := by decide +kernel
  simp only [decodeList, decodeTable, h, hlength, List.range_zero, bind, Except.bind,
    List.mapM_nil, pure, Except.pure]

theorem ofTable_filled (target : String) (s : Store) :
    ofTable (filled target s).2 (filled target s).1 = .ok (scriptConfig target) := by
  let s₁ := (s.newTable packageTable).2
  let s₂ := (s₁.newTable .empty).2
  let whole :=
    configTable (.ofText target) (.table s.tables.size) (.table s₁.tables.size)
  let s₃ := (s₂.newTable whole).2
  have hsize₁ : s₁.tables.size = s.tables.size + 1 := Store.size_newTable s packageTable
  have hsize₂ : s₂.tables.size = s₁.tables.size + 1 := Store.size_newTable s₁ .empty
  have hwhole : s₃.tableAt s₂.tables.size = whole := Store.tableAt_newTable s₂ whole
  have hbuilds : s₃.tableAt s₁.tables.size = .empty := by
    rw [Store.tableAt_newTable_of_lt whole (by omega)]
    exact Store.tableAt_newTable s₁ .empty
  have hnatives : s₃.tableAt s.tables.size = packageTable := by
    rw [Store.tableAt_newTable_of_lt whole (by omega),
      Store.tableAt_newTable_of_lt .empty (by omega)]
    exact Store.tableAt_newTable s packageTable
  have hflat : refuseRecursion [s₂.tables.size] (.table s.tables.size) = .ok () :=
    refuseRecursion_of_not_mem (by simp only [List.mem_singleton]; omega)
  have hflat' : refuseRecursion [s₂.tables.size] (.table s₁.tables.size) = .ok () :=
    refuseRecursion_of_not_mem (by simp only [List.mem_singleton]; omega)
  have hentries : whole.entries = [(.ofText "native_build_inputs", .table s.tables.size),
      (.ofText "build_inputs", .table s₁.tables.size), (.ofText "target", .ofText target)] :=
    entries_configTable (Value.ofText_ne_nil target) nofun nofun
  show ofTable s₃ s₂.tables.size = _
  simp only [ofTable, hwhole, hentries, List.foldlM_cons, List.foldlM_nil,
    decodeField_nativeBuildInputs hflat (decodeList_packageTable hnatives),
    decodeField_buildInputs hflat' (decodeList_empty hbuilds), decodeField_target, bind,
    Except.bind, pure, Except.pure]
  rfl

end Decoding

/-- The script of a target answers a config with that target, on any machine. -/
theorem ofSource_script {name : String} (t : Target) (hname : Machine.hasNul name = false)
    (m : Machine) :
    Config.ofSource interpreter name (script t) m = .ok (scriptConfig t.triple) m := by
  have hrun := Machine.explain_of_ok (f := ConfigError.script)
    (evaluate_script t (Config.startStore m.host) m)
  have hanswer : Config.ofAnswer (.table (filled t.triple (Config.startStore m.host)).1,
      (filled t.triple (Config.startStore m.host)).2) = .ok (scriptConfig t.triple) := by
    simp only [Config.ofAnswer, ofTable_filled]
  simp only [Config.ofSource, hname, Bool.false_eq_true, if_false]
  rw [Machine.Action.get_bind]
  refine (Machine.Action.bind_of_ok hrun).trans ?_
  rw [hanswer]
  rfl

end CrossShell.Starter
