import CrossShell.Nix.Expression
import CrossShell.Proofs.Nix.Parser
import CrossShell.Proofs.Target

/-!
Shell expressions read back from their text.

The lines that make the shell are lexed piece by piece, each piece from a place between lexemes to
another one: names end at a blank, a comma or a line feed, and strings end at their own quote. What
they are made of cannot change how they are read, whatever the names, keys and values are.
-/

set_option autoImplicit false

namespace CrossShell.Nix

open Lexer (Lexes lexes_append lexes_name_append lexes_join lexes_quote)
open CrossShell.Nix.Parser (formalLexemes listLexemes stringLexemes setLexemes shellLexemes shellTerm)

namespace Expression

/-! ## Lexemes of the text -/

theorem lexes_formals {formal : String} {formals : List String}
    (h : ∀ name ∈ formal :: formals, isIdentifier name = true) :
    Lexes (", ".intercalate (formal :: formals) ++ " \x7d:\n").toList
      (.name formal :: (formals.flatMap (fun formal => [.mark .comma, .name formal])
        ++ [.mark .closeBrace, .mark .colon])) := by
  have hend : Lexes " \x7d:\n".toList [.mark .closeBrace, .mark .colon] := by decide
  induction formals generalizing formal with
  | nil =>
    rw [String.intercalate_singleton]
    exact lexes_name_append (h formal List.mem_cons_self) (by decide) hend
  | cons next formals ih =>
    have hrest := ih fun name hname => h name (List.mem_cons_of_mem formal hname)
    have hcomma : Lexes ", ".toList [.mark .comma] := by decide
    have hmore := lexes_append hcomma hrest
    rw [String.intercalate_cons_cons, String.append_assoc, String.append_assoc]
    refine lexes_name_append (h formal List.mem_cons_self) ?_ hmore
    rw [String.toList_append]
    rfl

theorem lexes_formalsText {formal : String} {formals : List String}
    (h : ∀ name ∈ formal :: formals, isIdentifier name = true) :
    Lexes (formalsText (formal :: formals)).toList (formalLexemes formal formals) := by
  have hopen : Lexes "  \x7b ".toList [.mark .openBrace] := by decide
  have hall := lexes_append hopen (lexes_formals h)
  rw [← String.append_assoc] at hall
  exact hall

theorem lexes_listText {key : String} (hkey : isIdentifier key = true) {names : List String}
    (h : ∀ name ∈ names, isIdentifier name = true) :
    Lexes (listText key names).toList (listLexemes key names) := by
  have hindent : Lexes "    ".toList [] := by decide
  cases names with
  | nil =>
    have hempty : Lexes " = [ ];\n".toList
        [.mark .equals, .mark .openBracket, .mark .closeBracket, .mark .semicolon] := by decide
    have hall := lexes_append hindent (lexes_name_append hkey (by decide) hempty)
    rw [← String.append_assoc] at hall
    exact hall
  | cons name names =>
    have hopen : Lexes " = [\n".toList [.mark .equals, .mark .openBracket] := by decide
    have hclose : Lexes "    ];\n".toList [.mark .closeBracket, .mark .semicolon] := by decide
    have hitems : Lexes
        (String.join ((name :: names).map fun name => "      " ++ name ++ "\n")).toList
        ((name :: names).flatMap fun name => [.name name]) := by
      apply lexes_join
      intro name hname
      have hblank : Lexes "      ".toList [] := by decide
      have hfeed : Lexes "\n".toList [] := by decide
      have hitem := lexes_append hblank (lexes_name_append (h name hname) (by decide) hfeed)
      rw [← String.append_assoc] at hitem
      exact hitem
    have hkeyed := lexes_append hindent (lexes_name_append hkey (by decide) hopen)
    have hall := lexes_append (lexes_append hkeyed hitems) hclose
    rw [← String.append_assoc, ← List.map_eq_flatMap] at hall
    exact hall

theorem lexes_attributeText (entry : String × String) :
    Lexes (attributeText entry).toList (stringLexemes entry) := by
  have hindent : Lexes "    ".toList [] := by decide
  have hequals : Lexes " = ".toList [.mark .equals] := by decide
  have hend : Lexes ";\n".toList [.mark .semicolon] := by decide
  exact lexes_append (lexes_append (lexes_append (lexes_append hindent (lexes_quote entry.1))
    hequals) (lexes_quote entry.2)) hend

/-- The pieces of the text, each with what it ends at. -/
theorem shellText_eq (e : Expression) :
    e.shellText = "pkgs.callPackage (\n" ++ (formalsText e.formals
      ++ ("  " ++ shellFunction ++ " \x7b\n"
        ++ (listText "nativeBuildInputs" e.nativeBuildInputs
          ++ (listText "buildInputs" e.buildInputs
            ++ (String.join (e.attributes.map attributeText)
              ++ "  \x7d\n) \x7b \x7d\n"))))) := by
  -- Said of any nine texts, since rewriting would take the literal ones apart.
  have hassoc : ∀ a b c d f g i j k : String, a ++ b ++ c ++ d ++ f ++ g ++ i ++ j ++ k
      = a ++ (b ++ (c ++ d ++ f ++ (g ++ (i ++ (j ++ k))))) := by
    intros
    simp only [String.append_assoc]
  exact hassoc ..

theorem lexes_shellText {e : Expression} {formals : List String}
    (hformals : e.formals = shellFunction :: formals)
    (hnames : ∀ name ∈ e.formals, isIdentifier name = true)
    (hnatives : ∀ name ∈ e.nativeBuildInputs, isIdentifier name = true)
    (hbuilds : ∀ name ∈ e.buildInputs, isIdentifier name = true) :
    Lexes e.shellText.toList
      (shellLexemes formals e.nativeBuildInputs e.buildInputs e.attributes) := by
  have hcall : Lexes "pkgs.callPackage (\n".toList
      [.name "pkgs", .mark .dot, .name "callPackage", .mark .openParen] := by decide
  have happly : Lexes "  mkShell \x7b\n".toList [.name "mkShell", .mark .openBrace] := by decide
  have hend : Lexes "  \x7d\n) \x7b \x7d\n".toList
      [.mark .closeBrace, .mark .closeParen, .mark .openBrace, .mark .closeBrace] := by decide
  have hmiddle : "  " ++ shellFunction ++ " \x7b\n" = "  mkShell \x7b\n" := by decide
  have hnativeKey : isIdentifier "nativeBuildInputs" = true := by decide
  have hbuildKey : isIdentifier "buildInputs" = true := by decide
  rw [hformals] at hnames
  have hattributes : Lexes (String.join (e.attributes.map attributeText)).toList
      (e.attributes.flatMap stringLexemes) := lexes_join fun entry _ => lexes_attributeText entry
  have hset := lexes_append (lexes_listText hnativeKey hnatives)
    (lexes_append (lexes_listText hbuildKey hbuilds) (lexes_append hattributes hend))
  have hall := lexes_append hcall (lexes_append (lexes_formalsText hnames)
    (lexes_append happly hset))
  rw [shellText_eq, hformals, hmiddle]
  simp only [shellLexemes, setLexemes, List.append_assoc, List.cons_append, List.nil_append]
    at hall ⊢
  exact hall

/-! ## Expressions of descriptors -/

variable {d : Descriptor} {nixpkgs : String} {host : Option Platform} {e : Expression}

/-- A descriptor has an expression only if all its packages have names that are identifiers. -/
theorem ofDescriptor_ok (h : ofDescriptor d nixpkgs host = .ok e) :
    (∀ p ∈ d.dependencies, isIdentifier p.name = true) ∧
      e = { target := d.target
            source := nixpkgs
            cross := d.isCross host
            formals := shellFunction :: d.packageNames.filter (· ≠ shellFunction)
            nativeBuildInputs := d.nativeBuildInputs.map (·.name)
            buildInputs := d.buildInputs.map (·.name)
            attributes := (d.shellEnv host).entries } := by
  unfold ofDescriptor at h
  cases hbad : badName? d with
  | some name => rw [hbad] at h; cases h
  | none =>
    rw [hbad] at h
    refine ⟨fun p hp => ?_, (Except.ok.inj h).symm⟩
    have hgood := List.find?_eq_none.1 hbad p.name (List.mem_map_of_mem hp)
    simpa using hgood

/-- The lines that make the shell do not depend on the package set. -/
theorem ofDescriptor_source (h : ofDescriptor d nixpkgs host = .ok e) (nixpkgs' : String) :
    ofDescriptor d nixpkgs' host = .ok { e with source := nixpkgs' } := by
  unfold ofDescriptor at h ⊢
  cases hbad : badName? d with
  | some name => rw [hbad] at h; cases h
  | none =>
    rw [hbad] at h
    rw [← Except.ok.inj h]

theorem read_shellText (h : ofDescriptor d nixpkgs host = .ok e) :
    Parser.read e.shellText
      = some (shellTerm (d.packageNames.filter (· ≠ shellFunction))
        (d.nativeBuildInputs.map (·.name)) (d.buildInputs.map (·.name))
        (d.shellEnv host).entries) := by
  obtain ⟨hnames, rfl⟩ := ofDescriptor_ok h
  have hpackages : ∀ name ∈ d.packageNames, isIdentifier name = true := by
    intro name hname
    obtain ⟨p, hp, rfl⟩ := List.mem_map.1 (List.mem_eraseDups.1 hname)
    exact hnames p hp
  apply Parser.read_of_shellLexemes
  refine lexes_shellText rfl ?_ ?_ ?_
  · intro name hname
    cases hname with
    | head => decide
    | tail _ hname => exact hpackages name (List.mem_filter.1 hname).1
  · intro name hname
    obtain ⟨p, hp, rfl⟩ := List.mem_map.1 hname
    exact hnames p (List.mem_append_left _ hp)
  · intro name hname
    obtain ⟨p, hp, rfl⟩ := List.mem_map.1 hname
    exact hnames p (List.mem_append_right _ hp)

end Expression

theorem render_eq_ok {d : Descriptor} {nixpkgs text : String} {host : Option Platform}
    (h : render d nixpkgs host = .ok text) :
    ∃ e : Expression, Expression.ofDescriptor d nixpkgs host = .ok e ∧
      text = e.importText ++ e.shellText := by
  unfold render at h
  cases hexpression : Expression.ofDescriptor d nixpkgs host with
  | error error => rw [hexpression] at h; cases h
  | ok e =>
    rw [hexpression] at h
    exact ⟨e, rfl, (Except.ok.inj h).symm⟩

/-- A rendered expression is read back as what it was rendered from. After the lines that bring in
the package set, and that alone depend on it, comes one term: the package set calls a function of
the descriptor's packages, which makes a shell from the two lists of packages and from the variables
in ascending order. -/
theorem render_reads_back {d : Descriptor} {nixpkgs text : String} {host : Option Platform}
    (h : render d nixpkgs host = .ok text) :
    ∃ e : Expression, Expression.ofDescriptor d nixpkgs host = .ok e ∧
      text = e.importText ++ e.shellText ∧
      (∃ head, e.importText = head ++ "in\n") ∧
      (∃ rest, e.shellText = "pkgs.callPackage (\n" ++ rest) ∧
      (∀ nixpkgs', ∃ e' : Expression, e'.source = nixpkgs' ∧
        render d nixpkgs' host = .ok (e'.importText ++ e.shellText)) ∧
      Parser.read e.shellText = some
        (.apply (.apply (.select (.name "pkgs") "callPackage")
          (.function ("mkShell" :: d.packageNames.filter (· ≠ "mkShell"))
            (.apply (.name "mkShell") (.set
              (("nativeBuildInputs", .list (d.nativeBuildInputs.map fun p => .name p.name)) ::
                ("buildInputs", .list (d.buildInputs.map fun p => .name p.name)) ::
                (d.shellEnv host).entries.map fun (key, value) => (key, .string value))))))
          (.set [])) ∧
      (d.shellEnv host).entries.Pairwise fun a b => a.1 < b.1 := by
  cases hexpression : Expression.ofDescriptor d nixpkgs host with
  | error error =>
    rw [render, hexpression] at h
    cases h
  | ok e =>
    rw [render, hexpression] at h
    have hread := Expression.read_shellText hexpression
    refine ⟨e, rfl, (Except.ok.inj h).symm, ⟨_, rfl⟩, ⟨_, e.shellText_eq⟩, ?_, ?_,
      (d.shellEnv host).ascending⟩
    · intro nixpkgs'
      have hother := Expression.ofDescriptor_source hexpression nixpkgs'
      refine ⟨{ e with source := nixpkgs' }, rfl, ?_⟩
      rw [render, hother]
      rfl
    · rw [hread]
      simp only [shellTerm, Parser.setTerm, List.map_map]
      rfl

/-- A descriptor whose one variable looks like the end of its string and like an interpolation. -/
def interpolatingDescriptor : Descriptor :=
  ⟨Target.aarch64Linux, [⟨"gcc", .nativeBuildInput⟩, ⟨"gcc", .nativeBuildInput⟩],
    [⟨"zlib", .buildInput⟩],
    SortedMap.ofList [("\"; x = $\x7b", "$$\x7bz\x7d\n$")]⟩

theorem render_reads_back_interpolating :
    ∃ (text : String) (e : Expression),
      render interpolatingDescriptor "<nixpkgs>" none = .ok text ∧
      text = e.importText ++ e.shellText ∧
      Parser.read e.shellText = some (shellTerm ["gcc", "zlib"] ["gcc", "gcc"] ["zlib"]
        (interpolatingDescriptor.shellEnv none).entries) ∧
      ("\"; x = $\x7b", "$$\x7bz\x7d\n$") ∈ (interpolatingDescriptor.shellEnv none).entries := by
  obtain ⟨text, h⟩ : ∃ text, render interpolatingDescriptor "<nixpkgs>" none = .ok text := ⟨_, rfl⟩
  obtain ⟨e, _, htext, _, _, _, hread, _⟩ := render_reads_back h
  exact ⟨text, e, h, htext, hread, by decide⟩

end CrossShell.Nix
