import CrossShell.Proofs.Nix.Lexer

/-!
How lexemes of the Nix language make up terms.

This is the part of the language that has functions of named arguments, applications, selections,
lists and sets. Application takes as many operands as follow, an operand is an atom with its
selections, and the items of a list are operands. A text is a term only if nothing is left after it.
-/

set_option autoImplicit false

namespace CrossShell.Nix

inductive Term where
  | name (text : String)
  | string (value : String)
  | select (term : Term) (key : String)
  | apply (function argument : Term)
  /-- A function of a set that has attributes of the given names. -/
  | function (formals : List String) (body : Term)
  | list (items : List Term)
  | set (attributes : List (String × Term))

namespace Parser

/-! ## The parser -/

/-- The names of a function's arguments after the first one, up to the colon. -/
def moreFormals? : List Lexeme → Option (List String × List Lexeme)
  | .mark .closeBrace :: .mark .colon :: rest => some ([], rest)
  | .mark .comma :: .name formal :: rest =>
    (moreFormals? rest).map fun (formals, rest) => (formal :: formals, rest)
  | _ => none

/-- The names of a function's arguments, up to the colon. -/
def formals? : List Lexeme → Option (List String × List Lexeme)
  | .mark .openBrace :: .mark .closeBrace :: .mark .colon :: rest => some ([], rest)
  | .mark .openBrace :: .name formal :: rest =>
    (moreFormals? rest).map fun (formals, rest) => (formal :: formals, rest)
  | _ => none

/-- The selections that follow a term. -/
def selections (t : Term) : List Lexeme → Term × List Lexeme
  | .mark .dot :: .name key :: rest => selections (.select t key) rest
  | lexemes => (t, lexemes)

/-- Whether an operand starts here. -/
def startsOperand : List Lexeme → Bool
  | .name _ :: _ => true
  | .text _ :: _ => true
  | .mark .openParen :: _ => true
  | .mark .openBracket :: _ => true
  | .mark .openBrace :: _ => true
  | _ => false

/-- The key of an attribute, which may be quoted. -/
def key? : Lexeme → Option String
  | .name text => some text
  | .text value => some value
  | _ => none

mutual

/-- A term, as far as it goes. The first argument bounds the depth. -/
def term : Nat → List Lexeme → Option (Term × List Lexeme)
  | 0, _ => none
  | depth + 1, lexemes =>
    match formals? lexemes with
    | some (formals, rest) =>
      match term depth rest with
      | some (body, rest) => some (.function formals body, rest)
      | none => none
    | none =>
      match operand depth lexemes with
      | some (head, rest) => arguments depth head rest
      | none => none

def arguments : Nat → Term → List Lexeme → Option (Term × List Lexeme)
  | 0, _, _ => none
  | depth + 1, head, lexemes =>
    if startsOperand lexemes then
      match operand depth lexemes with
      | some (argument, rest) => arguments depth (.apply head argument) rest
      | none => none
    else some (head, lexemes)

def operand : Nat → List Lexeme → Option (Term × List Lexeme)
  | 0, _ => none
  | depth + 1, lexemes => (atom depth lexemes).map fun (t, rest) => selections t rest

/-- A name, a string, or a term, a list or a set between its brackets. -/
def atom : Nat → List Lexeme → Option (Term × List Lexeme)
  | 0, _ => none
  | _ + 1, .name text :: rest => some (.name text, rest)
  | _ + 1, .text value :: rest => some (.string value, rest)
  | depth + 1, .mark .openParen :: rest =>
    match term depth rest with
    | some (t, .mark .closeParen :: rest) => some (t, rest)
    | _ => none
  | depth + 1, .mark .openBracket :: rest =>
    (items depth rest).map fun (items, rest) => (.list items, rest)
  | depth + 1, .mark .openBrace :: rest =>
    (attributes depth rest).map fun (attributes, rest) => (.set attributes, rest)
  | _ + 1, _ => none

/-- The items of a list, up to its end. -/
def items : Nat → List Lexeme → Option (List Term × List Lexeme)
  | 0, _ => none
  | _ + 1, .mark .closeBracket :: rest => some ([], rest)
  | depth + 1, lexemes =>
    match operand depth lexemes with
    | some (item, rest) => (items depth rest).map fun (items, rest) => (item :: items, rest)
    | none => none

/-- The attributes of a set, up to its end. -/
def attributes : Nat → List Lexeme → Option (List (String × Term) × List Lexeme)
  | 0, _ => none
  | _ + 1, .mark .closeBrace :: rest => some ([], rest)
  | depth + 1, first :: .mark .equals :: rest =>
    match key? first, term depth rest with
    | some key, some (value, .mark .semicolon :: rest) =>
      (attributes depth rest).map fun (attributes, rest) => ((key, value) :: attributes, rest)
    | _, _ => none
  | _ + 1, _ => none

end

/-- The term that a text is. No term goes deeper than a few steps for each lexeme. -/
def read (text : String) : Option Term :=
  match Lexer.read text.toList with
  | none => none
  | some lexemes =>
    match term (4 * lexemes.length + 4) lexemes with
    | some (t, []) => some t
    | _ => none

/-! ## Parts of functions and sets -/

variable {depth : Nat} {lexeme : Lexeme} {rest : List Lexeme}

theorem moreFormals?_names (formals : List String) (rest : List Lexeme) :
    moreFormals? ((formals.flatMap fun formal => [.mark .comma, .name formal])
      ++ .mark .closeBrace :: .mark .colon :: rest) = some (formals, rest) := by
  induction formals with
  | nil => rfl
  | cons formal formals ih =>
    rw [List.flatMap_cons, List.append_assoc, List.cons_append, List.cons_append, List.nil_append,
      moreFormals?, ih]
    rfl

theorem selections_of_ne_dot (t : Term) (h : lexeme ≠ .mark .dot) :
    selections t (lexeme :: rest) = (t, lexeme :: rest) := by
  unfold selections
  split
  · next heq =>
    injection heq with hhead
    exact absurd hhead h
  · rfl

theorem operand_name (text : String) (h : lexeme ≠ .mark .dot) :
    operand (depth + 2) (.name text :: lexeme :: rest) = some (.name text, lexeme :: rest) := by
  show some (selections (.name text) (lexeme :: rest)) = _
  rw [selections_of_ne_dot _ h]

theorem operand_text (value : String) (h : lexeme ≠ .mark .dot) :
    operand (depth + 2) (.text value :: lexeme :: rest) = some (.string value, lexeme :: rest) := by
  show some (selections (.string value) (lexeme :: rest)) = _
  rw [selections_of_ne_dot _ h]

theorem items_names (names : List String) (h : names.length + 3 ≤ depth) :
    items depth (names.map .name ++ .mark .closeBracket :: rest)
      = some (names.map .name, rest) := by
  induction names generalizing depth with
  | nil =>
    obtain ⟨depth, rfl⟩ : ∃ d, depth = d + 1 := ⟨depth - 1, by omega⟩
    rfl
  | cons name names ih =>
    rw [List.length_cons] at h
    obtain ⟨depth, rfl⟩ : ∃ d, depth = d + 3 := ⟨depth - 3, by omega⟩
    have hitems : items (depth + 2) (names.map .name ++ .mark .closeBracket :: rest)
        = some (names.map .name, rest) := ih (by omega)
    have hoperand : operand (depth + 2)
        (.name name :: (names.map .name ++ .mark .closeBracket :: rest))
          = some (.name name, names.map .name ++ .mark .closeBracket :: rest) := by
      cases names with
      | nil => exact operand_name name (by decide)
      | cons next names => exact operand_name name nofun
    rw [List.map_cons, List.cons_append]
    unfold items
    rw [hoperand]
    show (items (depth + 2) _).map _ = _
    rw [hitems]
    rfl

theorem arguments_stop (t : Term) {lexemes : List Lexeme} (h : startsOperand lexemes = false) :
    arguments (depth + 1) t lexemes = some (t, lexemes) := by
  unfold arguments
  rw [h]
  rfl

theorem arguments_more (t : Term) {lexemes : List Lexeme} {argument : Term}
    (h : startsOperand lexemes = true) (hoperand : operand depth lexemes = some (argument, rest)) :
    arguments (depth + 1) t lexemes = arguments depth (.apply t argument) rest := by
  rw [arguments, if_pos h, hoperand]

theorem term_application {lexemes : List Lexeme} {t : Term} (hformals : formals? lexemes = none)
    (hoperand : operand depth lexemes = some (t, rest)) :
    term (depth + 1) lexemes = arguments depth t rest := by
  unfold term
  rw [hformals]
  simp only [hoperand]

theorem term_function {lexemes rest' : List Lexeme} {formals : List String} {body : Term}
    (hformals : formals? lexemes = some (formals, rest))
    (hbody : term depth rest = some (body, rest')) :
    term (depth + 1) lexemes = some (.function formals body, rest') := by
  unfold term
  rw [hformals]
  simp only [hbody]

theorem term_of_operand {lexemes : List Lexeme} {t : Term} (hformals : formals? lexemes = none)
    (hoperand : operand (depth + 1) lexemes = some (t, rest))
    (hrest : startsOperand rest = false) : term (depth + 2) lexemes = some (t, rest) := by
  rw [term_application hformals hoperand, arguments_stop t hrest]

theorem term_text (value : String) :
    term (depth + 3) (.text value :: .mark .semicolon :: rest)
      = some (.string value, .mark .semicolon :: rest) :=
  term_of_operand rfl (operand_text value (by decide)) rfl

theorem term_list {names : List String} (h : names.length + 6 ≤ depth) :
    term depth (.mark .openBracket :: (names.map .name ++ .mark .closeBracket :: .mark .semicolon
      :: rest)) = some (.list (names.map .name), .mark .semicolon :: rest) := by
  obtain ⟨depth, rfl⟩ : ∃ d, depth = d + 3 := ⟨depth - 3, by omega⟩
  have hitems : items depth (names.map .name ++ .mark .closeBracket :: .mark .semicolon :: rest)
      = some (names.map .name, .mark .semicolon :: rest) := items_names names (by omega)
  have hoperand : operand (depth + 2) (.mark .openBracket ::
      (names.map .name ++ .mark .closeBracket :: .mark .semicolon :: rest))
        = some (.list (names.map .name), .mark .semicolon :: rest) := by
    show ((items depth _).map _).map _ = _
    rw [hitems]
    rfl
  exact term_of_operand rfl hoperand rfl

/-- The lexemes of an attribute that is a list of names. -/
def listLexemes (key : String) (names : List String) : List Lexeme :=
  [.name key, .mark .equals, .mark .openBracket] ++ names.map .name
    ++ [.mark .closeBracket, .mark .semicolon]

/-- The lexemes of an attribute whose key and value are strings. -/
def stringLexemes (entry : String × String) : List Lexeme :=
  [.text entry.1, .mark .equals, .text entry.2, .mark .semicolon]

theorem attributes_list (key : String) {names : List String} (h : names.length + 6 ≤ depth) :
    attributes (depth + 1) (listLexemes key names ++ rest)
      = (attributes depth rest).map fun (attributes, rest) =>
        ((key, .list (names.map .name)) :: attributes, rest) := by
  have hlexemes : listLexemes key names ++ rest
      = .name key :: .mark .equals :: .mark .openBracket ::
        (names.map .name ++ .mark .closeBracket :: .mark .semicolon :: rest) := by
    simp [listLexemes]
  rw [hlexemes, attributes, term_list h]
  · rfl
  · exact nofun

theorem attributes_string (entry : String × String) :
    attributes (depth + 4) (stringLexemes entry ++ rest)
      = (attributes (depth + 3) rest).map fun (attributes, rest) =>
        ((entry.1, .string entry.2) :: attributes, rest) := by
  show attributes (depth + 4) (.text entry.1 :: .mark .equals :: .text entry.2 ::
    .mark .semicolon :: rest) = _
  rw [attributes, term_text]
  · rfl
  · exact nofun

theorem attributes_strings (strings : List (String × String)) (h : strings.length + 4 ≤ depth) :
    attributes depth (strings.flatMap stringLexemes ++ .mark .closeBrace :: rest)
      = some (strings.map fun (key, value) => (key, .string value), rest) := by
  induction strings generalizing depth with
  | nil =>
    obtain ⟨depth, rfl⟩ : ∃ d, depth = d + 1 := ⟨depth - 1, by omega⟩
    rfl
  | cons string strings ih =>
    rw [List.length_cons] at h
    obtain ⟨depth, rfl⟩ : ∃ d, depth = d + 4 := ⟨depth - 4, by omega⟩
    have hrest : attributes (depth + 3)
        (strings.flatMap stringLexemes ++ .mark .closeBrace :: rest)
          = some (strings.map fun (key, value) => (key, .string value), rest) := ih (by omega)
    rw [List.flatMap_cons, List.append_assoc, attributes_string, hrest]
    rfl

/-! ## Whole programs -/

/-- The lexemes of a function's arguments, of which there is at least one. -/
def formalLexemes (formal : String) (formals : List String) : List Lexeme :=
  [.mark .openBrace, .name formal]
    ++ formals.flatMap (fun formal => [.mark .comma, .name formal])
    ++ [.mark .closeBrace, .mark .colon]

theorem formals?_formalLexemes (formal : String) (formals : List String) (rest : List Lexeme) :
    formals? (formalLexemes formal formals ++ rest) = some (formal :: formals, rest) := by
  have hlexemes : formalLexemes formal formals ++ rest = .mark .openBrace :: .name formal ::
      (formals.flatMap (fun formal => [.mark .comma, .name formal])
        ++ .mark .closeBrace :: .mark .colon :: rest) := by
    simp [formalLexemes]
  rw [hlexemes, formals?, moreFormals?_names]
  rfl

/-- The lexemes of the attributes that a shell is made from. -/
def setLexemes (natives builds : List String) (strings : List (String × String)) : List Lexeme :=
  .mark .openBrace :: (listLexemes "nativeBuildInputs" natives ++ (listLexemes "buildInputs" builds
    ++ (strings.flatMap stringLexemes ++ [.mark .closeBrace])))

/-- The attributes that a shell is made from. -/
def setTerm (natives builds : List String) (strings : List (String × String)) : Term :=
  .set (("nativeBuildInputs", .list (natives.map .name)) ::
    ("buildInputs", .list (builds.map .name)) ::
    strings.map fun (key, value) => (key, .string value))

theorem operand_setLexemes {natives builds : List String} {strings : List (String × String)}
    (hnatives : natives.length + 5 ≤ depth) (hbuilds : builds.length + 6 ≤ depth)
    (hstrings : strings.length + 4 ≤ depth) (hlexeme : lexeme ≠ .mark .dot) :
    operand (depth + 4) (setLexemes natives builds strings ++ lexeme :: rest)
      = some (setTerm natives builds strings, lexeme :: rest) := by
  have hattributes : attributes (depth + 2) (listLexemes "nativeBuildInputs" natives
      ++ (listLexemes "buildInputs" builds
        ++ (strings.flatMap stringLexemes ++ .mark .closeBrace :: lexeme :: rest)))
        = some (("nativeBuildInputs", .list (natives.map .name)) ::
          ("buildInputs", .list (builds.map .name)) ::
          strings.map fun (key, value) => (key, .string value), lexeme :: rest) := by
    rw [attributes_list _ (by omega), attributes_list _ hbuilds, attributes_strings _ hstrings]
    rfl
  have hlexemes : setLexemes natives builds strings ++ lexeme :: rest = .mark .openBrace ::
      (listLexemes "nativeBuildInputs" natives ++ (listLexemes "buildInputs" builds
        ++ (strings.flatMap stringLexemes ++ .mark .closeBrace :: lexeme :: rest))) := by
    simp [setLexemes]
  rw [hlexemes, operand, atom, hattributes]
  show some (selections _ (lexeme :: rest)) = _
  rw [selections_of_ne_dot _ hlexeme]
  rfl

/-- The lexemes of a program that makes a shell. -/
def shellLexemes (formals natives builds : List String) (strings : List (String × String)) :
    List Lexeme :=
  [.name "pkgs", .mark .dot, .name "callPackage", .mark .openParen]
    ++ (formalLexemes "mkShell" formals ++ (.name "mkShell" :: (setLexemes natives builds strings
      ++ [.mark .closeParen, .mark .openBrace, .mark .closeBrace])))

/-- A program that makes a shell: a function of packages, called by the package set. -/
def shellTerm (formals natives builds : List String) (strings : List (String × String)) : Term :=
  .apply (.apply (.select (.name "pkgs") "callPackage")
    (.function ("mkShell" :: formals) (.apply (.name "mkShell") (setTerm natives builds strings))))
    (.set [])

theorem term_shellLexemes {formals natives builds : List String} {strings : List (String × String)}
    (hnatives : natives.length + 5 ≤ depth) (hbuilds : builds.length + 6 ≤ depth)
    (hstrings : strings.length + 4 ≤ depth) :
    term (depth + 11) (shellLexemes formals natives builds strings)
      = some (shellTerm formals natives builds strings, []) := by
  have hset : operand (depth + 4) (setLexemes natives builds strings
      ++ [.mark .closeParen, .mark .openBrace, .mark .closeBrace])
        = some (setTerm natives builds strings,
          [.mark .closeParen, .mark .openBrace, .mark .closeBrace]) :=
    operand_setLexemes hnatives hbuilds hstrings (by decide)
  have hbody : term (depth + 6) (.name "mkShell" :: (setLexemes natives builds strings
      ++ [.mark .closeParen, .mark .openBrace, .mark .closeBrace]))
        = some (.apply (.name "mkShell") (setTerm natives builds strings),
          [.mark .closeParen, .mark .openBrace, .mark .closeBrace]) := by
    have hname : operand (depth + 5) (.name "mkShell" :: (setLexemes natives builds strings
        ++ [.mark .closeParen, .mark .openBrace, .mark .closeBrace]))
          = some (.name "mkShell", setLexemes natives builds strings
            ++ [.mark .closeParen, .mark .openBrace, .mark .closeBrace]) :=
      operand_name "mkShell" (by decide)
    rw [term_application rfl hname, arguments_more _ rfl hset, arguments_stop _ rfl]
  have hfunction : term (depth + 7) (formalLexemes "mkShell" formals ++ (.name "mkShell" ::
      (setLexemes natives builds strings
        ++ [.mark .closeParen, .mark .openBrace, .mark .closeBrace])))
        = some (.function ("mkShell" :: formals)
          (.apply (.name "mkShell") (setTerm natives builds strings)),
          [.mark .closeParen, .mark .openBrace, .mark .closeBrace]) :=
    term_function (formals?_formalLexemes "mkShell" formals _) hbody
  have hparen : operand (depth + 9) (.mark .openParen :: (formalLexemes "mkShell" formals
      ++ (.name "mkShell" :: (setLexemes natives builds strings
        ++ [.mark .closeParen, .mark .openBrace, .mark .closeBrace]))))
        = some (.function ("mkShell" :: formals)
          (.apply (.name "mkShell") (setTerm natives builds strings)),
          [.mark .openBrace, .mark .closeBrace]) := by
    rw [operand, atom, hfunction]
    rfl
  have hcall : operand (depth + 10) (shellLexemes formals natives builds strings)
      = some (.select (.name "pkgs") "callPackage", .mark .openParen ::
        (formalLexemes "mkShell" formals ++ (.name "mkShell" ::
          (setLexemes natives builds strings
            ++ [.mark .closeParen, .mark .openBrace, .mark .closeBrace])))) := by
    rfl
  have hempty : operand (depth + 8) [.mark .openBrace, .mark .closeBrace] = some (.set [], []) := by
    rfl
  rw [term_application rfl hcall, arguments_more _ rfl hparen, arguments_more _ rfl hempty,
    arguments_stop _ rfl]
  rfl

theorem length_strings (strings : List (String × String)) :
    (strings.flatMap stringLexemes).length = 4 * strings.length := by
  induction strings with
  | nil => rfl
  | cons string strings ih =>
    rw [List.flatMap_cons, List.length_append, ih, List.length_cons]
    show 4 + _ = _
    omega

theorem length_shellLexemes (formals natives builds : List String)
    (strings : List (String × String)) :
    natives.length + builds.length + 4 * strings.length + 24
      ≤ (shellLexemes formals natives builds strings).length := by
  simp only [shellLexemes, formalLexemes, setLexemes, listLexemes, List.length_append,
    List.length_cons, List.length_nil, List.length_map, length_strings]
  omega

/-- A text with the lexemes of a program that makes a shell is read as that program. -/
theorem read_of_shellLexemes {text : String} {formals natives builds : List String}
    {strings : List (String × String)}
    (h : Lexer.Lexes text.toList (shellLexemes formals natives builds strings)) :
    read text = some (shellTerm formals natives builds strings) := by
  have hlength := length_shellLexemes formals natives builds strings
  obtain ⟨depth, hdepth⟩ : ∃ d, 4 * (shellLexemes formals natives builds strings).length + 4
      = d + 11 := ⟨4 * (shellLexemes formals natives builds strings).length - 7, by omega⟩
  have hterm : term (depth + 11) (shellLexemes formals natives builds strings)
      = some (shellTerm formals natives builds strings, []) :=
    term_shellLexemes (by omega) (by omega) (by omega)
  unfold read
  rw [Lexer.read_of_lexes h]
  simp only [hdepth, hterm]

end Parser

end CrossShell.Nix
