import CrossShell.Script.Reading

/-!
The grammar of config scripts, as far as it is described: there are no loops, no bodies of functions
and no arithmetic, and a text with any of these is refused as if it were no script.

`parse` reads a script as a block of statements. The parts of the grammar call each other with less
and less fuel; what `parse` starts with is more than any tokens can use up, since a few calls at
most pass before another token is read. Each part also keeps account of the places that values take,
in the order in which the script is read.
-/

set_option autoImplicit false

namespace CrossShell.Script

namespace Parser

/-! ## Operators -/

/-- The operator that stands before an operand. -/
def unary? : Token → Option Unary
  | .word "not" => some .not
  | .symbol .minus => some .minus
  | .symbol .length => some .length
  | _ => none

/-- How tightly an operator before its operand binds. -/
def unaryPower : Nat := 12

/-- The operator that stands between operands, how tightly it binds what is left of it, and how
tightly what is right of it. -/
def binary? : Token → Option (Binary × Nat × Nat)
  | .word "or" => some (.or, 1, 1)
  | .word "and" => some (.and, 2, 2)
  | .symbol .equal => some (.equal, 3, 3)
  | .symbol .notEqual => some (.notEqual, 3, 3)
  | .symbol .concat => some (.concat, 9, 8)
  | _ => none

/-- An operator applied to the operand after it. -/
def applyUnary (op : Unary) (e : Operand) : Parser Operand := do
  let h ← fetch e.holding
  match if h = .literal then e.expr.folded? op else none with
  | some literal => return ⟨literal, .literal⟩
  | none =>
    if op = .not ∧ h = .outcome then return ⟨.unary op e.expr, .outcome⟩
    else
      spend h
      return ⟨.unary op e.expr, .operation⟩

/-- Makes a left operand ready for its operator, before the right one is read. -/
def prepareLeft (op : Binary) (left : Operand) : Parser Holding := do
  match op with
  | .and => do
    test true left
    return .operation
  | .or => do
    test false left
    return .operation
  | .concat => do
    toNext left.holding
    return .place
  | .equal | .notEqual => toOperand left.holding

/-- How the result of an operator is kept, whose left operand was made ready. -/
def combine (op : Binary) (left : Holding) (right : Operand) : Parser Holding := do
  match op with
  | .and | .or => do
    if (← fetch right.holding) = .place then return .place else return .operation
  | .concat => do
    toNext right.holding
    release 1
    return .place
  | .equal | .notEqual => do
    let right ← if left = .literal then toPlace right.holding else toOperand right.holding
    release (left.places + right.places)
    return .outcome

/-! ## Expressions -/

/-- The value that is one token. -/
def constant? : Token → Option Expr
  | .numeral (.integer value) => some (.integer value)
  | .numeral (.number value) => some (.number value)
  | .string bytes => some (.string bytes)
  | .word "nil" => some .nil
  | .word "true" => some (.bool true)
  | .word "false" => some (.bool false)
  | _ => none

/-- A field of a value that is in a place. -/
def field (whole : Expr) (h : Holding) (key : Operand) : Parser Operand := do
  let k ← if key.expr.isShortKey && key.holding == .literal then pure .literal
    else toPlace key.holding
  return ⟨.index whole key.expr, .fetch (h.places + k.places)⟩

/-- A name as a key. -/
def nameKey (text : String) : Operand :=
  ⟨.string (Literal.bytesOf text.toList), .literal⟩

/-- A variable. One that is not local is a field of the place where global variables are. -/
def variableNamed (text : String) : Parser Operand := do
  if (← get).locals.contains text then return ⟨.name text, .named⟩
  else if (nameKey text).expr.isShortKey then return ⟨.name text, .fetch 0⟩
  else
    take 2
    return ⟨.name text, .fetch 2⟩

/-- A call, with the function and its arguments in places from `start` on. -/
def call (start : Nat) (callee : Expr) (arguments : List Expr) : Parser Operand := do
  keep (start + 1)
  return ⟨.call callee arguments, .call⟩

mutual

/-- An expression whose operators bind more tightly than `limit`. -/
def expression (fuel limit : Nat) : Parser Operand :=
  match fuel with
  | 0 => refuse
  | fuel + 1 => nested do
    match (← peek).bind unary? with
    | some op => do
      advance
      let e ← expression fuel unaryPower
      operators fuel limit (← applyUnary op e)
    | none => do
      operators fuel limit (← simple fuel)

/-- The operators after a left operand that bind more tightly than `limit`. -/
def operators (fuel limit : Nat) (left : Operand) : Parser Operand :=
  match fuel with
  | 0 => refuse
  | fuel + 1 => do
    match (← peek).bind binary? with
    | none => return left
    | some (op, leftPower, rightPower) =>
      if limit < leftPower then
        advance
        let h ← prepareLeft op left
        let right ← expression fuel rightPower
        let h ← combine op h right
        operators fuel limit ⟨.binary op left.expr right.expr, h⟩
      else return left

/-- An operand without operators. -/
def simple (fuel : Nat) : Parser Operand :=
  match fuel with
  | 0 => refuse
  | fuel + 1 => do
    match (← peek).bind constant? with
    | some e =>
      advance
      return ⟨e, .literal⟩
    | none =>
      if ← accept (.word "function") then
        expect (.symbol .parenOpen)
        expect (.symbol .parenClose)
        expect (.word "end")
        take 1
        return ⟨.function, .place⟩
      else if ← accept (.symbol .braceOpen) then table fuel
      else suffixed fuel

/-- A variable or an expression in parentheses, with what is applied to it. -/
def suffixed (fuel : Nat) : Parser Operand :=
  match fuel with
  | 0 => refuse
  | fuel + 1 => do
    if ← accept (.symbol .parenOpen) then
      let inner ← expression fuel 0
      expect (.symbol .parenClose)
      let h ← fetch inner.holding
      if h = .literal then suffixes fuel inner else suffixes fuel ⟨.group inner.expr, h⟩
    else
      let text ← anyName
      suffixes fuel (← variableNamed text)

/-- What is applied to an expression: keys and arguments. -/
def suffixes (fuel : Nat) (e : Operand) : Parser Operand :=
  match fuel with
  | 0 => refuse
  | fuel + 1 => do
    match ← peek with
    | some (.symbol .dot) =>
      let h ← toPlace e.holding
      advance
      let text ← anyName
      suffixes fuel (← field e.expr h (nameKey text))
    | some (.symbol .bracketOpen) =>
      let h ← toPlace e.holding
      advance
      let key ← expression fuel 0
      expect (.symbol .bracketClose)
      suffixes fuel (← field e.expr h key)
    | some (.symbol .parenOpen) =>
      toNext e.holding
      let start := (← get).places - 1
      advance
      if ← accept (.symbol .parenClose) then suffixes fuel (← call start e.expr [])
      else
        let (arguments, h) ← expressions fuel
        expect (.symbol .parenClose)
        if h ≠ .call then toNext h
        suffixes fuel (← call start e.expr arguments)
    | some (.string bytes) =>
      toNext e.holding
      let start := (← get).places - 1
      advance
      toNext .literal
      suffixes fuel (← call start e.expr [.string bytes])
    | some (.symbol .braceOpen) =>
      toNext e.holding
      let start := (← get).places - 1
      advance
      let argument ← table fuel
      suffixes fuel (← call start e.expr [argument.expr])
    | _ => return e

/-- Expressions with commas between them, all but the last of them in places. Answers also how the
last one is kept. -/
def expressions (fuel : Nat) : Parser (List Expr × Holding) :=
  match fuel with
  | 0 => refuse
  | fuel + 1 => do
    let e ← expression fuel 0
    if ← accept (.symbol .comma) then
      toNext e.holding
      let (rest, h) ← expressions fuel
      return (e.expr :: rest, h)
    else return ([e.expr], e.holding)

/-- A table after its opening brace. -/
def table (fuel : Nat) : Parser Operand :=
  match fuel with
  | 0 => refuse
  | fuel + 1 => do
    take 1
    let start := (← get).places
    let contents ← entries fuel start 0
    keep start
    return ⟨.table contents, .place⟩

/-- The entries of a table up to its closing brace, when the last `waiting` items are in places. -/
def entries (fuel start waiting : Nat) : Parser (List (Option Expr × Expr)) :=
  match fuel with
  | 0 => refuse
  | fuel + 1 => do
    if ← accept (.symbol .braceClose) then return []
    else
      let waiting ← if waiting = itemBatch then do
          keep start
          pure 0
        else pure waiting
      let first ← entry fuel
      let waiting := if first.1.isNone then waiting + 1 else waiting
      if ← accept (.symbol .comma) then return first :: (← entries fuel start waiting)
      else if ← accept (.symbol .semicolon) then
        return first :: (← entries fuel start waiting)
      else
        expect (.symbol .braceClose)
        return [first]

/-- One entry of a table. An item stays in a place, but a value with a key does not. -/
def entry (fuel : Nat) : Parser (Option Expr × Expr) :=
  match fuel with
  | 0 => refuse
  | fuel + 1 => do
    let start := (← get).places
    match (← get).tokens with
    | .name _ :: .bad :: _ => refuse
    | .name text :: .symbol .assign :: _ => do
      advance
      keyed fuel start (nameKey text)
    | .symbol .bracketOpen :: _ => do
      advance
      let key ← expression fuel 0
      expect (.symbol .bracketClose)
      keyed fuel start key
    | _ => do
      let item ← expression fuel 0
      toNext item.holding
      return (none, item.expr)

/-- The value of an entry whose key was read. -/
def keyed (fuel start : Nat) (key : Operand) : Parser (Option Expr × Expr) :=
  match fuel with
  | 0 => refuse
  | fuel + 1 => do
    let h ← fetch key.holding
    expect (.symbol .assign)
    let _ ← field .nil .named ⟨key.expr, h⟩
    let value ← expression fuel 0
    let _ ← toOperand value.holding
    keep start
    return (some key.expr, value.expr)

end

/-! ## Statements -/

/-- Whether a block ends before a token, or before the end of the tokens. -/
def endsBlock : Option Token → Bool
  | none => true
  | some (.word text) => ["else", "elseif", "end", "until"].contains text
  | some _ => false

/-- So many local variables can be in scope. -/
def localLimit : Nat := 200

/-- Names of new variables with commas between them, the first being variable number `count`. -/
def names (fuel count : Nat) : Parser (List String) :=
  match fuel with
  | 0 => refuse
  | fuel + 1 => do
    let text ← anyName
    if localLimit < count then refuse
    if ← accept (.symbol .comma) then return text :: (← names fuel (count + 1))
    else return [text]

/-- The declaration of variables after its first word. -/
def declaration (fuel : Nat) : Parser Statement := do
  let known := (← get).locals
  let texts ← names fuel (known.length + 1)
  let values ←
    if ← accept (.symbol .assign) then do
      let (values, h) ← expressions fuel
      if h ≠ .call then toNext h
      take (texts.length - values.length)
      pure values
    else do
      take texts.length
      pure []
  modify fun r => { r with locals := texts.reverse ++ known }
  return .declare texts values

/-- Assigns a value that is kept somehow. A field takes its value from a place. -/
def store (target value : Holding) : Parser Unit := do
  match target with
  | .named => return
  | _ => do
    let _ ← toOperand value

/-- A call, or an assignment to a variable or under a key. -/
def callOrAssignment (fuel : Nat) : Parser Statement := do
  let e ← suffixed fuel
  if ← accept (.symbol .assign) then
    match e.expr with
    | .name text => do
      let value ← expression fuel 0
      store e.holding value.holding
      return .assign (.name text) value.expr
    | .index whole key => do
      let value ← expression fuel 0
      store e.holding value.holding
      return .assign (.index whole key) value.expr
    | _ => refuse
  else match e.expr with
    | .call callee arguments => return .perform callee arguments
    | _ => refuse

/-- The answer of a script after its first word. It ends its block. -/
def answer (fuel : Nat) : Parser Statement := do
  let next ← peek
  let values ←
    if endsBlock next || next = some (.symbol .semicolon) then pure []
    else do
      let (values, h) ← expressions fuel
      if h ≠ .call then
        if values.length = 1 then
          let _ ← toPlace h
        else toNext h
      pure values
  let _ ← accept (.symbol .semicolon)
  if endsBlock (← peek) then return .answer values else refuse

/-- Gives back the places that no local variable has. -/
def settle : Parser Unit :=
  modify fun r => { r with places := r.locals.length }

/-- Reads a block whose variables are forgotten after it. -/
def inScope {α : Type} (p : Parser α) : Parser α := do
  let known := (← get).locals
  let a ← p
  modify fun r => { r with locals := known }
  settle
  return a

mutual

/-- A block of statements. -/
def block (fuel : Nat) : Parser (List Statement) :=
  match fuel with
  | 0 => refuse
  | fuel + 1 => do
    if endsBlock (← peek) then return []
    else
      let first ← nested (statement fuel)
      settle
      return first.toList ++ (← block fuel)

/-- A statement, or none where there is only a semicolon. -/
def statement (fuel : Nat) : Parser (Option Statement) :=
  match fuel with
  | 0 => refuse
  | fuel + 1 => do
    if ← accept (.symbol .semicolon) then return none
    else if ← accept (.word "return") then return some (← answer fuel)
    else if ← accept (.word "if") then return some (← branch fuel)
    else if ← accept (.word "local") then return some (← declaration fuel)
    else return some (← callOrAssignment fuel)

/-- A choice after its first word. -/
def branch (fuel : Nat) : Parser Statement :=
  match fuel with
  | 0 => refuse
  | fuel + 1 => do
    let condition ← expression fuel 0
    expect (.word "then")
    test true condition
    let yes ← inScope (block fuel)
    if ← accept (.word "elseif") then return .branch condition.expr yes [← branch fuel]
    else if ← accept (.word "else") then
      let no ← inScope (block fuel)
      expect (.word "end")
      return .branch condition.expr yes no
    else
      expect (.word "end")
      return .branch condition.expr yes []

end

end Parser

/-! ## Scripts -/

/-- The block that a text writes. -/
def parse (source : List Char) : Except Failure (List Statement) := do
  let tokens := tokens source
  if tokens.head? = some .bad then throw .malformed
  let fuel := 16 * (tokens.length + 1)
  let (statements, r) ← Parser.block fuel ⟨tokens, 0, 0, []⟩
  if r.tokens.isEmpty then return statements else throw .malformed

/-- The block of a script, which may also be just the expressions that it answers. -/
def program (source : List Char) : Except Failure (List Statement) :=
  match parse ("return ".toList ++ source) with
  | .ok statements => .ok statements
  | .error _ => parse source

end CrossShell.Script
