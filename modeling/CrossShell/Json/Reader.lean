import CrossShell.Json.Fault

/-!
Reading a JSON text from its front.

A `Reader` takes characters off the text that is left and either returns a value or refuses. It also
says what is left when it refuses, because a record that turns out to be wrong is read on to its end
before the refusal gets its place. `enclosed` does that; `fail` and `failPeek` refuse at the
character reached and just after it.
-/

set_option autoImplicit false

namespace CrossShell.Json

/-- A step of reading: from the text that is left to a value or a refusal, and what is left then. -/
abbrev Reader (α : Type) : Type :=
  EStateM Failure (List Char) α

/-- How many bytes the UTF-8 encoding of a text has. -/
def byteCount (s : List Char) : Nat :=
  s.foldr (fun c n => c.utf8Size + n) 0

namespace Reader

variable {α : Type}

/-! ## Refusals -/

/-- Refuses with the place at which `unread` bytes are left. -/
def failAt (unread : Nat) (fault : SyntaxFault) : Reader α := fun s =>
  .error ⟨.malformed fault, some unread⟩ s

/-- Refuses at the place reached. -/
def fail (fault : SyntaxFault) : Reader α := fun s =>
  failAt (byteCount s) fault s

/-- Refuses one byte further on, if the text goes on. -/
def failPeek (fault : SyntaxFault) : Reader α := fun s =>
  failAt (byteCount s - 1) fault s

/-- Refuses a value for its shape. The place is given by what encloses the value. -/
def reject (fault : DataFault) : Reader α := fun s =>
  .error ⟨.data fault, none⟩ s

/-- Gives a refusal without a place the place where the reading stands. -/
def placeAt (s : List Char) (failure : Failure) : Failure :=
  { failure with unread := failure.unread <|> some (byteCount s) }

/-- Reads, and gives a refusal without a place the place reached. -/
def placed (r : Reader α) : Reader α := fun s =>
  match r s with
  | .ok a s' => .ok a s'
  | .error failure s' => .error (placeAt s' failure) s'

/-- Reads a body and what closes it. When the body is refused, the closing is still tried, and the
refusal gets the place after that. -/
def enclosed (body : Reader α) (close : Reader Unit) : Reader α := fun s =>
  match body s with
  | .ok a s' =>
    match close s' with
    | .ok _ s'' => .ok a s''
    | .error failure s'' => .error (placeAt s'' failure) s''
  | .error failure s' =>
    match close s' with
    | .ok _ s'' => .error (placeAt s'' failure) s''
    | .error _ s'' => .error (placeAt s'' failure) s''

/-! ## Characters -/

/-- The four blanks that may stand between tokens. -/
def isSpace (c : Char) : Bool :=
  c == ' ' || c == '\n' || c == '\t' || c == '\r'

/-- The next character that is no blank; the blanks before it are read. -/
def peek : Reader (Option Char) := fun s =>
  let s' := s.dropWhile isSpace
  .ok s'.head? s'

/-- The character reached. -/
def here : Reader (Option Char) := fun s =>
  .ok s.head? s

/-- Takes one character. -/
def advance : Reader Unit := fun s =>
  .ok () s.tail

/-- Takes the rest of a literal word. -/
def word : List Char → Reader Unit
  | [] => pure ()
  | c :: rest => fun s =>
    match s with
    | [] => fail .endInValue s
    | d :: s' => if d = c then word rest s' else failPeek .expectedIdent s

/-! ## Strings -/

/-- The character that a one-letter escape stands for. -/
def escaped? (c : Char) : Option Char :=
  if c = '"' ∨ c = '\\' ∨ c = '/' then some c
  else if c = 'b' then some '\x08'
  else if c = 'f' then some '\x0c'
  else if c = 'n' then some '\n'
  else if c = 'r' then some '\r'
  else if c = 't' then some '\t'
  else none

/-- The number that four hexadecimal digits write. -/
def hexQuad? (a b c d : Char) : Option Nat := do
  let a ← Text.hexValue? a
  let b ← Text.hexValue? b
  let c ← Text.hexValue? c
  let d ← Text.hexValue? d
  return ((a * 16 + b) * 16 + c) * 16 + d

/-- Refuses what stands where four hexadecimal digits should. -/
def failHex : Reader α := fun s =>
  if byteCount s < 4 then failAt 0 .endInString s
  else failAt (byteCount s - 4) .invalidEscape s

/-- Refuses what stands where the second half of a surrogate pair should. -/
def failPair : Reader α := fun s =>
  match s with
  | [] => fail .endInString s
  | c :: rest =>
    if c ≠ '\\' then failPeek .brokenSurrogatePair s
    else match rest with
      | [] => failAt 0 .endInString s
      | d :: rest' => if d ≠ 'u' then failAt (byteCount rest - 1) .brokenSurrogatePair s
        else failHex rest'

/-- Whether a number is the first half of a surrogate pair. -/
def isHighSurrogate (n : Nat) : Bool :=
  0xD800 ≤ n && n ≤ 0xDBFF

/-- Whether a number is the second half of a surrogate pair. -/
def isLowSurrogate (n : Nat) : Bool :=
  0xDC00 ≤ n && n ≤ 0xDFFF

/-- The character of a surrogate pair. -/
def joinSurrogates (high low : Nat) : Char :=
  Char.ofNat ((high - 0xD800) * 0x400 + (low - 0xDC00) + 0x10000)

/-- The characters of a string up to its closing quote, with those before them in reverse. -/
def stringRest (before : List Char) : Reader (List Char)
  | [] => failAt 0 .endInString []
  | c :: rest =>
    if c = '"' then .ok before.reverse rest
    else if c = '\\' then
      match rest with
      | [] => failAt 0 .endInString []
      | e :: more =>
        if e = 'u' then
          match more with
          | h1 :: h2 :: h3 :: h4 :: tail =>
            match hexQuad? h1 h2 h3 h4 with
            | none => failHex more
            | some n =>
              if isLowSurrogate n then fail .loneSurrogate tail
              else if isHighSurrogate n then
                match tail with
                | '\\' :: 'u' :: l1 :: l2 :: l3 :: l4 :: tail' =>
                  match hexQuad? l1 l2 l3 l4 with
                  | none => failHex (l1 :: l2 :: l3 :: l4 :: tail')
                  | some low =>
                    if isLowSurrogate low then stringRest (joinSurrogates n low :: before) tail'
                    else fail .loneSurrogate tail'
                | other => failPair other
              else stringRest (Char.ofNat n :: before) tail
          | other => failHex other
        else match escaped? e with
          | some x => stringRest (x :: before) more
          | none => failPeek .invalidEscape rest
    else if c.toNat < 0x20 then fail .controlInString rest
    else stringRest (c :: before) rest

/-- The text of a string whose opening quote was taken. -/
def stringBody : Reader String := do
  return String.ofList (← stringRest [])

/-- Passes over a string whose opening quote was taken. An escape of four digits need not name a
character here. -/
def skipStringBody : Reader Unit
  | [] => failAt 0 .endInString []
  | c :: rest =>
    if c = '"' then .ok () rest
    else if c = '\\' then
      match rest with
      | [] => failAt 0 .endInString []
      | e :: more =>
        if e = 'u' then
          match more with
          | h1 :: h2 :: h3 :: h4 :: tail =>
            match hexQuad? h1 h2 h3 h4 with
            | none => failHex more
            | some _ => skipStringBody tail
          | other => failHex other
        else match escaped? e with
          | some _ => skipStringBody more
          | none => failPeek .invalidEscape rest
    else if c.toNat < 0x20 then fail .controlInString (c :: rest)
    else skipStringBody rest

/-! ## Members -/

/-- Takes the colon after a key. -/
def colon : Reader Unit := do
  match ← peek with
  | none => failPeek .endInObject
  | some c => if c = ':' then advance else failPeek .expectedColon

/-- Whether a list goes on. After an item a comma is taken; before the first one there is none. -/
def nextItem (first : Bool) : Reader Bool := do
  match ← peek with
  | none => failPeek .endInList
  | some c =>
    if c = ']' then return false
    else if first then return true
    else if c = ',' then
      advance
      match ← peek with
      | none => failPeek .endInValue
      | some d => if d = ']' then failPeek .trailingComma else return true
    else failPeek .expectedListComma

/-- The next key of an object, if it goes on. After a field a comma is taken. -/
def nextKey (first : Bool) : Reader (Option String) := do
  match ← peek with
  | none => failPeek .endInObject
  | some c =>
    if c = '\x7d' then return none
    else if first then
      if c = '"' then
        advance
        return some (← stringBody)
      else failPeek .keyNotString
    else if c = ',' then
      advance
      match ← peek with
      | none => failPeek .endInValue
      | some d =>
        if d = '"' then
          advance
          return some (← stringBody)
        else if d = '\x7d' then failPeek .trailingComma
        else failPeek .keyNotString
    else failPeek .expectedObjectComma

/-- Takes the bracket that closes a list. -/
def closeList : Reader Unit := do
  match ← peek with
  | none => failPeek .endInList
  | some c =>
    if c = ']' then advance
    else if c = ',' then
      advance
      match ← peek with
      | some d => if d = ']' then failPeek .trailingComma else failPeek .trailingCharacters
      | none => failPeek .trailingCharacters
    else failPeek .trailingCharacters

/-- Takes the brace that closes an object. -/
def closeObject : Reader Unit := do
  match ← peek with
  | none => failPeek .endInObject
  | some c =>
    if c = '\x7d' then advance
    else if c = ',' then failPeek .trailingComma
    else failPeek .trailingCharacters

/-- Refuses a text that goes on. -/
def atEnd : Reader Unit := do
  match ← peek with
  | none => return ()
  | some _ => failPeek .trailingCharacters

end Reader

/-! ## Whole texts -/

/-- Reads a whole text. -/
def decode {α : Type} (r : Reader α) (text : String) : Except ReadError α :=
  let whole : Reader α := do
    let a ← r
    Reader.atEnd
    return a
  match whole text.toList with
  | .ok a _ => .ok a
  | .error failure _ =>
    let position := failure.unread.map fun unread =>
      Position.after (text.utf8ByteSize - unread) text
    .error ⟨failure.cause, position⟩

end CrossShell.Json
