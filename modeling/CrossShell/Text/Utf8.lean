/-!
Characters from bytes.

`decode?` reads a text from its UTF-8 bytes and refuses every other sequence. `decodeLossy` reads
any sequence of bytes: each maximal part that no character's encoding starts with becomes one
replacement character. The second is a machine that takes one byte at a time; between characters it
is in the state `none`, inside one it knows how many bytes are owed and which ones may come next.
-/

set_option autoImplicit false

namespace CrossShell.Text

/-- The text whose UTF-8 encoding the bytes are, if there is one. -/
def decode? (bytes : ByteArray) : Option String :=
  String.fromUTF8? bytes

/-- The UTF-8 encoding of a text. -/
def encode (text : String) : ByteArray :=
  text.toUTF8

/-! ## Lossy decoding -/

/-- A character whose encoding has begun. -/
structure Partial where
  /-- The bits read so far. -/
  value : Nat
  /-- How many bytes are still to come. -/
  owed : Nat
  /-- The least byte that may come next. -/
  low : Nat
  /-- The greatest byte that may come next. -/
  high : Nat

/-- What is written for a part that is no character. -/
def replacement : Char := '\uFFFD'

/-- The first byte of a character: what it writes, and the character it opens. -/
def leadByte (b : Nat) : List Char × Option Partial :=
  if b < 0x80 then ([Char.ofNat b], none)
  else if b < 0xC2 then ([replacement], none)
  else if b < 0xE0 then ([], some ⟨b - 0xC0, 1, 0x80, 0xBF⟩)
  else if b < 0xF0 then
    ([], some ⟨b - 0xE0, 2, if b = 0xE0 then 0xA0 else 0x80, if b = 0xED then 0x9F else 0xBF⟩)
  else if b < 0xF5 then
    ([], some ⟨b - 0xF0, 3, if b = 0xF0 then 0x90 else 0x80, if b = 0xF4 then 0x8F else 0xBF⟩)
  else ([replacement], none)

/-- The next byte in any state. A byte that cannot continue the open character ends it unread. -/
def nextByte (state : Option Partial) (b : Nat) : List Char × Option Partial :=
  match state with
  | none => leadByte b
  | some p =>
    if p.low ≤ b ∧ b ≤ p.high then
      let value := p.value * 64 + (b - 0x80)
      if p.owed = 1 then ([Char.ofNat value], none)
      else ([], some ⟨value, p.owed - 1, 0x80, 0xBF⟩)
    else
      let (written, state') := leadByte b
      (replacement :: written, state')

/-- The characters that the machine writes from a state on. -/
def decodeFrom (state : Option Partial) : List UInt8 → List Char
  | [] => if state.isSome then [replacement] else []
  | b :: rest =>
    let (written, state') := nextByte state b.toNat
    written ++ decodeFrom state' rest

/-- The text of any sequence of bytes. -/
def decodeLossy (bytes : ByteArray) : String :=
  String.ofList (decodeFrom none bytes.toList)

end CrossShell.Text
