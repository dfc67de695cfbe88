import CrossShell.Json.Reader

/-!
Numbers in a JSON text.

No type of this library is written as a number, so a number is only read to be named in a refusal,
or passed over. A number without fraction and exponent that fits 64 bits is an integer. For every
other one the digits are gathered as long as they fit 64 bits, and the result is multiplied or
divided by one power of ten, each step rounded; a result without a finite value is refused.
-/

set_option autoImplicit false

namespace CrossShell.Json.Reader

open CrossShell.Number

variable {α : Type}

/-! ## Digits -/

/-- Takes the digits that stand here. -/
def digits : Reader (List Nat) := fun s =>
  .ok ((s.takeWhile Char.isDigit).map fun c => c.toNat - 48) (s.dropWhile Char.isDigit)

/-- The greatest number of digits gathered exactly. -/
def greatestDigits : Nat := Nat.pow 2 64 - 1

/-- The greatest exponent read exactly. -/
def greatestPower : Nat := Nat.pow 2 31 - 1

/-- Appends digits to a number as long as it stays within `limit`; the digits that do not fit are
returned. -/
def gather (limit n : Nat) : List Nat → Nat × List Nat
  | [] => (n, [])
  | d :: rest => if limit < n * 10 + d then (n, d :: rest) else gather limit (n * 10 + d) rest

/-! ## Values -/

/-- The number `gathered * 10 ^ exponent`, by one multiplication or division; powers beyond the
table of the format are divided out first, and `fuel` bounds how often. -/
def scaled (negative : Bool) (exponent : Int) : Nat → Binary64 → Reader Found
  | 0, _ => return .number (Binary64.zero negative)
  | fuel + 1, x => do
    let signed := fun (y : Binary64) => if negative then y.neg else y
    if exponent.natAbs ≤ 308 then
      if 0 ≤ exponent then
        match x.timesPowerOfTen exponent.toNat with
        | .infinite _ => fail .numberOutOfRange
        | y => return .number (signed y)
      else return .number (signed (x.overPowerOfTen exponent.natAbs))
    else if x.isZero then return .number (signed x)
    else if 0 ≤ exponent then fail .numberOutOfRange
    else scaled negative (exponent + 308) fuel (x.overPowerOfTen 308)

/-- The number that the gathered digits and an exponent write. -/
def fromParts (negative : Bool) (gathered : Nat) (exponent : Int) : Reader Found :=
  scaled negative exponent 4 (Binary64.ofDecimal false gathered 0)

/-- Takes an exponent, its mark first. -/
def exponentPart (negative : Bool) (gathered : Nat) (start : Int) : Reader Found := do
  advance
  let down ← (do
    match ← here with
    | some '+' => advance; return false
    | some '-' => advance; return true
    | _ => return false : Reader Bool)
  match ← here with
  | none => fail .endInValue
  | some c =>
    if !c.isDigit then failPeek .invalidNumber
    else
      let ds ← digits
      let (power, excess) := gather greatestPower 0 ds
      if excess.isEmpty then
        fromParts negative gathered (if down then start - power else start + power)
      else if gathered ≠ 0 ∧ !down then
        fun s => failAt (byteCount s + excess.length - 1) .numberOutOfRange s
      else return .number (Binary64.zero negative)

/-- Goes on with an exponent if one stands here. -/
def maybeExponent (negative : Bool) (gathered : Nat) (start : Int) : Reader Found := do
  match ← here with
  | some 'e' | some 'E' => exponentPart negative gathered start
  | _ => fromParts negative gathered start

/-- Takes a fraction, its point first. -/
def fractionPart (negative : Bool) (gathered : Nat) (start : Int) : Reader Found := do
  advance
  let ds ← digits
  let (all, excess) := gather greatestDigits gathered ds
  if ds.isEmpty then
    match ← here with
    | some _ => failPeek .invalidNumber
    | none => failPeek .endInValue
  else maybeExponent negative all (start - (ds.length - excess.length : Nat))

/-- Takes a number whose sign was taken. -/
def number (negative : Bool) : Reader Found := do
  match ← here with
  | none => fail .endInValue
  | some c =>
    if !c.isDigit then failPeek .invalidNumber
    else if c = '0' then
      advance
      match ← here with
      | some '.' => fractionPart negative 0 0
      | some 'e' | some 'E' => exponentPart negative 0 0
      | some d =>
        if d.isDigit then failPeek .invalidNumber else return integer negative 0
      | none => return integer negative 0
    else
      let ds ← digits
      let (gathered, excess) := gather greatestDigits 0 ds
      match ← here with
      | some '.' => fractionPart negative gathered excess.length
      | some 'e' | some 'E' => exponentPart negative gathered excess.length
      | _ =>
        if excess.isEmpty then return integer negative gathered
        else fromParts negative gathered excess.length
where
  /-- The integer, if 64 bits hold it. -/
  integer (negative : Bool) (n : Nat) : Found :=
    if !negative then .integer n
    else if 0 < n ∧ n ≤ Nat.pow 2 63 then .integer (-n)
    else .number (Binary64.ofDecimal true n 0)

/-! ## Passing over -/

/-- Passes over an exponent, its mark first. -/
def skipExponent : Reader Unit := do
  advance
  match ← here with
  | some '+' | some '-' => advance
  | _ => pure ()
  match ← here with
  | none => fail .invalidNumber
  | some c =>
    if c.isDigit then discard digits else failPeek .invalidNumber

/-- Passes over what may follow the whole part of a number. -/
def skipFraction : Reader Unit := do
  match ← here with
  | some '.' =>
    advance
    let ds ← digits
    if ds.isEmpty then failPeek .invalidNumber
    else match ← here with
      | some 'e' | some 'E' => skipExponent
      | _ => return ()
  | some 'e' | some 'E' => skipExponent
  | _ => return ()

/-- Passes over a number whose sign was taken. -/
def skipNumber : Reader Unit := do
  match ← here with
  | none => fail .invalidNumber
  | some c =>
    if !c.isDigit then failPeek .invalidNumber
    else if c = '0' then
      advance
      match ← here with
      | some d => if d.isDigit then failPeek .invalidNumber else skipFraction
      | none => return ()
    else
      discard digits
      skipFraction

end CrossShell.Json.Reader
