import CrossShell.Number.Binary64
import CrossShell.Script.Literal

/-!
Numerals of config scripts.

A numeral is an integer of 64 bits or a floating point number, in decimal or after `0x` in
hexadecimal digits. A decimal integer that is too large is a floating point number; a hexadecimal
one keeps its lowest 64 bits. `ofText?` reads a numeral that is the content of a string.
-/

set_option autoImplicit false

namespace CrossShell.Script

open Number (Binary64)
open Text (ofDigits)

/-- The value of a numeral. -/
inductive Numeral where
  | integer (value : Int64)
  | number (value : Binary64)
  deriving DecidableEq

namespace Numeral

/-! ## Where a numeral ends -/

/-- What a numeral goes on with, and the rest. Exponents are marked by one of `marks`, and a sign
may follow a mark directly. -/
def span (marks : List Char) (afterMark : Bool) : List Char → List Char × List Char
  | [] => ([], [])
  | c :: rest =>
    if (afterMark && (c == '+' || c == '-')) || (Text.hexValue? c).isSome || c == '.'
        || marks.contains c then
      let (taken, left) := span marks (marks.contains c) rest
      (c :: taken, left)
    else ([], c :: rest)

/-- A numeral in front of a text, as it is spelt, and the rest. -/
def spanFirst : List Char → List Char × List Char
  | '0' :: c :: rest =>
    if c = 'x' ∨ c = 'X' then
      let (taken, left) := span ['p', 'P'] false rest
      ('0' :: c :: taken, left)
    else span ['e', 'E'] false ('0' :: c :: rest)
  | s => span ['e', 'E'] false s

/-! ## What it means -/

/-- Digits of a base, and what follows them. -/
def takeDigits (base : Nat) (s : List Char) : List Char × List Char :=
  s.span fun c => (Text.hexValue? c).any (· < base)

/-- An exponent after one of its marks; no text is the exponent zero. -/
def exponent? (marks : List Char) : List Char → Option Int
  | [] => some 0
  | mark :: rest =>
    let (negative, digits) := match rest with
      | '-' :: digits => (true, digits)
      | '+' :: digits => (false, digits)
      | digits => (false, digits)
    if marks.contains mark ∧ digits ≠ [] ∧ digits.all Char.isDigit then
      let n := Int.ofNat (ofDigits 10 digits)
      some (if negative then -n else n)
    else none

/-- The parts of a numeral with a point or an exponent: its digits as one number, how many of them
stand after the point, and the exponent. -/
def parts? (base : Nat) (marks : List Char) (s : List Char) : Option (Nat × Nat × Int) := do
  let (whole, rest) := takeDigits base s
  let (fraction, rest) := match rest with
    | '.' :: rest => takeDigits base rest
    | rest => ([], rest)
  if whole.isEmpty ∧ fraction.isEmpty then none
  else
    let exponent ← exponent? marks rest
    return (ofDigits base (whole ++ fraction), fraction.length, exponent)

/-- Whether a text is digits of a base and nothing else. -/
def isWhole (base : Nat) (s : List Char) : Bool :=
  !s.isEmpty && (takeDigits base s).2.isEmpty

/-- A decimal numeral. -/
def ofDecimal? (s : List Char) : Option Numeral :=
  if isWhole 10 s ∧ ofDigits 10 s < Nat.pow 2 63 then some (.integer (Int64.ofNat (ofDigits 10 s)))
  else do
    let (digits, after, exponent) ← parts? 10 ['e', 'E'] s
    return .number (Binary64.ofDecimal false digits (exponent - after))

/-- A hexadecimal numeral after its mark. -/
def ofHex? (s : List Char) : Option Numeral :=
  if isWhole 16 s then some (.integer (Int64.ofNat (ofDigits 16 s)))
  else do
    let (digits, after, exponent) ← parts? 16 ['p', 'P'] s
    return .number (Binary64.ofBinary false digits (exponent - 4 * after))

/-- The value of a numeral as it is spelt. -/
def ofChars? : List Char → Option Numeral
  | '0' :: 'x' :: rest => ofHex? rest
  | '0' :: 'X' :: rest => ofHex? rest
  | s => ofDecimal? s

/-! ## Numerals in texts -/

/-- The value with the other sign. The least integer has no counterpart and stays what it is. -/
def neg : Numeral → Numeral
  | .integer n => .integer (-n)
  | .number x => .number x.neg

/-- The value of a numeral that may have a sign before it. -/
def ofSigned? : List Char → Option Numeral
  | '+' :: s => ofChars? s
  | '-' :: s =>
    if isWhole 10 s ∧ ofDigits 10 s = Nat.pow 2 63 then some (.integer Int64.minValue)
    else (ofChars? s).map neg
  | s => ofChars? s

/-- The number that a text writes, with a sign and with blanks around it if it likes. -/
def ofText? (s : List Char) : Option Numeral :=
  ofSigned? ((s.dropWhile isSpace).reverse.dropWhile isSpace).reverse

end Numeral

end CrossShell.Script
