import CrossShell.Number.Binary64

/-!
The decimal text of a binary floating point number.

`shortest` takes the fewest digits that round to the number, and of those the nearest ones;
`rounded` takes a given number of digits. `render` writes them with a point or with an exponent, as
a `DecimalFormat` says.
-/

set_option autoImplicit false

namespace CrossShell.Number

/-! ## The fewest digits -/

/-- Where a number goes that lies in the middle between two of a grid. -/
inductive Tie where
  /-- To the greater of them. -/
  | up
  /-- To the even one. -/
  | toEven
  deriving DecidableEq, Repr

/-- The nearest natural number to a quotient. -/
def Tie.nearest (tie : Tie) (num den : Nat) : Nat :=
  match tie with
  | .up => if 2 * (num % den) < den then num / den else num / den + 1
  | .toEven => roundDiv num den

/-- Compares `a * 10 ^ s` with `b * 2 ^ t`. -/
def compareScaled (a : Nat) (s : Int) (b : Nat) (t : Int) : Ordering :=
  let left := a * Nat.pow 10 s.toNat * Nat.pow 2 (-t).toNat
  let right := b * Nat.pow 2 t.toNat * Nat.pow 10 (-s).toNat
  compare left right

/-- The decimal position of the leading digit of `m * 2 ^ q`, searched downwards from `guess`. -/
def leadingPosition (m : Nat) (q : Int) : Nat → Int → Int
  | 0, guess => guess
  | fuel + 1, guess =>
    if compareScaled 1 guess m q = .gt then leadingPosition m q fuel (guess - 1) else guess

/-- The digits, and the power of ten of the last one, of `m * 2 ^ q` on the grid of `count` digits,
if a point of that grid rounds to the number. -/
def onGrid (tie : Tie) (m : Nat) (q : Int) (position : Int) (count : Nat) : Option (Nat × Int) :=
  let step := position - Int.ofNat count + 1
  -- the number in units of the grid, as a quotient
  let num := m * Nat.pow 2 q.toNat * Nat.pow 10 (-step).toNat
  let den := Nat.pow 2 (-q).toNat * Nat.pow 10 step.toNat
  let below := num / den
  -- the numbers that round to it, in quarters of the gap above it
  let lowGap := if m = Nat.pow 2 52 ∧ leastExponent < q then 1 else 2
  let isInside := fun candidate =>
    let low := compareScaled candidate step (4 * m - lowGap) (q - 2)
    let high := compareScaled candidate step (4 * m + 2) (q - 2)
    (low == .gt || (low == .eq && m % 2 == 0)) && (high == .lt || (high == .eq && m % 2 == 0))
  let nearest := tie.nearest num den
  let other := if nearest = below then below + 1 else below
  -- ten of the coarsest digit are one digit more
  let point := fun candidate =>
    if candidate = Nat.pow 10 count then (1, position + 1) else (candidate, step)
  if nearest ≠ 0 ∧ isInside nearest then some (point nearest)
  else if other ≠ 0 ∧ isInside other then some (point other)
  else none

/-- The first grid, from the coarsest on, with a point that rounds to the number. -/
def firstGrid (tie : Tie) (m : Nat) (q : Int) (position : Int) : Nat → Nat → Nat × Int
  | 0, _ => (m, 0)
  | fuel + 1, count =>
    match onGrid tie m q position count with
    | some found => found
    | none => firstGrid tie m q position fuel (count + 1)

/-- The fewest decimal digits of `m * 2 ^ q`, and the power of ten of the last one. -/
def shortest (tie : Tie) (m : Nat) (q : Int) : Nat × Int :=
  firstGrid tie m q (leadingPosition m q 700 310) 18 1

/-- The number `m * 2 ^ q` rounded to a number of decimal digits, and the power of ten of the last
one. -/
def rounded (tie : Tie) (count m : Nat) (q : Int) : Nat × Int :=
  let step := leadingPosition m q 700 310 - Int.ofNat count + 1
  let num := m * Nat.pow 2 q.toNat * Nat.pow 10 (-step).toNat
  let den := Nat.pow 2 (-q).toNat * Nat.pow 10 step.toNat
  (tie.nearest num den, step)

/-! ## The text -/

/-- What the decimal text of a number looks like. -/
structure DecimalFormat where
  /-- How many digits are taken, of which zeros at the end are dropped; without a count, as many as
  it takes to tell the number from all others. -/
  count : Option Nat
  /-- Which of two equally near digits is taken. -/
  tie : Tie
  /-- The least and the greatest number of digits before the point, zeros after it counting
  negatively, for a number to be written without an exponent; without bounds there is never an
  exponent. -/
  bounds : Option (Int × Int)
  /-- How many digits an exponent has at least. -/
  exponentWidth : Nat

/-- Numbers are written out in full. -/
def DecimalFormat.full : DecimalFormat where
  count := none
  tie := .up
  bounds := none
  exponentWidth := 1

/-- Numbers from `0.00001` and up to 16 digits are written out, all others with an exponent. -/
def DecimalFormat.scientific : DecimalFormat where
  count := none
  tie := .toEven
  bounds := some (-4, 16)
  exponentWidth := 1

/-- Numbers have 14 digits; from `0.0001` and up to these digits they are written out. -/
def DecimalFormat.brief : DecimalFormat where
  count := some 14
  tie := .toEven
  bounds := some (-3, 14)
  exponentWidth := 2

/-- Digits with a point after the first `point` of them, or with zeros to reach it. -/
def withPoint (digits : List Char) (point : Int) : List Char :=
  if point ≤ 0 then
    ['0', '.'] ++ List.replicate (-point).toNat '0' ++ digits
  else
    let whole := digits.take point.toNat
    let fraction := digits.drop point.toNat
    whole ++ List.replicate (point.toNat - digits.length) '0' ++ ['.']
      ++ (if fraction.isEmpty then ['0'] else fraction)

/-- Digits with a point after the first of them and an exponent, which always has a sign. -/
def withExponent (width : Nat) (digits : List Char) (point : Int) : List Char :=
  let mantissa := match digits with
    | first :: second :: rest => first :: '.' :: second :: rest
    | digits => digits
  let exponent := point - 1
  let size := (toString exponent.natAbs).toList
  mantissa ++ ['e', if exponent < 0 then '-' else '+']
    ++ List.replicate (width - size.length) '0' ++ size

/-- Digits without the zeros at their end. -/
def dropZeros (digits : List Char) : List Char :=
  (digits.reverse.dropWhile (· = '0')).reverse

/-- The text of a positive number from its digits. -/
def DecimalFormat.layout (format : DecimalFormat) (digits : List Char) (exponent : Int) :
    List Char :=
  let point := Int.ofNat digits.length + exponent
  let digits := dropZeros digits
  match format.bounds with
  | none => withPoint digits point
  | some (least, greatest) =>
    if least ≤ point ∧ point ≤ greatest then withPoint digits point
    else withExponent format.exponentWidth digits point

/-- The digits of `m * 2 ^ q` that are written, and the power of ten of the last one. -/
def DecimalFormat.select (format : DecimalFormat) (m : Nat) (q : Int) : Nat × Int :=
  match format.count with
  | none => shortest format.tie m q
  | some count => rounded format.tie count m q

/-- The decimal text of a number. -/
def DecimalFormat.render (format : DecimalFormat) (x : Binary64) : String :=
  let sign := fun (negative : Bool) => if negative then "-" else ""
  match x with
  | .infinite negative => sign negative ++ "inf"
  | .finite negative m q =>
    if m = 0 then sign negative ++ "0.0"
    else
      let (digits, exponent) := format.select m q
      sign negative ++ String.ofList (format.layout (toString digits).toList exponent)

end CrossShell.Number
