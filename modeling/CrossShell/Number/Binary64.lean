/-!
Binary floating point numbers of 64 bits, as exact values.

A finite number is a sign, a mantissa and a power of two. `ofRatio` rounds a quotient of natural
numbers to the nearest of them, a tie to the even mantissa; what is too large becomes infinite.
Products and quotients are rounded the same way.
-/

set_option autoImplicit false

namespace CrossShell.Number

/-- A number of the format. -/
inductive Binary64 where
  /-- The number `mantissa * 2 ^ exponent`, negated if `negative`. -/
  | finite (negative : Bool) (mantissa : Nat) (exponent : Int)
  /-- Larger than every finite number, or smaller. -/
  | infinite (negative : Bool)
  deriving DecidableEq, Repr

/-- The nearest natural number to a quotient; a half goes to the even one. -/
def roundDiv (num den : Nat) : Nat :=
  let quotient := num / den
  let double := 2 * (num % den)
  if den < double ∨ (double = den ∧ quotient % 2 = 1) then quotient + 1 else quotient

/-- The least exponent of a number of the format. -/
def leastExponent : Int := -1074

/-- The greatest exponent of a number of the format. -/
def greatestExponent : Int := 971

namespace Binary64

/-- Zero, with either sign. -/
def zero (negative : Bool) : Binary64 :=
  .finite negative 0 leastExponent

/-- The quotient of `num` and `den` by a power of two, as one numerator and one denominator. -/
def scaleDown (num den : Nat) (exponent : Int) : Nat × Nat :=
  match exponent with
  | .ofNat e => (num, den * Nat.pow 2 e)
  | .negSucc e => (num * Nat.pow 2 (e + 1), den)

/-- The greatest `e` with `2 ^ e * den ≤ num`, for positive arguments. -/
def magnitude (num den : Nat) : Int :=
  let estimate : Int := Int.ofNat num.log2 - Int.ofNat den.log2
  let (n, d) := scaleDown num den estimate
  if d ≤ n then estimate else estimate - 1

/-- The number of the format nearest to `num / den`. -/
def ofRatio (negative : Bool) (num den : Nat) : Binary64 :=
  if num = 0 ∨ den = 0 then zero negative
  else
    let exponent := max (magnitude num den - 52) leastExponent
    let (n, d) := scaleDown num den exponent
    let mantissa := roundDiv n d
    let (mantissa, exponent) :=
      if mantissa = Nat.pow 2 53 then (Nat.pow 2 52, exponent + 1) else (mantissa, exponent)
    if mantissa = 0 then zero negative
    else if greatestExponent < exponent then .infinite negative
    else .finite negative mantissa exponent

/-- The number of the format nearest to `digits * 10 ^ exponent`. Exponents beyond the range of the
format are not expanded. -/
def ofDecimal (negative : Bool) (digits : Nat) (exponent : Int) : Binary64 :=
  if digits = 0 then zero negative
  else match exponent with
    | .ofNat e => if 400 < e then .infinite negative else ofRatio negative (digits * Nat.pow 10 e) 1
    | .negSucc e =>
      if 800 + digits.log2 < e then zero negative else ofRatio negative digits (Nat.pow 10 (e + 1))

/-- The number of the format nearest to `digits * 2 ^ exponent`. -/
def ofBinary (negative : Bool) (digits : Nat) (exponent : Int) : Binary64 :=
  if digits = 0 then zero negative
  else match exponent with
    | .ofNat e => if 1100 < e then .infinite negative else ofRatio negative (digits * Nat.pow 2 e) 1
    | .negSucc e =>
      if 2200 + digits.log2 < e then zero negative else ofRatio negative digits (Nat.pow 2 (e + 1))

/-- The number with the other sign. -/
def neg : Binary64 → Binary64
  | .finite negative mantissa exponent => .finite (!negative) mantissa exponent
  | .infinite negative => .infinite (!negative)

/-- The product with a positive power of ten, rounded. The power is a number of the format too. -/
def timesPowerOfTen (x : Binary64) (power : Nat) : Binary64 :=
  match x, ofDecimal false 1 (Int.ofNat power) with
  | .finite negative m e, .finite _ m' e' => ofBinary negative (m * m') (e + e')
  | x, _ => x

/-- The quotient by a positive power of ten, rounded. The power is itself a number of the format. -/
def overPowerOfTen (x : Binary64) (power : Nat) : Binary64 :=
  match x, ofDecimal false 1 (Int.ofNat power) with
  | .finite negative m e, .finite _ m' e' =>
    let (n, d) := scaleDown m m' (e' - e)
    ofRatio negative n d
  | x, _ => x

/-- Whether the number is zero, of either sign. -/
def isZero : Binary64 → Bool
  | .finite _ mantissa _ => mantissa == 0
  | .infinite _ => false

/-- The integer that the number is, if it is one. -/
def toInt? : Binary64 → Option Int
  | .finite negative mantissa exponent =>
    let (n, d) := scaleDown mantissa 1 (-exponent)
    if n % d = 0 then
      some (if negative then - Int.ofNat (n / d) else Int.ofNat (n / d))
    else none
  | .infinite _ => none

/-- Whether two numbers are the same value; the two zeros are. -/
def same (x y : Binary64) : Bool :=
  x == y || (x.isZero && y.isZero)

end Binary64

end CrossShell.Number
