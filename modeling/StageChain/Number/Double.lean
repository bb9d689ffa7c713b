/-!
# Double precision numbers

A finite number is `mantissa · 2 ^ exponent` with a sign. Numbers are made by rounding an exact
quotient, so each has one form: the mantissa has 53 bits, or fewer if the exponent is the least one.
Rounding goes to the nearest number, and from halfway to the even mantissa.

* `ofRatio_zero`: a quotient of zero is the zero of its sign.
-/

namespace StageChain

/-- A double precision number. -/
inductive Double where
  | nan
  | infinite (negative : Bool)
  | finite (negative : Bool) (mantissa : Nat) (exponent : Int)
  deriving DecidableEq, Repr, Inhabited

namespace Double

/-- The least exponent, that of the numbers next to zero. -/
def leastExponent : Int := -1074

/-- The greatest exponent of a finite number. -/
def greatestExponent : Int := 971

/-- The zero of a sign. -/
def zero (negative : Bool) : Double := finite negative 0 leastExponent

/-- The whole number next to a quotient, the even one from halfway. -/
def roundRatio (num den : Nat) : Nat :=
  let q := num / den
  let twice := 2 * (num % den)
  if twice < den then q else if den < twice then q + 1 else q + q % 2

/-- `num / (den * 2 ^ e)` as a quotient of whole numbers. -/
def scaleRatio (num den : Nat) (e : Int) : Nat × Nat :=
  if 0 ≤ e then (num, den * Nat.pow 2 e.toNat) else (num * Nat.pow 2 (-e).toNat, den)

/-- The exponent of the greatest power of two that a positive quotient reaches. -/
def floorLog2 (num den : Nat) : Int :=
  let e : Int := num.log2 - den.log2
  let (n, d) := scaleRatio num den e
  if d ≤ n then e else e - 1

/-- The number nearest to `num / den`. -/
def ofRatio (negative : Bool) (num den : Nat) : Double :=
  if num = 0 then zero negative
  else
    let e := max (floorLog2 num den - 52) leastExponent
    let (n, d) := scaleRatio num den e
    let q := roundRatio n d
    let (m, e) := if q = Nat.pow 2 53 then (Nat.pow 2 52, e + 1) else (q, e)
    if greatestExponent < e then infinite negative else finite negative m e

/-- The number nearest to a whole number; `none` where that is too large for any. -/
def ofInt? (i : Int) : Option Double :=
  match ofRatio (i < 0) i.natAbs 1 with
  | infinite _ => none
  | d => some d

/-- A finite number without its sign, as a quotient. -/
def ratio (mantissa : Nat) (exponent : Int) : Nat × Nat :=
  if 0 ≤ exponent then (mantissa * Nat.pow 2 exponent.toNat, 1)
  else (mantissa, Nat.pow 2 (-exponent).toNat)

/-- Whether the number is a zero, of either sign. -/
def isZero : Double → Bool
  | finite _ 0 _ => true
  | _ => false

/-- The whole number that a number is equal to, if it is one. -/
def toInt? : Double → Option Int
  | finite negative m e =>
    let (n, d) := ratio m e
    if n % d = 0 then some (if negative then -(n / d : Nat) else (n / d : Nat)) else none
  | _ => none

/-- The whole number between a finite number and zero that is nearest to the number. -/
def truncate? : Double → Option Int
  | finite negative m e =>
    let (n, d) := ratio m e
    some (if negative then -(n / d : Nat) else (n / d : Nat))
  | _ => none

/-- A finite number times a whole number, rounded once. -/
def timesNat (k : Nat) : Double → Double
  | finite negative m e =>
    let (n, d) := ratio m e
    ofRatio negative (n * k) d
  | d => d

/-- The number nearest to `digits · 10 ^ exponent`. Beyond the exponents of all finite numbers the
power is not computed. -/
def ofDecimal (negative : Bool) (digits : Nat) (exponent : Int) : Double :=
  if digits = 0 then zero negative
  else
    let top : Int := digits.log2 / 4 + exponent
    let bottom : Int := digits.log2 / 3 + 1 + exponent
    if 310 < top then infinite negative
    else if bottom < -330 then zero negative
    else if 0 ≤ exponent then ofRatio negative (digits * Nat.pow 10 exponent.toNat) 1
    else ofRatio negative digits (Nat.pow 10 (-exponent).toNat)

theorem ofRatio_zero (negative : Bool) (den : Nat) : ofRatio negative 0 den = zero negative := rfl

end Double

end StageChain
