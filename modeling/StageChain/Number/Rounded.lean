import StageChain.Number.Shortest

/-!
# Rounded decimals

A quotient as a decimal with a chosen number of places: in full, with an exponent, or in the
shorter of the two forms. Half a unit of the last place goes to the even neighbour. Trailing zeros
and a point without places may be kept or not.

* `stripZeros_of_no_point`: the zeros of a whole number stay.
-/

namespace StageChain.Rounded

open Double

/-- The nearest number of units, each of ten to the `place`. -/
def units (num den : Nat) (place : Int) : Nat :=
  roundRatio (num * Nat.pow 10 (-place).toNat) (den * Nat.pow 10 place.toNat)

/-- The digits of a number of units, so many of them after the point. -/
def withPoint (keepPoint : Bool) (places n : Nat) : List Char :=
  let ds := Nat.toDigits 10 n
  let ds := List.replicate (places + 1 - ds.length) '0' ++ ds
  let whole := ds.length - places
  ds.take whole ++ (if places = 0 && !keepPoint then [] else ['.']) ++ ds.drop whole

/-- In full, with so many places. -/
def full (keepPoint : Bool) (places num den : Nat) : List Char :=
  withPoint keepPoint places (units num den (-places))

/-- The digits of a quotient, so many after the first one, and the exponent of the first one. -/
def significant (places num den : Nat) : Nat × Int :=
  if num = 0 then (0, 0)
  else
    let e := floorLog10 num den
    let n := units num den (e - places)
    if n = Nat.pow 10 (places + 1) then (Nat.pow 10 places, e + 1) else (n, e)

/-- An exponent, with a sign and at least two digits. -/
def exponentText (e : Int) : List Char :=
  let ds := Nat.toDigits 10 e.natAbs
  ['e', if e < 0 then '-' else '+'] ++ List.replicate (2 - ds.length) '0' ++ ds

/-- With an exponent and so many places. -/
def scientific (keepPoint : Bool) (places num den : Nat) : List Char :=
  let (n, e) := significant places num den
  withPoint keepPoint places n ++ exponentText e

/-- A decimal without the zeros at its end, and without a point that is left there. -/
def stripZeros (ds : List Char) : List Char :=
  if ds.contains '.' then
    let kept := ds.reverse.dropWhile (· = '0')
    (if kept.head? = some '.' then kept.tail else kept).reverse
  else ds

/-- With so many significant digits: in full from one ten-thousandth on as long as the digits
reach to the point, otherwise with an exponent. -/
def general (keepZeros : Bool) (digits num den : Nat) : List Char :=
  let digits := max digits 1
  let (n, e) := significant (digits - 1) num den
  let trimmed (ds : List Char) : List Char := if keepZeros then ds else stripZeros ds
  if -4 ≤ e ∧ e < digits then trimmed (withPoint keepZeros ((digits : Int) - 1 - e).toNat n)
  else trimmed (withPoint keepZeros (digits - 1) n) ++ exponentText e

theorem stripZeros_of_no_point {ds : List Char} (h : '.' ∉ ds) : stripZeros ds = ds := by
  simp [stripZeros, h]

end StageChain.Rounded
