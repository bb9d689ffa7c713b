import StageChain.Number.Double

/-!
# Shortest decimals

The text of a number is the shortest decimal that reads back as the number, and of the shortest ones
the nearest. Numbers of middling size are written in full, very small and very large ones with an
exponent.

* `text_nan`: what is not a number has a text of its own.
-/

namespace StageChain.Double

/-- A positive decimal, `digits · 10 ^ exponent`. -/
structure Decimal where
  digits : Nat
  exponent : Int
  deriving DecidableEq, Repr, Inhabited

/-- The same decimal without zeros at its end; at most `fuel` zeros are dropped. -/
def Decimal.strip : (fuel : Nat) → Decimal → Decimal
  | 0, d => d
  | fuel + 1, d =>
    if d.digits ≠ 0 ∧ d.digits % 10 = 0 then strip fuel ⟨d.digits / 10, d.exponent + 1⟩ else d

/-- How many decimal digits a number has. -/
def decimalLength (n : Nat) : Nat := (Nat.toDigits 10 n).length

/-- The exponent of the greatest power of ten that a positive quotient reaches. -/
def floorLog10 (num den : Nat) : Int :=
  if den ≤ num then (decimalLength (num / den) : Int) - 1
  else
    let ceiling := (den + num - 1) / num
    Int.negOfNat (decimalLength (ceiling - 1))

/-- The reals that round to a positive number, as quotients over one denominator, with the number
itself and whether the ends belong to them. -/
structure Basin where
  low : Nat
  mid : Nat
  high : Nat
  den : Nat
  closed : Bool

/-- The reals that round to `mantissa · 2 ^ exponent`. Below a power of two the numbers lie closer
together. -/
def basin (mantissa : Nat) (exponent : Int) : Basin :=
  let below := if mantissa = Nat.pow 2 52 ∧ leastExponent < exponent then 1 else 2
  -- everything in quarters of the last place, so that both ends are whole
  let (unit, den) := ratio 1 (exponent - 2)
  ⟨(4 * mantissa - below) * unit, 4 * mantissa * unit, (4 * mantissa + 2) * unit, den,
    mantissa % 2 = 0⟩

/-- Whether `n / d` lies among the reals. -/
def Basin.contains (b : Basin) (n d : Nat) : Bool :=
  let low := b.low * d
  let high := b.high * d
  let x := n * b.den
  if b.closed then low ≤ x && x ≤ high else low < x && x < high

/-- Of the decimals with a given last place the nearest one that reads back. -/
def Basin.onGrid? (b : Basin) (place : Int) : Option Decimal :=
  let up : Nat := Nat.pow 10 place.toNat
  let down : Nat := Nat.pow 10 (-place).toNat
  let scaled := b.mid * down
  let step := b.den * up
  let q := scaled / step
  let lower := b.contains (q * up) down
  let upper := b.contains ((q + 1) * up) down
  let twice := 2 * (scaled % step)
  -- if both neighbours read back the nearer one is taken, and of two as near the even one
  if lower && (!upper || twice < step || (twice = step && q % 2 = 0)) then some ⟨q, place⟩
  else if upper then some ⟨q + 1, place⟩
  else none

/-- The shortest decimal that reads back, of the nearest to a positive number. -/
def shortest (mantissa : Nat) (exponent : Int) : Decimal :=
  let b := basin mantissa exponent
  let top := floorLog10 b.mid b.den
  -- seventeen digits always read back
  let found := (List.range 17).findSome? fun (n : Nat) => b.onGrid? (top - n)
  (found.getD ⟨0, 0⟩).strip 400

/-- How decimals are laid out: from which to which exponent they are written in full. -/
structure Layout where
  leastFull : Int
  leastScientific : Int

/-- Numbers from one ten-thousandth on and below ten to the sixteenth are written in full. -/
def layout : Layout := ⟨-4, 16⟩

/-- A decimal in full, with at least one digit on either side of the point. -/
def Decimal.full (d : Decimal) : String :=
  let ds := Nat.toDigits 10 d.digits
  if 0 ≤ d.exponent then
    String.ofList (ds ++ List.replicate d.exponent.toNat '0' ++ ['.', '0'])
  else
    let places := (-d.exponent).toNat
    let padded := List.replicate (places + 1 - ds.length) '0' ++ ds
    let whole := padded.length - places
    String.ofList (padded.take whole ++ '.' :: padded.drop whole)

/-- A decimal with one digit before the point and an exponent of at least two digits. -/
def Decimal.scientific (d : Decimal) : String :=
  let ds := Nat.toDigits 10 d.digits
  let e : Int := d.exponent + (ds.length - 1)
  let es := Nat.toDigits 10 e.natAbs
  let fraction := if ds.length ≤ 1 then [] else '.' :: ds.drop 1
  let sign := if e < 0 then '-' else '+'
  String.ofList
    (ds.take 1 ++ fraction ++ 'e' :: sign :: List.replicate (2 - es.length) '0' ++ es)

/-- The text of a decimal. -/
def Decimal.text (d : Decimal) : String :=
  let e : Int := d.exponent + ((decimalLength d.digits : Int) - 1)
  if layout.leastFull ≤ e ∧ e < layout.leastScientific then d.full else d.scientific

/-- The text of a number. -/
def text : Double → String
  | nan => "nan"
  | infinite negative => if negative then "-inf" else "inf"
  | finite negative m e =>
    let body := if m = 0 then "0.0" else (shortest m e).text
    if negative then "-" ++ body else body

theorem text_nan : text nan = "nan" := rfl

end StageChain.Double
