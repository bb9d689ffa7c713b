import StageChain.Number.Double

/-!
# Numerals

Reading the digits of a number. A numeral is split into its parts by the format that it belongs to;
here the parts become a number.

* `readNat_append_digit`: a digit more is ten times the number and the digit.
-/

namespace StageChain

/-- Whether the character is one of the ten ASCII digits. -/
def isDigit (c : Char) : Bool := '0' ≤ c && c ≤ '9'

/-- The value of a digit in a base of at most sixteen. -/
def digitValue (c : Char) : Nat :=
  if isDigit c then c.toNat - 48
  else if 'a' ≤ c ∧ c ≤ 'f' then c.toNat - 87
  else if 'A' ≤ c ∧ c ≤ 'F' then c.toNat - 55
  else 0

/-- The number that a list of digits stands for in a base. -/
def readNat (base : Nat) (ds : List Char) : Nat := ds.foldl (fun n c => base * n + digitValue c) 0

/-- A whole number by its sign and its size. -/
def signed (negative : Bool) (n : Nat) : Int := if negative then -(n : Int) else n

/-- The number written as `whole.fraction` times ten to the `exponent`. -/
def Double.ofNumeral (negative : Bool) (whole fraction : List Char) (exponent : Int) : Double :=
  ofDecimal negative (readNat 10 (whole ++ fraction)) (exponent - fraction.length)

theorem readNat_append_digit (base : Nat) (ds : List Char) (c : Char) :
    readNat base (ds ++ [c]) = base * readNat base ds + digitValue c := by
  simp [readNat]

end StageChain
