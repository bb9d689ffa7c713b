/-!
# Hexadecimal digits

Numbers and byte strings in base sixteen, with small letters.

* `hex_length`: a number written in a fixed width has that many digits.
-/

namespace StageChain.Text

/-- Eight bits, as a list of them is stored in a file or a setting. -/
abbrev Bytes := List UInt8

/-- The digit of a number below sixteen. -/
def hexDigit (n : Nat) : Char := if n < 10 then Char.ofNat (48 + n) else Char.ofNat (87 + n)

/-- The last `width` digits of a number. -/
def hex : (width : Nat) → Nat → List Char
  | 0, _ => []
  | w + 1, n => hex w (n / 16) ++ [hexDigit (n % 16)]

/-- Two digits a byte. -/
def hexBytes (b : Bytes) : String := String.ofList (b.flatMap fun x => hex 2 x.toNat)

/-- The number that a digit stands for, in either case. -/
def hexValue? (c : Char) : Option Nat :=
  if '0' ≤ c ∧ c ≤ '9' then some (c.toNat - 48)
  else if 'a' ≤ c ∧ c ≤ 'f' then some (c.toNat - 87)
  else if 'A' ≤ c ∧ c ≤ 'F' then some (c.toNat - 55)
  else none

/-- The number that a list of digits stands for, the first one weighing most. -/
def readHex? (cs : List Char) : Option Nat :=
  cs.foldlM (fun n c => (hexValue? c).map (16 * n + ·)) 0

/-- The bytes that pairs of digits stand for. -/
def readHexBytes? : List Char → Option Bytes
  | [] => some []
  | a :: b :: cs => do
    let n ← readHex? [a, b]
    let rest ← readHexBytes? cs
    return UInt8.ofNat n :: rest
  | [_] => none

theorem hex_length (w n : Nat) : (hex w n).length = w := by
  induction w generalizing n with
  | zero => rfl
  | succ w ih => simp [hex, ih]

end StageChain.Text
