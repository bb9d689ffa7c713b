import StageChain.Text.Hex

/-!
# Random names

A random name is a number of 122 bits in the usual form of thirty-two hexadecimal digits in five
groups, in which four bits tell the version and two the variant.

* `uuid_length`: every name has thirty-six characters.
-/

namespace StageChain.Text

/-- The name that a number gives: from the left 48 bits of it, the version, 12 bits, the variant
and 62 bits. -/
def uuid (n : Nat) : String :=
  let high := n / Nat.pow 2 74
  let low := n % Nat.pow 2 62 + Nat.pow 2 63
  String.ofList (hex 8 (high / Nat.pow 2 16) ++ ['-'] ++ hex 4 high ++ ['-', '4']
    ++ hex 3 (n / Nat.pow 2 62) ++ ['-'] ++ hex 4 (low / Nat.pow 2 48) ++ ['-'] ++ hex 12 low)

theorem uuid_length (n : Nat) : (uuid n).length = 36 := by
  simp only [uuid, String.length_ofList, List.length_append, hex_length, List.length_cons,
    List.length_nil]

end StageChain.Text
