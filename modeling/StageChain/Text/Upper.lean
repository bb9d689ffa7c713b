import StageChain.Text.UpperTable

/-!
# Capital letters and keywords

`upper` writes a text in capitals: a letter may become several characters (`ß` becomes `SS`), and
the dotless `ı` becomes a plain `I`. `keyword` is the folding under which a text names one of a
closed set of ASCII words: of all characters only `A` to `Z` and the Kelvin sign have an ASCII
letter as their small form, so every other character is left as it is and can match nothing.

* `keyword_lower`: a word of small ASCII letters is its own keyword.
-/

namespace StageChain.Text

/-- Whether the letter with this code point lies in the run. -/
def CapitalRun.contains (r : CapitalRun) (n : Nat) : Bool :=
  r.first ≤ n && n ≤ r.last && (n - r.first) % r.step == 0

/-- The capital form of one character. -/
def capital (c : Char) : List Char :=
  if c.toNat < 128 then [c.toUpper]
  else match capitalSequences.lookup c.toNat with
    | some codes => codes.map Char.ofNat
    | none => match capitalRuns.find? (·.contains c.toNat) with
      | some r => [Char.ofNat (r.capital + (c.toNat - r.first))]
      | none => [c]

/-- A text in capitals. -/
def upper (s : String) : String := String.ofList (s.toList.flatMap capital)

/-- The small form of a character, where that form is an ASCII letter. -/
def keywordChar (c : Char) : Char := if c.toNat = 0x212a then 'k' else c.toLower

/-- A text as it is compared with a closed set of ASCII keywords. -/
def keyword (s : String) : String := String.ofList (s.toList.map keywordChar)

theorem keywordChar_lower {c : Char} (h : 'a' ≤ c ∧ c ≤ 'z') : keywordChar c = c := by
  have hc : c.toNat < 0x212a := Nat.lt_of_le_of_lt (show c.toNat ≤ 'z'.toNat from h.2) (by decide)
  have hA : ¬ (65 ≤ c.val ∧ c.val ≤ 90) := fun hZ =>
    absurd (Nat.le_trans (show 'a'.toNat ≤ c.toNat from h.1) (show c.toNat ≤ 'Z'.toNat from hZ.2))
      (by decide)
  unfold keywordChar Char.toLower
  simp [Nat.ne_of_lt hc, hA]

theorem keyword_lower {s : String} (h : ∀ c ∈ s.toList, 'a' ≤ c ∧ c ≤ 'z') : keyword s = s := by
  have : s.toList.map keywordChar = s.toList := by
    conv => rhs; rw [← List.map_id s.toList]
    exact List.map_congr_left fun c hc => keywordChar_lower (h c hc)
  rw [keyword, this, String.ofList_toList]

end StageChain.Text
