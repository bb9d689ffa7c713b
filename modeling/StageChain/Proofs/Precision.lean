import Mathlib.Algebra.Order.Floor.Semifield
import Mathlib.Data.Rat.Floor
import StageChain.Proofs.Shortest

/-!
# How far rounding goes

A number is rounded to one that is at most half a unit of its last place away. Numbers that do not
need more than 53 bits are not rounded at all, and none is rounded past one of them.

* `ofRatio_near`: **the distance**, for numbers below a power of two.
* `ofRatio_exact`: what is not rounded.
* `le_of_ofRatio`: **no number is rounded past a whole number.**
* `timesNat_eq`, `truncate?_eq`: multiplying a finite number and cutting it.
-/

namespace StageChain

namespace Double

variable {num den q m : ℕ} {e k : ℤ} {x : ℚ}

/-! ## How far rounding goes -/

/-- Below a power of two, the exponent to round at is 53 less than that of the power. -/
theorem Scaled.exponent_le (hs : Scaled x e) (hlt : x < 2 ^ k) (hk : leastExponent ≤ k - 53) :
    e ≤ k - 53 := by
  rcases hs.normal with hleast | hlow
  · omega
  · have hpow : (2 : ℚ) ^ ((52 : ℕ) + e) ≤ x := by
      rw [zpow_add₀ two_ne_zero, zpow_natCast]
      exact (le_div_iff₀ (by positivity)).1 hlow
    have hexponent := (zpow_lt_zpow_iff_right₀ one_lt_two).1 (hpow.trans_lt hlt)
    omega

/-- What is packed below the greatest exponent is finite and as large as it was. -/
theorem pack_finite (negative : Bool) (q : ℕ) (he : e < greatestExponent) : ∃ m e',
    pack negative q e = finite negative m e' ∧ (m * 2 ^ e' : ℚ) = q * 2 ^ e := by
  unfold pack
  by_cases hcarry : q = 2 ^ 53
  · refine ⟨2 ^ 52, e + 1, ?_, ?_⟩
    · simp only [if_pos hcarry, if_neg (show ¬greatestExponent < e + 1 by omega)]
    · rw [hcarry, zpow_add₀ two_ne_zero, zpow_one]
      push_cast
      ring
  · exact ⟨q, e, by simp only [if_neg hcarry, if_neg (show ¬greatestExponent < e by omega)], rfl⟩

/-- **Rounding goes half a unit of the last place** at most: below a power of two, that is the power
54 exponents further down. -/
theorem ofRatio_near (negative : Bool) (hden : 0 < den) (hlt : (num / den : ℚ) < 2 ^ k)
    (hk : leastExponent ≤ k - 53) (hk' : k - 53 < greatestExponent) : ∃ m e,
    ofRatio negative num den = finite negative m e ∧
      |(m * 2 ^ e : ℚ) - num / den| ≤ 2 ^ (k - 54) := by
  rcases Nat.eq_zero_or_pos num with rfl | hnum
  · refine ⟨0, leastExponent, rfl, ?_⟩
    simp only [Nat.cast_zero, zero_mul, zero_div, sub_zero, abs_zero]
    positivity
  obtain ⟨e, q, hs, hq, hround⟩ := exists_ofRatio_eq negative hnum hden
  have he := hs.exponent_le hlt hk
  obtain ⟨m, e', hpack, hvalue⟩ := pack_finite negative q (he.trans_lt hk')
  refine ⟨m, e', hround.trans hpack, ?_⟩
  have hunit : (0 : ℚ) < 2 ^ e := by positivity
  have hhalf : |(q : ℚ) - num / den / 2 ^ e| ≤ 1 / 2 :=
    abs_sub_le_iff.2 ⟨by linarith [hq.low], by linarith [hq.high]⟩
  calc |(m * 2 ^ e' : ℚ) - num / den| = |(q : ℚ) - num / den / 2 ^ e| * 2 ^ e := by
        rw [hvalue, ← abs_of_pos hunit, ← abs_mul, abs_of_pos hunit, sub_mul,
          div_mul_cancel₀ _ hunit.ne']
    _ ≤ 1 / 2 * 2 ^ e := by gcongr
    _ = 2 ^ (e - 1) := by rw [zpow_sub₀ two_ne_zero, zpow_one]; ring
    _ ≤ 2 ^ (k - 54) := zpow_le_zpow_right₀ (by norm_num) (by omega)

/-- **What is not rounded**: a whole number of units of a place that does not need more than 53
bits. -/
theorem ofRatio_exact (negative : Bool) (hden : 0 < den) (hvalue : (num / den : ℚ) = q * 2 ^ k)
    (hq : q < 2 ^ 53) (hk : leastExponent ≤ k) (hk' : k < greatestExponent) : ∃ m e,
    ofRatio negative num den = finite negative m e ∧ (m * 2 ^ e : ℚ) = num / den := by
  rcases Nat.eq_zero_or_pos num with rfl | hnum
  · exact ⟨0, leastExponent, rfl, by simp⟩
  obtain ⟨e, q', hs, hq', hround⟩ := exists_ofRatio_eq negative hnum hden
  have he : e ≤ k := by
    have hpow : (num / den : ℚ) < 2 ^ (k + 53) := by
      rw [hvalue, zpow_add₀ two_ne_zero, mul_comm]
      gcongr
      exact_mod_cast hq
    have := hs.exponent_le hpow (by omega)
    omega
  obtain ⟨j, rfl⟩ := Int.le.dest he
  -- at the exponent to round at it is a whole number as well
  have hwhole : (num / den / 2 ^ e : ℚ) = (q * 2 ^ j : ℕ) := by
    rw [hvalue, zpow_add₀ two_ne_zero, zpow_natCast]
    push_cast
    field_simp
  have hself : Nearest (num / den / 2 ^ e) (q * 2 ^ j) := by
    rw [hwhole]
    exact ⟨by linarith, by linarith, fun _ => ⟨by linarith, by linarith⟩⟩
  obtain rfl := hq'.unique hself
  obtain ⟨m, e', hpack, hsame⟩ := pack_finite negative (q * 2 ^ j) (he.trans_lt hk')
  refine ⟨m, e', hround.trans hpack, ?_⟩
  rw [hsame, ← hwhole, div_mul_cancel₀ _ (by positivity)]

/-- **A whole number is not rounded past**: what is above it, or below it by less than half a unit of
its own last place, is not rounded to less. -/
theorem le_of_ofRatio {negative : Bool} {n : ℕ} (hden : 0 < den)
    (hround : ofRatio negative num den = finite negative m e) (hlt : (num / den : ℚ) < 2 ^ (53 : ℤ))
    (hlow : (2 : ℚ) ^ k ≤ num / den) (hn : (n : ℚ) - 2 ^ (k - 53) < num / den) :
    (n : ℚ) ≤ m * 2 ^ e := by
  have hnum : 0 < num := by
    rw [Nat.pos_iff_ne_zero]
    rintro rfl
    rw [Nat.cast_zero, zero_div] at hlow
    exact absurd hlow (not_le.2 (by positivity))
  obtain ⟨e', q, hs, hq, hround'⟩ := exists_ofRatio_eq negative hnum hden
  have he : e' ≤ 0 := hs.exponent_le hlt (by decide)
  have hunit : (0 : ℚ) < 2 ^ e' := by positivity
  have hk : k - 52 ≤ e' := by
    have hpow : (2 : ℚ) ^ k < 2 ^ ((53 : ℕ) + e') := by
      rw [zpow_add₀ two_ne_zero, zpow_natCast]
      exact hlow.trans_lt ((div_lt_iff₀ hunit).1 hs.lt)
    have := (zpow_lt_zpow_iff_right₀ one_lt_two).1 hpow
    omega
  obtain ⟨m', e'', hpack, hvalue⟩ := pack_finite negative q (he.trans_lt (by decide))
  obtain ⟨rfl, rfl⟩ : m = m' ∧ e = e'' := by
    have := hround.symm.trans (hround'.trans hpack)
    simpa using this
  obtain ⟨j, rfl⟩ : ∃ j : ℕ, e' = -j := ⟨(-e').toNat, by omega⟩
  have hshift : (n : ℚ) = (n * 2 ^ j : ℕ) * 2 ^ (-(j : ℤ)) := by
    rw [zpow_neg, zpow_natCast]
    push_cast
    field_simp
  have hhalf : (2 : ℚ) ^ (k - 53) ≤ 1 / 2 * 2 ^ (-(j : ℤ)) := by
    rw [one_div, ← zpow_neg_one, ← zpow_add₀ two_ne_zero]
    exact zpow_le_zpow_right₀ (by norm_num) (by omega)
  have hhigh := (div_le_iff₀ hunit).1 hq.high
  -- in units of the last place, the whole number is less than one above what was rounded to
  have hless : ((n * 2 ^ j : ℕ) : ℚ) < q + 1 := by
    refine lt_of_mul_lt_mul_right ?_ hunit.le
    rw [← hshift]
    linarith
  have hle : n * 2 ^ j ≤ q := Nat.lt_succ_iff.1 (by exact_mod_cast hless)
  rw [hvalue, hshift]
  gcongr

/-- A finite number times a whole number is a quotient that is rounded. -/
theorem timesNat_eq (negative : Bool) (m : ℕ) (e : ℤ) (factor : ℕ) :
    ∃ num den : ℕ, 0 < den ∧ (num / den : ℚ) = m * 2 ^ e * factor ∧
    (finite negative m e).timesNat factor = ofRatio negative num den := by
  obtain ⟨hden, hratio⟩ := ratio_spec m e
  refine ⟨(ratio m e).1 * factor, (ratio m e).2, hden, ?_, rfl⟩
  rw [← hratio, Nat.cast_mul]
  ring

/-- A finite number is cut to the whole number below its size. -/
theorem truncate?_eq (negative : Bool) (m : ℕ) (e : ℤ) : (finite negative m e).truncate? =
    some (if negative then -(⌊(m * 2 ^ e : ℚ)⌋₊ : ℤ) else ⌊(m * 2 ^ e : ℚ)⌋₊) := by
  rw [← (ratio_spec m e).2, Nat.floor_div_eq_div]
  rfl

end Double

end StageChain
