import Mathlib.Algebra.Order.Field.Power
import Mathlib.Algebra.Order.Field.Rat
import Mathlib.Tactic.FieldSimp
import Mathlib.Tactic.Linarith
import Mathlib.Tactic.NormNum
import Mathlib.Tactic.Positivity
import Mathlib.Tactic.Ring
import Mathlib.Tactic.SplitIfs
import StageChain.Number.Shortest

/-!
# Rounding to doubles

A quotient is rounded by scaling it to 53 bits, or to fewer at the least exponent, and taking the
nearest whole number of units. The quotients that are rounded to one number are those in its basin:
half a unit to either side, but less below a power of two, where the numbers lie closer together.

* `floorLog2_spec`, `nearest_roundRatio`: what the steps of rounding do.
* `Scaled`, `Nearest`: the exponent to round at and the nearest whole number, of which there is one
  each.
* `ofRatio_eq`: **rounding a quotient** by any such exponent and whole number.
* `InBasin`: **the reals that round to a number.**
* `inBasin_of_ofRatio`, `ofRatio_of_inBasin`: a quotient is rounded to a number if it is in the
  basin, and no other is.
-/

namespace StageChain

namespace Double

variable {num den q m : ℕ} {e l : ℤ} {x y z : ℚ}

/-! ## The steps of rounding -/

/-- Scaling divides a quotient by a power of two. -/
theorem scaleRatio_spec (num : ℕ) (hden : 0 < den) (e : ℤ) : 0 < (scaleRatio num den e).2 ∧
    ((scaleRatio num den e).1 : ℚ) / (scaleRatio num den e).2 = num / den / 2 ^ e := by
  unfold scaleRatio
  split_ifs with he
  · obtain ⟨k, rfl⟩ := Int.eq_ofNat_of_zero_le he
    refine ⟨Nat.mul_pos hden (Nat.pow_pos (by decide)), ?_⟩
    simp [div_div]
  · obtain ⟨k, hk⟩ := Int.eq_ofNat_of_zero_le (show 0 ≤ -e by omega)
    obtain rfl : e = -(k : ℤ) := by omega
    refine ⟨hden, ?_⟩
    simp [mul_div_right_comm]

/-- A power of two with a quotient of powers for its exponent. -/
theorem two_zpow_sub (a b : ℕ) (c : ℤ) : (2 : ℚ) ^ ((a : ℤ) - b + c) * 2 ^ b = 2 ^ a * 2 ^ c := by
  rw [← zpow_natCast 2 a, ← zpow_natCast 2 b, ← zpow_add₀ two_ne_zero, ← zpow_add₀ two_ne_zero]
  congr 1
  ring

/-- **The exponent of a quotient** is that of the power of two next below it. -/
theorem floorLog2_spec (hnum : 0 < num) (hden : 0 < den) :
    (2 : ℚ) ^ floorLog2 num den ≤ num / den ∧ (num / den : ℚ) < 2 ^ (floorLog2 num den + 1) := by
  have hden' : (0 : ℚ) < den := by exact_mod_cast hden
  have hnum₁ : (2 : ℚ) ^ num.log2 ≤ num := by exact_mod_cast Nat.log2_self_le hnum.ne'
  have hnum₂ : (num : ℚ) < 2 ^ num.log2 * 2 := by exact_mod_cast Nat.lt_log2_self
  have hden₁ : (2 : ℚ) ^ den.log2 ≤ den := by exact_mod_cast Nat.log2_self_le hden.ne'
  have hden₂ : (den : ℚ) < 2 ^ den.log2 * 2 := by exact_mod_cast Nat.lt_log2_self
  set e : ℤ := (num.log2 : ℤ) - den.log2 with he
  -- the difference of the exponents is the exponent or one above it
  have hlow : (2 : ℚ) ^ (e - 1) ≤ num / den := by
    rw [le_div_iff₀ hden']
    have hscale := two_zpow_sub num.log2 den.log2 (-1)
    rw [← he, ← sub_eq_add_neg, zpow_neg_one] at hscale
    have hpos : (0 : ℚ) < 2 ^ (e - 1) := by positivity
    nlinarith
  have hhigh : (num / den : ℚ) < 2 ^ (e + 1) := by
    rw [div_lt_iff₀ hden']
    have hscale := two_zpow_sub num.log2 den.log2 1
    rw [← he, zpow_one] at hscale
    have hpos : (0 : ℚ) < 2 ^ (e + 1) := by positivity
    nlinarith
  obtain ⟨hpos, hratio⟩ := scaleRatio_spec num hden e
  have htest : (scaleRatio num den e).2 ≤ (scaleRatio num den e).1 ↔ (2 : ℚ) ^ e ≤ num / den := by
    rw [← one_le_div (by positivity : (0 : ℚ) < 2 ^ e), ← hratio,
      one_le_div (by exact_mod_cast hpos)]
    exact Nat.cast_le.symm
  unfold floorLog2
  simp only [← he, htest]
  split_ifs with h
  · exact ⟨h, hhigh⟩
  · rw [sub_add_cancel]
    exact ⟨hlow, lt_of_not_ge h⟩

/-- **The nearest whole number**, the even one from halfway. -/
structure Nearest (x : ℚ) (k : ℕ) : Prop where
  low : (k : ℚ) - 1 / 2 ≤ x
  high : x ≤ k + 1 / 2
  tie : k % 2 = 1 → (k : ℚ) - 1 / 2 < x ∧ x < k + 1 / 2

theorem Nearest.unique {k k' : ℕ} (h : Nearest x k) (h' : Nearest x k') : k = k' := by
  wlog hlt : k < k' generalizing k k'
  · rcases Nat.lt_or_eq_of_le (Nat.le_of_not_lt hlt) with hgt | heq
    · exact (this h' h hgt).symm
    · exact heq.symm
  exfalso
  have hnext : (k : ℚ) + 1 ≤ k' := by exact_mod_cast hlt
  have hboth : (k : ℚ) + 1 / 2 = x ∧ (k' : ℚ) - 1 / 2 = x := by
    constructor <;> linarith [h.high, h'.low]
  -- a number in the middle is nearest to the even one alone
  have hsucc : k' = k + 1 := by
    have : (k' : ℚ) = (k + 1 : ℕ) := by push_cast; linarith
    exact_mod_cast this
  rcases Nat.mod_two_eq_zero_or_one k with heven | hodd
  · linarith [(h'.tie (by omega)).1]
  · linarith [(h.tie hodd).2]

/-- **Rounding a quotient** gives the nearest whole number. -/
theorem nearest_roundRatio (num : ℕ) (hden : 0 < den) :
    Nearest (num / den) (roundRatio num den) := by
  have hden' : (0 : ℚ) < den := by exact_mod_cast hden
  have hx : (num / den : ℚ) = (num / den : ℕ) + (num % den : ℕ) / den := by
    rw [eq_comm, add_div' _ _ _ hden'.ne', ← Nat.cast_mul, ← Nat.cast_add, Nat.mul_comm,
      Nat.div_add_mod]
  have hrest : (0 : ℚ) ≤ (num % den : ℕ) / den := by positivity
  have hrest' : ((num % den : ℕ) / den : ℚ) < 1 := by
    rw [div_lt_one hden']
    exact_mod_cast Nat.mod_lt num hden
  have hlt : 2 * (num % den) < den ↔ ((num % den : ℕ) / den : ℚ) < 1 / 2 := by
    rw [div_lt_div_iff₀ hden' two_pos, one_mul, mul_comm]
    exact_mod_cast Iff.rfl
  have hgt : den < 2 * (num % den) ↔ (1 / 2 : ℚ) < (num % den : ℕ) / den := by
    rw [div_lt_div_iff₀ two_pos hden', one_mul, mul_comm]
    exact_mod_cast Iff.rfl
  unfold roundRatio
  simp only [hlt, hgt]
  rw [hx]
  generalize ((num % den : ℕ) / den : ℚ) = r at hrest hrest'
  generalize num / den = q
  have hsucc : ((q + 1 : ℕ) : ℚ) = q + 1 := Nat.cast_succ q
  split_ifs with hbelow habove
  · exact ⟨by linarith, by linarith, fun _ => ⟨by linarith, by linarith⟩⟩
  · exact ⟨by linarith, by linarith, fun _ => ⟨by linarith, by linarith⟩⟩
  · obtain rfl : r = 1 / 2 := le_antisymm (not_lt.1 habove) (not_lt.1 hbelow)
    rcases Nat.mod_two_eq_zero_or_one q with heven | hodd
    · rw [heven, Nat.add_zero]
      exact ⟨by linarith, le_rfl, fun hodd => absurd (heven.symm.trans hodd) (by decide)⟩
    · rw [hodd]
      exact ⟨by linarith, by linarith, fun h => absurd h (by omega)⟩

/-! ## The number next to a quotient -/

/-- **A finite number in its one form**, other than zero: the mantissa has 53 bits, or fewer if the
exponent is the least one. -/
structure Canonical (m : ℕ) (e : ℤ) : Prop where
  pos : 0 < m
  lt : m < 2 ^ 53
  least : leastExponent ≤ e
  normal : e = leastExponent ∨ 2 ^ 52 ≤ m
  greatest : e ≤ greatestExponent

/-- The lower end of the reals that round to a number, in units of its last place. Below a power of
two the numbers lie closer together. -/
def lowEnd (m : ℕ) (e : ℤ) : ℚ := if m = 2 ^ 52 ∧ leastExponent < e then m - 1 / 4 else m - 1 / 2

theorem sub_half_le_lowEnd (m : ℕ) (e : ℤ) : (m : ℚ) - 1 / 2 ≤ lowEnd m e := by
  unfold lowEnd
  split_ifs <;> linarith

theorem lowEnd_lt (m : ℕ) (e : ℤ) : lowEnd m e < m := by
  unfold lowEnd
  split_ifs <;> linarith

/-- **The reals that round to a number.** The ends belong to them if the mantissa is even. -/
structure InBasin (x : ℚ) (m : ℕ) (e : ℤ) : Prop where
  low : lowEnd m e * 2 ^ e ≤ x
  high : x ≤ (m + 1 / 2) * 2 ^ e
  tie : m % 2 = 1 → lowEnd m e * 2 ^ e < x ∧ x < (m + 1 / 2) * 2 ^ e

/-- What lies between two reals that round to a number rounds to it as well. -/
theorem InBasin.between (hx : InBasin x m e) (hz : InBasin z m e) (hxy : x ≤ y) (hyz : y ≤ z) :
    InBasin y m e where
  low := hx.low.trans hxy
  high := hyz.trans hz.high
  tie h := ⟨(hx.tie h).1.trans_le hxy, hyz.trans_lt (hz.tie h).2⟩

theorem InBasin.pos (hc : Canonical m e) (h : InBasin x m e) : 0 < x := by
  have hm : (1 : ℚ) ≤ m := by exact_mod_cast hc.pos
  have hend : 0 < lowEnd m e := by linarith [sub_half_le_lowEnd m e]
  exact (mul_pos hend (by positivity)).trans_le h.low

/-- **The exponent to round at**: the mantissa has 53 bits before rounding, or fewer if the exponent
is the least one. -/
structure Scaled (x : ℚ) (e : ℤ) : Prop where
  least : leastExponent ≤ e
  lt : x / 2 ^ e < 2 ^ 53
  normal : e = leastExponent ∨ 2 ^ 52 ≤ x / 2 ^ e

theorem Scaled.unique {e' : ℤ} (h : Scaled x e) (h' : Scaled x e') : e = e' := by
  wlog hlt : e < e' generalizing e e'
  · rcases lt_or_eq_of_le (not_lt.1 hlt) with hgt | heq
    · exact (this h' h hgt).symm
    · exact heq.symm
  exfalso
  have hlow : (2 : ℚ) ^ 52 ≤ x / 2 ^ e' := h'.normal.resolve_left (by have := h.least; omega)
  have hstep : (2 : ℚ) ^ (e + 1) ≤ 2 ^ e' := zpow_le_zpow_right₀ (by norm_num) (by omega)
  have hpos : (0 : ℚ) < 2 ^ e := by positivity
  have hx := h.lt
  rw [div_lt_iff₀ hpos] at hx
  rw [le_div_iff₀ (by positivity)] at hlow
  rw [zpow_add₀ two_ne_zero, zpow_one] at hstep
  linarith

/-- A number with this many units of a last place, rounded: a mantissa of 54 bits becomes one of 53.
-/
def pack (negative : Bool) (q : ℕ) (e : ℤ) : Double :=
  let (m, e) := if q = 2 ^ 53 then (2 ^ 52, e + 1) else (q, e)
  if greatestExponent < e then infinite negative else finite negative m e

/-- What is packed is infinite or has a mantissa, which is zero only if nothing was packed. -/
theorem pack_cases (negative : Bool) (q : ℕ) (e : ℤ) : pack negative q e = infinite negative ∨
    ∃ m e', pack negative q e = finite negative m e' ∧ (0 < q → 0 < m) := by
  unfold pack
  by_cases hcarry : q = 2 ^ 53
  · rw [if_pos hcarry]
    simp only
    split_ifs
    · exact .inl rfl
    · exact .inr ⟨_, _, rfl, fun _ => by decide⟩
  · rw [if_neg hcarry]
    simp only
    split_ifs
    · exact .inl rfl
    · exact .inr ⟨_, _, rfl, id⟩

/-- Every positive quotient has an exponent to round at. -/
theorem scaled_exponent (hnum : 0 < num) (hden : 0 < den) :
    Scaled (num / den) (max (floorLog2 num den - 52) leastExponent) := by
  obtain ⟨hlow, hhigh⟩ := floorLog2_spec hnum hden
  set l := floorLog2 num den
  refine ⟨le_max_right _ _, ?_, ?_⟩
  · rw [div_lt_iff₀ (by positivity)]
    calc (num / den : ℚ) < 2 ^ (l + 1) := hhigh
      _ = 2 ^ 53 * 2 ^ (l - 52) := by
          rw [← zpow_natCast, ← zpow_add₀ two_ne_zero,
            show ((53 : ℕ) : ℤ) + (l - 52) = l + 1 by omega]
      _ ≤ 2 ^ 53 * 2 ^ max (l - 52) leastExponent := by
          gcongr
          · norm_num
          · exact le_max_left _ _
  · rcases le_total (l - 52) leastExponent with hle | hle
    · exact .inl (max_eq_right hle)
    · right
      have hexponent : ((52 : ℕ) : ℤ) + (l - 52) = l := by omega
      rw [max_eq_left hle, le_div_iff₀ (by positivity), ← zpow_natCast, ← zpow_add₀ two_ne_zero,
        hexponent]
      exact hlow

/-- **Rounding a quotient** by any exponent to round at and any nearest mantissa: there is one of
each. -/
theorem ofRatio_eq (negative : Bool) (hnum : 0 < num) (hden : 0 < den)
    (hs : Scaled (num / den) e) (hq : Nearest (num / den / 2 ^ e) q) :
    ofRatio negative num den = pack negative q e := by
  obtain rfl := (scaled_exponent hnum hden).unique hs
  obtain ⟨hpos, hratio⟩ :=
    scaleRatio_spec num hden (max (floorLog2 num den - 52) leastExponent)
  have hround := nearest_roundRatio (scaleRatio num den
    (max (floorLog2 num den - 52) leastExponent)).1 hpos
  rw [hratio] at hround
  obtain rfl := hround.unique hq
  unfold ofRatio pack
  rw [if_neg hnum.ne']
  rfl

/-- Every positive quotient is rounded so. -/
theorem exists_ofRatio_eq (negative : Bool) (hnum : 0 < num) (hden : 0 < den) : ∃ e q,
    Scaled (num / den) e ∧ Nearest (num / den / 2 ^ e) q ∧
      ofRatio negative num den = pack negative q e := by
  have hs := scaled_exponent hnum hden
  obtain ⟨hpos, hratio⟩ :=
    scaleRatio_spec num hden (max (floorLog2 num den - 52) leastExponent)
  have hround := nearest_roundRatio (scaleRatio num den
    (max (floorLog2 num den - 52) leastExponent)).1 hpos
  rw [hratio] at hround
  exact ⟨_, _, hs, hround, ofRatio_eq negative hnum hden hs hround⟩

/-- A whole number other than zero is not rounded to zero. -/
theorem units_pos {n q : ℕ} (hn : 0 < n) (hs : Scaled (n / (1 : ℕ)) e)
    (hq : Nearest (n / (1 : ℕ) / 2 ^ e) q) : 0 < q := by
  rw [Nat.cast_one, div_one] at hs hq
  have hone : (1 : ℚ) ≤ n := by exact_mod_cast hn
  by_contra hzero
  have hhigh := hq.high
  rw [Nat.eq_zero_of_not_pos hzero, Nat.cast_zero, zero_add] at hhigh
  have hleast : e = leastExponent := hs.normal.resolve_right fun hnormal => by linarith
  -- at the least exponent a unit is less than one, and nothing from one on is half of it
  have hunit : (2 : ℚ) ^ e ≤ 1 := by
    rw [hleast]
    exact zpow_le_one_of_nonpos₀ (by norm_num) (by decide)
  rw [div_le_iff₀ (by positivity)] at hhigh
  linarith

/-- Rounded up to one bit more, a number becomes the power of two above it. -/
theorem inBasin_of_carry (hs : Scaled (y * 2 ^ e) e) (hq : Nearest y (2 ^ 53))
    (hlarge : e + 1 ≤ greatestExponent) :
    Canonical (2 ^ 52) (e + 1) ∧ InBasin (y * 2 ^ e) (2 ^ 52) (e + 1) := by
  have hpos : (0 : ℚ) < 2 ^ e := by positivity
  have hleast := hs.least
  have hlt := hs.lt
  rw [mul_div_cancel_right₀ y hpos.ne'] at hlt
  have hlow : lowEnd (2 ^ 52) (e + 1) = 2 ^ 52 - 1 / 4 := by
    rw [lowEnd, if_pos ⟨rfl, by omega⟩]
    norm_num
  have hq' := hq.low
  push_cast at hq'
  refine ⟨⟨by decide, by decide, by omega, .inr le_rfl, hlarge⟩, ?_, ?_, ?_⟩
  · rw [hlow, zpow_add₀ two_ne_zero, zpow_one]
    nlinarith
  · rw [zpow_add₀ two_ne_zero, zpow_one]
    push_cast
    nlinarith
  · intro hodd
    exact absurd hodd (by decide)

/-- Rounded otherwise, it is in the basin of what it is rounded to. -/
theorem inBasin_of_nearest (hs : Scaled (y * 2 ^ e) e) (hq : Nearest y m) (hm : 0 < m)
    (hlt : m < 2 ^ 53) (hlarge : e ≤ greatestExponent) :
    Canonical m e ∧ InBasin (y * 2 ^ e) m e := by
  have hpos : (0 : ℚ) < 2 ^ e := by positivity
  have hnormal := hs.normal
  rw [mul_div_cancel_right₀ y hpos.ne'] at hnormal
  have hnormal' : e = leastExponent ∨ 2 ^ 52 ≤ m := by
    refine hnormal.imp_right fun hy => ?_
    have : ((2 ^ 52 : ℕ) : ℚ) < (m + 1 : ℕ) := by
      push_cast
      linarith [hq.high]
    exact Nat.lt_succ_iff.1 (by exact_mod_cast this)
  -- at a power of two the lower end is nearer, but nothing below the power is rounded here
  have hlow : lowEnd m e ≤ y ∧ (m % 2 = 1 → lowEnd m e < y) := by
    unfold lowEnd
    split_ifs with hpower
    · have hy := hnormal.resolve_left (by omega)
      rw [hpower.1]
      push_cast
      exact ⟨by linarith, fun _ => by linarith⟩
    · exact ⟨hq.low, fun hodd => (hq.tie hodd).1⟩
  refine ⟨⟨hm, hlt, hs.least, hnormal', hlarge⟩, ?_, ?_, ?_⟩
  · exact mul_le_mul_of_nonneg_right hlow.1 hpos.le
  · exact mul_le_mul_of_nonneg_right hq.high hpos.le
  · intro hodd
    exact ⟨mul_lt_mul_of_pos_right (hlow.2 hodd) hpos,
      mul_lt_mul_of_pos_right (hq.tie hodd).2 hpos⟩

/-- What a quotient that is not rounded to zero is rounded to: a number in its one form, in whose
basin the quotient lies. -/
theorem inBasin_of_ofRatio {negative negative' : Bool} (hnum : 0 < num) (hden : 0 < den)
    (hm : 0 < m) (h : ofRatio negative num den = finite negative' m e) :
    negative' = negative ∧ Canonical m e ∧ InBasin (num / den) m e := by
  obtain ⟨e', q, hs, hq, hround⟩ := exists_ofRatio_eq negative hnum hden
  rw [hround, pack] at h
  generalize (num / den : ℚ) = x at hs hq ⊢
  have hpos : (0 : ℚ) < 2 ^ e' := by positivity
  obtain ⟨y, rfl⟩ : ∃ y, x = y * 2 ^ e' := ⟨x / 2 ^ e', (div_mul_cancel₀ x hpos.ne').symm⟩
  rw [mul_div_cancel_right₀ y hpos.ne'] at hq
  by_cases hcarry : q = 2 ^ 53
  · rw [if_pos hcarry] at h
    simp only at h
    split_ifs at h with hlarge
    cases h
    rw [hcarry] at hq
    exact ⟨rfl, inBasin_of_carry hs hq (not_lt.1 hlarge)⟩
  · rw [if_neg hcarry] at h
    simp only at h
    split_ifs at h with hlarge
    cases h
    have hlt := hs.lt
    rw [mul_div_cancel_right₀ y hpos.ne'] at hlt
    have hle : m ≤ 2 ^ 53 := by
      have : (m : ℚ) < (2 ^ 53 + 1 : ℕ) := by
        push_cast
        linarith [hq.low]
      exact Nat.lt_succ_iff.1 (by exact_mod_cast this)
    exact ⟨rfl, inBasin_of_nearest hs hq hm (by omega) (not_lt.1 hlarge)⟩

/-- A number just below a power of two is scaled by half as much as the power and rounded up to it.
-/
theorem scaled_below_power (hc : Canonical m e) (hlow : lowEnd m e ≤ y) (hhigh : y < 2 ^ 52)
    (hle : e ≠ leastExponent) : m = 2 ^ 52 ∧ Scaled (y * 2 ^ e) (e - 1) ∧
      Nearest (y * 2 ^ e / 2 ^ (e - 1)) (2 ^ 53) := by
  have hmantissa : m = 2 ^ 52 := by
    refine le_antisymm ?_ (hc.normal.resolve_left hle)
    have : (m : ℚ) < (2 ^ 52 + 1 : ℕ) := by
      push_cast
      linarith [sub_half_le_lowEnd m e]
    exact Nat.lt_succ_iff.1 (by exact_mod_cast this)
  have hleast := hc.least
  have hlow' : (2 : ℚ) ^ 52 - 1 / 4 ≤ y := by
    rw [lowEnd, if_pos ⟨hmantissa, by omega⟩, hmantissa] at hlow
    exact_mod_cast hlow
  have hscale : y * 2 ^ e / 2 ^ (e - 1) = 2 * y := by
    rw [zpow_sub₀ two_ne_zero, zpow_one]
    field_simp
  refine ⟨hmantissa, ⟨by omega, ?_, .inr ?_⟩, ?_⟩
  · rw [hscale]
    linarith
  · rw [hscale]
    linarith
  · rw [hscale]
    refine ⟨?_, ?_, fun hodd => absurd hodd (by decide)⟩ <;> push_cast <;> linarith

/-- **A quotient in the basin of a number is rounded to it.** -/
theorem ofRatio_of_inBasin (negative : Bool) (hnum : 0 < num) (hden : 0 < den)
    (hc : Canonical m e) (h : InBasin (num / den) m e) :
    ofRatio negative num den = finite negative m e := by
  have hfinite : ¬greatestExponent < e := not_lt.2 hc.greatest
  generalize hx : (num / den : ℚ) = x at h
  have hpos : (0 : ℚ) < 2 ^ e := by positivity
  obtain ⟨y, rfl⟩ : ∃ y, x = y * 2 ^ e := ⟨x / 2 ^ e, (div_mul_cancel₀ x hpos.ne').symm⟩
  have hlow : lowEnd m e ≤ y := le_of_mul_le_mul_right h.low hpos
  have hhigh : y ≤ m + 1 / 2 := le_of_mul_le_mul_right h.high hpos
  have htie : m % 2 = 1 → lowEnd m e < y ∧ y < m + 1 / 2 := fun hodd =>
    ⟨lt_of_mul_lt_mul_right (h.tie hodd).1 hpos.le, lt_of_mul_lt_mul_right (h.tie hodd).2 hpos.le⟩
  by_cases hnormal : e = leastExponent ∨ 2 ^ 52 ≤ y
  · have hlt : y < 2 ^ 53 := by
      have : (m : ℚ) + 1 ≤ 2 ^ 53 := by exact_mod_cast hc.lt
      linarith
    have hs : Scaled (num / den) e := by
      rw [hx]
      refine ⟨hc.least, ?_, ?_⟩ <;> rwa [mul_div_cancel_right₀ y hpos.ne']
    have hq : Nearest (num / den / 2 ^ e) m := by
      rw [hx, mul_div_cancel_right₀ y hpos.ne']
      have hhalf := sub_half_le_lowEnd m e
      exact ⟨hhalf.trans hlow, hhigh, fun hodd =>
        ⟨hhalf.trans_lt (htie hodd).1, (htie hodd).2⟩⟩
    rw [ofRatio_eq negative hnum hden hs hq, pack, if_neg hc.lt.ne]
    simp only [if_neg hfinite]
  · rw [not_or, not_le] at hnormal
    obtain ⟨hmantissa, hs, hq⟩ := scaled_below_power hc hlow hnormal.2 hnormal.1
    rw [← hx] at hs hq
    rw [ofRatio_eq negative hnum hden hs hq, pack, if_pos rfl, hmantissa]
    simp only [sub_add_cancel, if_neg hfinite]

end Double

end StageChain
