import StageChain.Proofs.Rounding

/-!
# Shortest decimals read back

The decimal that is written for a number is looked for place by place, from its first digit down.
It lies in the basin of the number, so that it is rounded to the number again; with seventeen digits
there is always one. For a whole number that is a double, it is the number itself.

* `Decimal.value`: the number that a decimal stands for.
* `contains_iff`: **a quotient is in the basin** that the search computes if it rounds to the
  number.
* `inBasin_seventeen`: one of two neighbours reads back on a grid of seventeen digits.
* `shortest_eq`: where the shortest decimal is found.
* `inBasin_shortest`: **the shortest decimal reads back.**
* `shortest_whole`: **a whole number up to the limit is written as it is.**
-/

namespace StageChain

namespace Double

variable {m n d : ℕ} {e p : ℤ} {x : ℚ}

/-- The number that a decimal stands for. -/
def Decimal.value (d : Decimal) : ℚ := d.digits * 10 ^ d.exponent

/-! ## The basin of a number -/

/-- A number as a quotient. -/
theorem ratio_spec (m : ℕ) (e : ℤ) :
    0 < (ratio m e).2 ∧ ((ratio m e).1 : ℚ) / (ratio m e).2 = m * 2 ^ e := by
  unfold ratio
  split_ifs with he
  · obtain ⟨k, rfl⟩ := Int.eq_ofNat_of_zero_le he
    refine ⟨Nat.one_pos, ?_⟩
    simp
  · obtain ⟨k, hk⟩ := Int.eq_ofNat_of_zero_le (show 0 ≤ -e by omega)
    obtain rfl : e = -(k : ℤ) := by omega
    refine ⟨Nat.pow_pos (by decide), ?_⟩
    simp [div_eq_mul_inv]

/-- The basin of a number over its denominator. -/
theorem basin_spec (hc : Canonical m e) : 0 < (basin m e).den ∧
    ((basin m e).low : ℚ) / (basin m e).den = lowEnd m e * 2 ^ e ∧
    ((basin m e).mid : ℚ) / (basin m e).den = m * 2 ^ e ∧
    ((basin m e).high : ℚ) / (basin m e).den = (m + 1 / 2) * 2 ^ e ∧
    ((basin m e).closed = true ↔ m % 2 = 0) := by
  obtain ⟨hden, hunit⟩ := ratio_spec 1 (e - 2)
  have hquarter : (2 : ℚ) ^ (e - 2) = 2 ^ e / 4 := by
    rw [zpow_sub₀ two_ne_zero]
    norm_num
  rw [Nat.cast_one, one_mul, hquarter] at hunit
  have hpos := hc.pos
  unfold basin
  simp only [Nat.cast_mul, mul_div_assoc, hunit]
  refine ⟨hden, ?_, ?_, ?_, by simp⟩
  · unfold lowEnd
    have hpow : Nat.pow 2 52 = 2 ^ 52 := rfl
    rw [hpow]
    split_ifs <;> rw [Nat.cast_sub (by omega)] <;> push_cast <;> ring
  · push_cast
    ring
  · push_cast
    ring

/-- **A quotient is in the basin** if the number is what it rounds to. -/
theorem contains_iff (hc : Canonical m e) (hd : 0 < d) :
    (basin m e).contains n d = true ↔ InBasin (n / d) m e := by
  obtain ⟨hden, hlow, -, hhigh, hclosed⟩ := basin_spec hc
  have hden' : (0 : ℚ) < (basin m e).den := by exact_mod_cast hden
  have hd' : (0 : ℚ) < d := by exact_mod_cast hd
  have hle₁ : (basin m e).low * d ≤ n * (basin m e).den ↔ lowEnd m e * 2 ^ e ≤ (n / d : ℚ) := by
    rw [← hlow, div_le_div_iff₀ hden' hd']
    exact_mod_cast Iff.rfl
  have hle₂ : n * (basin m e).den ≤ (basin m e).high * d ↔ (n / d : ℚ) ≤ (m + 1 / 2) * 2 ^ e := by
    rw [← hhigh, div_le_div_iff₀ hd' hden']
    exact_mod_cast Iff.rfl
  have hlt₁ : (basin m e).low * d < n * (basin m e).den ↔ lowEnd m e * 2 ^ e < (n / d : ℚ) := by
    rw [← hlow, div_lt_div_iff₀ hden' hd']
    exact_mod_cast Iff.rfl
  have hlt₂ : n * (basin m e).den < (basin m e).high * d ↔ (n / d : ℚ) < (m + 1 / 2) * 2 ^ e := by
    rw [← hhigh, div_lt_div_iff₀ hd' hden']
    exact_mod_cast Iff.rfl
  unfold Basin.contains
  simp only
  by_cases heven : m % 2 = 0
  · rw [if_pos (hclosed.2 heven), Bool.and_eq_true, decide_eq_true_eq, decide_eq_true_eq, hle₁,
      hle₂]
    exact ⟨fun h => ⟨h.1, h.2, fun hodd => absurd hodd (by omega)⟩, fun h => ⟨h.low, h.high⟩⟩
  · rw [if_neg (mt hclosed.1 heven), Bool.and_eq_true, decide_eq_true_eq, decide_eq_true_eq, hlt₁,
      hlt₂]
    exact ⟨fun h => ⟨h.1.le, h.2.le, fun _ => h⟩, fun h => h.tie (by omega)⟩

/-! ## Decimals with a given last place -/

/-- A power of ten as a quotient of powers, of which one is one. -/
theorem ten_zpow (p : ℤ) :
    ((Nat.pow 10 p.toNat : ℕ) : ℚ) / (Nat.pow 10 (-p).toNat : ℕ) = 10 ^ p := by
  rcases le_total 0 p with hp | hp
  · obtain ⟨k, rfl⟩ := Int.eq_ofNat_of_zero_le hp
    simp
  · obtain ⟨k, hk⟩ := Int.eq_ofNat_of_zero_le (show 0 ≤ -p by omega)
    obtain rfl : p = -(k : ℤ) := by omega
    simp

/-- The whole number of units of a place next below a number. -/
def unitsBelow (m : ℕ) (e p : ℤ) : ℕ :=
  (basin m e).mid * Nat.pow 10 (-p).toNat / ((basin m e).den * Nat.pow 10 p.toNat)

theorem unitsBelow_spec (hc : Canonical m e) (p : ℤ) :
    (unitsBelow m e p : ℚ) * 10 ^ p ≤ m * 2 ^ e ∧
      (m * 2 ^ e : ℚ) < (unitsBelow m e p + 1) * 10 ^ p := by
  obtain ⟨hden, -, hmid, -, -⟩ := basin_spec hc
  have hup : 0 < Nat.pow 10 p.toNat := Nat.pow_pos (by decide)
  have hdown : 0 < Nat.pow 10 (-p).toNat := Nat.pow_pos (by decide)
  have hstep : 0 < (basin m e).den * Nat.pow 10 p.toNat := Nat.mul_pos hden hup
  have hscaled : (((basin m e).mid * Nat.pow 10 (-p).toNat : ℕ) : ℚ)
      / ((basin m e).den * Nat.pow 10 p.toNat : ℕ) = m * 2 ^ e / 10 ^ p := by
    rw [← ten_zpow, ← hmid]
    push_cast
    field_simp
  have hlow : (unitsBelow m e p : ℚ) ≤ m * 2 ^ e / 10 ^ p := by
    rw [← hscaled, le_div_iff₀ (by exact_mod_cast hstep)]
    exact_mod_cast Nat.div_mul_le_self _ _
  have hhigh : (m * 2 ^ e / 10 ^ p : ℚ) < unitsBelow m e p + 1 := by
    have hnext : (basin m e).mid * Nat.pow 10 (-p).toNat
        < (unitsBelow m e p + 1) * ((basin m e).den * Nat.pow 10 p.toNat) := by
      rw [Nat.mul_comm (unitsBelow m e p + 1)]
      exact Nat.lt_mul_div_succ _ hstep
    rw [← hscaled, div_lt_iff₀ (by exact_mod_cast hstep)]
    exact_mod_cast hnext
  exact ⟨(le_div_iff₀ (by positivity)).1 hlow, (div_lt_iff₀ (by positivity)).1 hhigh⟩

/-- Whether so many units of a place read back. -/
theorem contains_units (hc : Canonical m e) (q : ℕ) (p : ℤ) :
    (basin m e).contains (q * Nat.pow 10 p.toNat) (Nat.pow 10 (-p).toNat) = true ↔
      InBasin (q * 10 ^ p) m e := by
  have hdown : 0 < Nat.pow 10 (-p).toNat := Nat.pow_pos (by decide)
  rw [contains_iff hc hdown, ← ten_zpow, Nat.cast_mul, mul_div_assoc]

/-- What is found at a place reads back: it is the number of units next below or next above. -/
theorem inBasin_of_onGrid? (hc : Canonical m e) {d : Decimal}
    (h : (basin m e).onGrid? p = some d) : InBasin d.value m e ∧ d.exponent = p := by
  unfold Basin.onGrid? at h
  simp only at h
  split at h
  next hlower =>
    cases h
    rw [Bool.and_eq_true] at hlower
    exact ⟨(contains_units hc _ p).1 hlower.1, rfl⟩
  next =>
    split at h
    next hupper =>
      cases h
      exact ⟨(contains_units hc _ p).1 hupper, rfl⟩
    next => cases h

/-- If one of the two neighbours reads back, one of them is found. -/
theorem onGrid?_isSome (hc : Canonical m e)
    (h : InBasin (unitsBelow m e p * 10 ^ p) m e ∨
      InBasin ((unitsBelow m e p + 1 : ℕ) * 10 ^ p) m e) :
    ((basin m e).onGrid? p).isSome = true := by
  rw [← contains_units hc, ← contains_units hc] at h
  unfold unitsBelow at h
  unfold Basin.onGrid?
  simp only
  split
  · rfl
  next hlower =>
    split
    · rfl
    next hupper =>
      -- the upper neighbour does not read back, so the lower one would have been taken
      simp_all

/-! ## Seventeen digits -/

/-- The number of digits of a positive number, less one, and the powers of ten around it. -/
theorem exists_decimalLength (hn : 0 < n) :
    ∃ k, decimalLength n = k + 1 ∧ 10 ^ k ≤ n ∧ n < 10 ^ (k + 1) := by
  have hlength : 0 < decimalLength n := List.length_pos_iff.2 Nat.toDigits_ne_nil
  obtain ⟨k, hk⟩ := Nat.exists_eq_add_of_lt hlength
  rw [Nat.zero_add] at hk
  refine ⟨k, hk, ?_, (Nat.length_toDigits_le_iff (by decide) k.succ_pos).1 hk.le⟩
  by_contra hlt
  rcases Nat.eq_zero_or_pos k with hzero | hpos
  · rw [hzero, pow_zero] at hlt
    omega
  · -- a number below the power would have fewer digits
    have hshort : decimalLength n ≤ k :=
      (Nat.length_toDigits_le_iff (by decide) hpos).2 (not_le.1 hlt)
    omega

/-- From one on, the whole part has the digits before the point. -/
theorem floorLog10_of_le {num den : ℕ} (hden : 0 < den) (hle : den ≤ num) :
    (10 : ℚ) ^ floorLog10 num den ≤ num / den ∧
      (num / den : ℚ) < 10 ^ (floorLog10 num den + 1) := by
  have hden' : (0 : ℚ) < den := by exact_mod_cast hden
  obtain ⟨k, hk, hlow, hhigh⟩ := exists_decimalLength (Nat.div_pos hle hden)
  rw [Nat.le_div_iff_mul_le hden] at hlow
  rw [Nat.div_lt_iff_lt_mul hden] at hhigh
  unfold floorLog10
  rw [if_pos hle, hk]
  push_cast
  rw [add_sub_cancel_right, zpow_natCast, le_div_iff₀ hden', div_lt_iff₀ hden']
  refine ⟨by exact_mod_cast hlow, ?_⟩
  exact_mod_cast hhigh

/-- Below one, the zeros behind the point are the digits of the inverse, rounded up and less one. -/
theorem floorLog10_of_lt {num den : ℕ} (hnum : 0 < num) (hlt : num < den) :
    (10 : ℚ) ^ floorLog10 num den ≤ num / den ∧
      (num / den : ℚ) < 10 ^ (floorLog10 num den + 1) := by
  have hden' : (0 : ℚ) < den := by exact_mod_cast hnum.trans hlt
  unfold floorLog10
  rw [if_neg (not_le.2 hlt)]
  simp only
  set c := (den + num - 1) / num with hceiling
  have hc₁ : den ≤ c * num := by
    have := Nat.lt_mul_div_succ (den + num - 1) hnum
    rw [← hceiling, Nat.mul_succ, Nat.mul_comm] at this
    omega
  have hc₂ : (c - 1) * num < den := by
    have := Nat.div_mul_le_self (den + num - 1) num
    rw [← hceiling] at this
    rw [Nat.sub_mul, Nat.one_mul]
    omega
  have hc₃ : 0 < c - 1 := by
    rcases Nat.eq_zero_or_pos (c - 1) with hzero | hpos
    · have : c ≤ 1 := by omega
      have := Nat.mul_le_mul_right num this
      omega
    · exact hpos
  obtain ⟨k, hk, hlow, hhigh⟩ := exists_decimalLength hc₃
  have hceil : den ≤ 10 ^ (k + 1) * num := hc₁.trans (Nat.mul_le_mul_right num (by omega))
  have hfloor : 10 ^ k * num < den := (Nat.mul_le_mul_right num hlow).trans_lt hc₂
  rw [hk, Int.negOfNat_eq, show -Int.ofNat (k + 1) + 1 = -(k : ℤ) by simp,
    show -Int.ofNat (k + 1) = -((k + 1 : ℕ) : ℤ) from rfl, zpow_neg, zpow_neg, zpow_natCast,
    zpow_natCast, le_div_iff₀ hden', div_lt_iff₀ hden', inv_mul_le_iff₀ (by positivity),
    lt_inv_mul_iff₀ (by positivity)]
  exact ⟨by exact_mod_cast hceil, by exact_mod_cast hfloor⟩

/-- **The decimal exponent of a quotient** is that of the power of ten next below it. -/
theorem floorLog10_spec {num den : ℕ} (hnum : 0 < num) (hden : 0 < den) :
    (10 : ℚ) ^ floorLog10 num den ≤ num / den ∧
      (num / den : ℚ) < 10 ^ (floorLog10 num den + 1) := by
  rcases le_or_gt den num with hle | hlt
  · exact floorLog10_of_le hden hle
  · exact floorLog10_of_lt hnum hlt

theorem InBasin.of_lt (hlow : lowEnd m e * 2 ^ e < x) (hhigh : x < (m + 1 / 2) * 2 ^ e) :
    InBasin x m e := ⟨hlow.le, hhigh.le, fun _ => ⟨hlow, hhigh⟩⟩

/-- **One of two neighbours reads back** on a grid of seventeen digits: the basin reaches farther
than half a step to either side. -/
theorem inBasin_seventeen (hc : Canonical m e) {top : ℤ} (htop : (10 : ℚ) ^ top ≤ m * 2 ^ e) :
    InBasin (unitsBelow m e (top - 16) * 10 ^ (top - 16)) m e ∨
      InBasin ((unitsBelow m e (top - 16) + 1 : ℕ) * 10 ^ (top - 16)) m e := by
  obtain ⟨hbelow, habove⟩ := unitsBelow_spec hc (top - 16)
  generalize unitsBelow m e (top - 16) = q at hbelow habove ⊢
  have hstep : (10 : ℚ) ^ 16 * 10 ^ (top - 16) ≤ m * 2 ^ e := by
    refine le_of_eq_of_le ?_ htop
    rw [← zpow_natCast, ← zpow_add₀ (by norm_num), show ((16 : ℕ) : ℤ) + (top - 16) = top by omega]
  have hlt : (m : ℚ) + 1 ≤ 2 ^ 53 := by exact_mod_cast hc.lt
  have hunit : (0 : ℚ) < 2 ^ e := by positivity
  have hhigh : (10 : ℚ) ^ (top - 16) < 2 ^ e := by nlinarith
  have hlow : (10 : ℚ) ^ (top - 16) / 2 < (m - lowEnd m e) * 2 ^ e := by
    unfold lowEnd
    split_ifs with hpower
    · rw [hpower.1] at hstep ⊢
      push_cast at hstep ⊢
      linarith
    · linarith
  have hmid : lowEnd m e * 2 ^ e < m * 2 ^ e := by
    have : (0 : ℚ) < 10 ^ (top - 16) := by positivity
    linarith
  rcases le_or_gt (m * 2 ^ e - q * 10 ^ (top - 16) : ℚ) (10 ^ (top - 16) / 2) with hnear | hfar
  · left
    exact .of_lt (by linarith) (by linarith)
  · right
    push_cast
    exact .of_lt (by linarith) (by linarith)

/-! ## The shortest decimal -/

/-- Zeros at the end do not count. -/
theorem value_strip (fuel : ℕ) (d : Decimal) : (d.strip fuel).value = d.value := by
  induction fuel generalizing d with
  | zero => rfl
  | succ fuel ih =>
    rw [Decimal.strip]
    split
    next hzero =>
      have hdigits : (d.digits : ℚ) = (d.digits / 10 : ℕ) * 10 := by
        exact_mod_cast (Nat.div_mul_cancel (Nat.dvd_of_mod_eq_zero hzero.2)).symm
      rw [ih, Decimal.value, Decimal.value, hdigits, zpow_add₀ (by norm_num), zpow_one]
      ring
    next => rfl

/-- The place of the first digit of a number. -/
def topPlace (m : ℕ) (e : ℤ) : ℤ := floorLog10 (basin m e).mid (basin m e).den

theorem topPlace_spec (hc : Canonical m e) :
    (10 : ℚ) ^ topPlace m e ≤ m * 2 ^ e ∧ (m * 2 ^ e : ℚ) < 10 ^ (topPlace m e + 1) := by
  obtain ⟨hden, -, hmid, -, -⟩ := basin_spec hc
  have hpos : (0 : ℚ) < (basin m e).mid / (basin m e).den := by
    rw [hmid]
    have : (0 : ℚ) < m := by exact_mod_cast hc.pos
    positivity
  have hnum : 0 < (basin m e).mid := by
    by_contra hzero
    rw [Nat.eq_zero_of_not_pos hzero] at hpos
    simp at hpos
  rw [← hmid]
  exact floorLog10_spec hnum hden

/-- **The shortest decimal is found** at the first place, from the top down, at which one reads
back. -/
theorem shortest_eq (hc : Canonical m e) : ∃ (k : ℕ) (d : Decimal), k < 17 ∧
    (basin m e).onGrid? (topPlace m e - k) = some d ∧
    (∀ j < k, (basin m e).onGrid? (topPlace m e - j) = none) ∧ (shortest m e).value = d.value := by
  have hfound : ((List.range 17).findSome? fun n : ℕ =>
      (basin m e).onGrid? (topPlace m e - n)).isSome = true := by
    rw [List.findSome?_isSome_iff]
    refine ⟨16, by simp, onGrid?_isSome hc ?_⟩
    exact inBasin_seventeen hc (topPlace_spec hc).1
  obtain ⟨d, hd⟩ := Option.isSome_iff_exists.1 hfound
  have hvalue : (shortest m e).value = d.value := by
    rw [shortest, value_strip]
    exact congrArg (fun o : Option Decimal => (o.getD ⟨0, 0⟩).value) hd
  obtain ⟨before, k, after, hrange, hk, hbefore⟩ := List.findSome?_eq_some_iff.1 hd
  have hlength : before.length < 17 := by
    have := congrArg List.length hrange
    rw [List.length_range, List.length_append, List.length_cons] at this
    omega
  have hindex (i : ℕ) : (List.range 17)[i]? = (before ++ k :: after)[i]? :=
    congrArg (fun l => l[i]?) hrange
  obtain rfl : before.length = k := by
    have := hindex before.length
    rw [List.getElem?_range hlength, List.getElem?_append_right le_rfl, Nat.sub_self] at this
    exact Option.some.inj this
  refine ⟨before.length, d, hlength, hk, fun j hj => hbefore j ?_, hvalue⟩
  have := hindex j
  rw [List.getElem?_range (hj.trans hlength), List.getElem?_append_left hj] at this
  exact List.mem_of_getElem? this.symm

/-- **The shortest decimal reads back.** -/
theorem inBasin_shortest (hc : Canonical m e) : InBasin (shortest m e).value m e := by
  obtain ⟨k, d, -, hd, -, hvalue⟩ := shortest_eq hc
  rw [hvalue]
  exact (inBasin_of_onGrid? hc hd).1

/-- A number rounds to itself. -/
theorem InBasin.self (m : ℕ) (e : ℤ) : InBasin (m * 2 ^ e) m e := by
  have hunit : (0 : ℚ) < 2 ^ e := by positivity
  exact .of_lt (mul_lt_mul_of_pos_right (lowEnd_lt m e) hunit)
    (mul_lt_mul_of_pos_right (by linarith) hunit)

/-! ## Whole numbers -/

/-- The whole numbers below this one are doubles. -/
def wholeLimit : ℕ := 2 ^ 53

/-- A whole number below the limit is a double of its own, with a mantissa of units or of parts of
one. -/
theorem ofRatio_whole (negative : Bool) (hn : 0 < n) (hlt : n < wholeLimit) : ∃ m e,
    Canonical m e ∧ ofRatio negative n 1 = finite negative m e ∧ (m * 2 ^ e : ℚ) = n ∧ e ≤ 0 := by
  have hlog : n.log2 < 53 := (Nat.log2_lt hn.ne').2 hlt
  obtain ⟨k, hk⟩ := Nat.exists_eq_add_of_le (Nat.lt_succ_iff.1 hlog)
  have hlow : 2 ^ n.log2 ≤ n := Nat.log2_self_le hn.ne'
  have hhigh : n < 2 ^ (n.log2 + 1) := Nat.lt_log2_self
  -- shifted to 53 bits it is whole, so that nothing is rounded
  have hm₁ : 2 ^ 52 ≤ n * 2 ^ k := by
    rw [hk, pow_add]
    exact Nat.mul_le_mul_right _ hlow
  have hm₂ : n * 2 ^ k < 2 ^ 53 := by
    rw [show 53 = n.log2 + 1 + k by omega, pow_add]
    exact Nat.mul_lt_mul_of_pos_right hhigh (Nat.two_pow_pos k)
  have hvalue : ((n * 2 ^ k : ℕ) * 2 ^ (-(k : ℤ)) : ℚ) = n := by
    push_cast
    rw [zpow_neg, zpow_natCast, mul_inv_cancel_right₀ (by positivity)]
  have hc : Canonical (n * 2 ^ k) (-(k : ℤ)) :=
    ⟨by positivity, hm₂, by rw [leastExponent]; omega, .inr hm₁, by rw [greatestExponent]; omega⟩
  refine ⟨n * 2 ^ k, -(k : ℤ), hc, ?_, hvalue, by omega⟩
  refine ofRatio_of_inBasin negative hn Nat.one_pos hc ?_
  rw [Nat.cast_one, div_one, ← hvalue]
  exact .self _ _

/-- A whole number reads back at the place of units. -/
theorem onGrid?_whole (hc : Canonical m e) (hvalue : (m * 2 ^ e : ℚ) = n) :
    ((basin m e).onGrid? 0).isSome = true := by
  obtain ⟨hbelow, habove⟩ := unitsBelow_spec hc 0
  rw [zpow_zero, mul_one, hvalue] at hbelow habove
  have hunits : unitsBelow m e 0 = n := by
    refine le_antisymm (by exact_mod_cast hbelow) (Nat.lt_succ_iff.1 ?_)
    exact_mod_cast habove
  refine onGrid?_isSome hc (.inl ?_)
  rw [hunits, zpow_zero, mul_one, ← hvalue]
  exact .self m e

/-- The first digit of a positive whole number is at the place of units or above. -/
theorem topPlace_nonneg (hc : Canonical m e) (hn : 0 < n) (hvalue : (m * 2 ^ e : ℚ) = n) :
    0 ≤ topPlace m e := by
  by_contra hneg
  have hone : (10 : ℚ) ^ (topPlace m e + 1) ≤ 10 ^ (0 : ℤ) :=
    zpow_le_zpow_right₀ (by norm_num) (by omega)
  have hlow : (1 : ℚ) ≤ n := by exact_mod_cast hn
  have hhigh := (topPlace_spec hc).2
  rw [hvalue] at hhigh
  rw [zpow_zero] at hone
  linarith

/-- In a basin with a last place of one or less, there is one whole number. -/
theorem eq_of_inBasin {k : ℕ} (he : e ≤ 0) (hvalue : (m * 2 ^ e : ℚ) = n) (h : InBasin k m e) :
    k = n := by
  have hunit : (2 : ℚ) ^ e ≤ 1 := zpow_le_one_of_nonpos₀ (by norm_num) he
  have hpos : (0 : ℚ) < 2 ^ e := by positivity
  have hlow := h.low
  have hhigh := h.high
  have hend := sub_half_le_lowEnd m e
  have h₁ : (n : ℚ) < k + 1 := by nlinarith
  have h₂ : (k : ℚ) < n + 1 := by nlinarith
  have h₁' : n < k + 1 := by exact_mod_cast h₁
  have h₂' : k < n + 1 := by exact_mod_cast h₂
  omega

/-- The shortest decimal of a whole number that is a double with a last place of one or less is the
number itself: it is found at the place of units or above. -/
theorem value_shortest_whole (hc : Canonical m e) (he : e ≤ 0) (hn : 0 < n)
    (hvalue : (m * 2 ^ e : ℚ) = n) : (shortest m e).value = n := by
  obtain ⟨k, d, -, hd, hbefore, hshortest⟩ := shortest_eq hc
  obtain ⟨hd, hplace⟩ := inBasin_of_onGrid? hc hd
  obtain ⟨top, htop⟩ := Int.eq_ofNat_of_zero_le (topPlace_nonneg hc hn hvalue)
  have hk : k ≤ top := by
    by_contra hlate
    have hnone := hbefore top (by omega)
    have hsome := onGrid?_whole hc hvalue
    rw [htop, sub_self] at hnone
    rw [hnone] at hsome
    cases hsome
  obtain ⟨p, rfl⟩ := Nat.exists_eq_add_of_le hk
  have hwhole : d.value = (d.digits * 10 ^ p : ℕ) := by
    rw [Decimal.value, hplace, htop, show ((k + p : ℕ) : ℤ) - k = p by omega, zpow_natCast]
    push_cast
    rfl
  rw [hwhole] at hd
  rw [hshortest, hwhole, eq_of_inBasin he hvalue hd]

/-- **A whole number up to the limit is written as it is.** -/
theorem shortest_whole (negative : Bool) (hn : 0 < n) (hle : n ≤ wholeLimit) : ∃ m e,
    Canonical m e ∧ ofRatio negative n 1 = finite negative m e ∧ (shortest m e).value = n := by
  rcases Nat.lt_or_eq_of_le hle with hlt | heq
  · obtain ⟨m, e, hc, hround, hvalue, he⟩ := ofRatio_whole negative hn hlt
    exact ⟨m, e, hc, hround, value_shortest_whole hc he hn hvalue⟩
  · -- the limit itself has a last place of two
    have hc : Canonical (2 ^ 52) 1 := by
      constructor <;> decide
    refine ⟨2 ^ 52, 1, hc, ?_, ?_⟩
    · refine ofRatio_of_inBasin negative hn Nat.one_pos hc ?_
      convert InBasin.self (2 ^ 52) 1 using 1
      rw [heq, wholeLimit]
      norm_num
    · have hdecimal : shortest (2 ^ 52) 1 = ⟨9007199254740992, 0⟩ := by decide +kernel
      rw [hdecimal, heq, wholeLimit, Decimal.value]
      norm_num

end Double

end StageChain
