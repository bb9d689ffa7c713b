import StageChain.Proofs.Numerals

/-!
# Whole numbers written as doubles

A whole number may be written as the double next to it. What is written is then a number with the
same double next to it, which is the whole number itself as long as all whole numbers are doubles.

* `ofRat`: **the double next to a number.**
* `ofRat_eq_iff`, `ofRat_between`: the numbers that a double is next to, and that nothing between
  them is missing.
* `written_ofInt?`: **what is written for a whole number.**
* `order_ofInt?`: **whole numbers in order are written in order**, and differently if the doubles
  next to them are different.
-/

namespace StageChain

namespace Double

open Numeral

variable {m : ℕ} {e i j : ℤ} {x y z : ℚ} {negative : Bool} {d d' : Double}

/-! ## The double next to a number -/

/-- The double next to a number. -/
def ofRat (x : ℚ) : Double := ofRatio (x < 0) x.num.natAbs x.den

theorem ofRat_intCast (i : ℤ) : ofRat i = ofRatio (i < 0) i.natAbs 1 := by
  simp [ofRat]

/-- The size of a number is the quotient that is rounded. -/
theorem natAbs_num_div_den (x : ℚ) : (x.num.natAbs : ℚ) / x.den = |x| := by
  conv_rhs => rw [← Rat.num_div_den x, abs_div, Nat.abs_cast]
  rw [Nat.cast_natAbs, Int.cast_abs]

/-- **Which numbers a double is next to**, if it is not zero: those in its basin. -/
theorem ofRat_eq_iff (hm : 0 < m) : ofRat x = finite negative m e ↔
    negative = decide (x < 0) ∧ Canonical m e ∧ InBasin |x| m e := by
  rw [← natAbs_num_div_den]
  constructor
  · intro h
    have hnum : 0 < x.num.natAbs := by
      by_contra hzero
      rw [ofRat, Nat.eq_zero_of_not_pos hzero, ofRatio_zero, zero] at h
      cases h
      exact hm.false
    exact inBasin_of_ofRatio hnum x.den_pos hm h
  · rintro ⟨rfl, hc, hbasin⟩
    have hnum : 0 < x.num.natAbs := by
      have hpos := hbasin.pos hc
      by_contra hzero
      rw [Nat.eq_zero_of_not_pos hzero] at hpos
      simp at hpos
    exact ofRatio_of_inBasin _ hnum x.den_pos hc hbasin

/-- What lies between two numbers that a double is next to has the same one next to it. -/
theorem ofRat_between (hm : 0 < m) (hx : ofRat x = finite negative m e)
    (hz : ofRat z = finite negative m e) (hxy : x ≤ y) (hyz : y ≤ z) :
    ofRat y = finite negative m e := by
  obtain ⟨hsign, hc, hx⟩ := (ofRat_eq_iff hm).1 hx
  obtain ⟨hsign', -, hz⟩ := (ofRat_eq_iff hm).1 hz
  refine (ofRat_eq_iff hm).2 ⟨?_, hc, ?_⟩
  · rw [hsign, decide_eq_decide]
    rw [hsign, decide_eq_decide] at hsign'
    exact ⟨fun hneg => hyz.trans_lt (hsign'.1 hneg), fun hneg => hxy.trans_lt hneg⟩
  · rcases le_or_gt 0 x with hpos | hneg
    · rw [abs_of_nonneg hpos] at hx
      rw [abs_of_nonneg (hpos.trans hxy)]
      rw [abs_of_nonneg (hpos.trans (hxy.trans hyz))] at hz
      exact hx.between hz hxy hyz
    · -- below zero the sizes run the other way
      have hz' : z < 0 := (decide_eq_decide.1 (hsign.symm.trans hsign')).1 hneg
      rw [abs_of_neg hneg] at hx
      rw [abs_of_neg (hyz.trans_lt hz')]
      rw [abs_of_neg hz'] at hz
      exact hz.between hx (neg_le_neg hyz) (neg_le_neg hxy)

/-! ## Whole numbers -/

theorem ofRat_of_ofInt? (h : ofInt? i = some d) : ofRat i = d := by
  rw [ofRat_intCast]
  unfold ofInt? at h
  split at h
  · cases h
  · exact Option.some.inj h

/-- The double next to a whole number other than zero. -/
theorem finite_of_ofInt? (h : ofInt? i = some d) (hi : i ≠ 0) : ∃ m e, 0 < m ∧
    d = finite (i < 0) m e := by
  have hn : 0 < i.natAbs := Int.natAbs_pos.2 hi
  have hround := ofRat_of_ofInt? h
  rw [ofRat_intCast] at hround
  obtain ⟨e, q, hs, hq, hpack⟩ := exists_ofRatio_eq (i < 0) hn Nat.one_pos
  rw [hround] at hpack
  rcases pack_cases (i < 0) q e with hinfinite | ⟨m, e', hfinite, hm⟩
  · -- a number that is too large for a double has no text
    rw [ofInt?, hround, hpack, hinfinite] at h
    cases h
  · exact ⟨m, e', hm (units_pos hn hs hq), hpack.trans hfinite⟩

/-- **What is written for a whole number** as a double: a number that the same double is next to, and
the whole number itself up to the limit. -/
structure Written (i : ℤ) (x : ℚ) : Prop where
  same : ofRat x = ofRat i
  exact : i.natAbs ≤ wholeLimit → x = i

/-- **The text of the double next to a whole number** denotes a number that has the same double next
to it. -/
theorem written_ofInt? (h : ofInt? i = some d) : ∃ x, value? d.text = some x ∧ Written i x := by
  by_cases hi : i = 0
  · subst hi
    obtain rfl : zero false = d := Option.some.inj h
    refine ⟨0, ?_, ⟨by rw [Int.cast_zero], fun _ => by rw [Int.cast_zero]⟩⟩
    rw [zero, value?_text, magnitude, if_pos rfl]
    rfl
  obtain ⟨m, e, hm, rfl⟩ := finite_of_ofInt? h hi
  have hround := ofRat_of_ofInt? h
  have hc := ((ofRat_eq_iff hm).1 hround).2.1
  have hread := inBasin_shortest hc
  have hpos := hread.pos hc
  have hvalue : value? (finite (i < 0) m e).text
      = some (if i < 0 then -(shortest m e).value else (shortest m e).value) := by
    rw [value?_text, magnitude, if_neg hm.ne']
    simp only [decide_eq_true_eq]
  refine ⟨_, hvalue, ?_, fun hle => ?_⟩
  · rw [hround, ofRat_eq_iff hm]
    split_ifs with hneg
    · rw [abs_neg, abs_of_pos hpos]
      exact ⟨by simp [hneg, hpos], hc, hread⟩
    · rw [abs_of_pos hpos]
      exact ⟨by simp [hneg, hpos.le], hc, hread⟩
  · obtain ⟨m', e', -, hwhole, hshortest⟩ :=
      shortest_whole (i < 0) (Int.natAbs_pos.2 hi) hle
    rw [← ofRat_intCast, hround] at hwhole
    cases hwhole
    rw [hshortest, Nat.cast_natAbs, Int.cast_abs]
    split_ifs with hneg
    · rw [abs_of_neg (by exact_mod_cast hneg), neg_neg]
    · exact abs_of_nonneg (by exact_mod_cast not_lt.1 hneg)

theorem Written.of_text (h : ofInt? i = some d) (hx : value? d.text = some x) : Written i x := by
  obtain ⟨x', hx', hwritten⟩ := written_ofInt? h
  obtain rfl := Option.some.inj (hx.symm.trans hx')
  exact hwritten

/-- What lies between a whole number and what is written for it has the same double next to it. -/
theorem Written.between (hwritten : Written i x) (h : ofInt? i = some d)
    (hy : (i ≤ y ∧ y ≤ x) ∨ (x ≤ y ∧ y ≤ i)) : ofRat y = ofRat i := by
  by_cases hi : i = 0
  · have hx : x = i := hwritten.exact (by rw [hi]; exact Nat.zero_le _)
    rw [hx] at hy
    obtain rfl : y = i := hy.elim (fun h => le_antisymm h.2 h.1) fun h => le_antisymm h.2 h.1
    rfl
  · obtain ⟨m, e, hm, rfl⟩ := finite_of_ofInt? h hi
    have hround := ofRat_of_ofInt? h
    have hread := hwritten.same.trans hround
    rw [hround]
    exact hy.elim (fun h => ofRat_between hm hround hread h.1 h.2) fun h =>
      ofRat_between hm hread hround h.1 h.2

/-- **Whole numbers in order are written in order**, and differently if the doubles next to them are
different. -/
theorem order_ofInt? (hi : ofInt? i = some d) (hj : ofInt? j = some d')
    (hx : value? d.text = some x) (hy : value? d'.text = some y) (hij : i < j) :
    x ≤ y ∧ (x < y ↔ ofRat i ≠ ofRat j) := by
  have hxi := Written.of_text hi hx
  have hyj := Written.of_text hj hy
  have hsame : ofRat i = ofRat j → x = y := by
    intro h
    rw [ofRat_of_ofInt? hi, ofRat_of_ofInt? hj] at h
    rw [h, hy] at hx
    exact (Option.some.inj hx).symm
  have hcast : (i : ℚ) < j := by exact_mod_cast hij
  have hle : x ≤ y := by
    by_contra hlt
    rw [not_le] at hlt
    -- in the wrong order, one of the numbers lies between the other one and what is written for it
    refine hlt.ne' (hsame ?_)
    rcases le_or_gt (j : ℚ) x with hjx | hxj
    · exact (hxi.between hi (.inl ⟨hcast.le, hjx⟩)).symm
    · exact hxi.same.symm.trans (hyj.between hj (.inr ⟨hlt.le, hxj.le⟩))
  refine ⟨hle, fun hlt heq => hlt.ne (hsame heq), fun hne => lt_of_le_of_ne hle ?_⟩
  rintro rfl
  exact hne (hxi.same.symm.trans hyj.same)

/-- No text of a double has a comma in it. -/
theorem comma_not_mem_text (d : Double) : ',' ∉ d.text.toList := by
  cases d with
  | nan => decide
  | infinite negative => cases negative <;> decide
  | finite negative m e => exact comma_not_mem (value?_text negative m e)

end Double

end StageChain
