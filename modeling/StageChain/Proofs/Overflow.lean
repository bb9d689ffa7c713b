import Mathlib.Tactic.Ring
import Mathlib.Tactic.SplitIfs
import StageChain.Proofs.Calls
import StageChain.Proofs.Fields

/-!
# Numbers that are too large

A recipe reports what is wrong with an entry, except for one thing: a bound of an interval that is a
whole number too large for a double.

* `Double.ofInt?_eq_none_iff`: **which whole numbers are too large**: those that are rounded to the
  power of two that no double reaches.
* `Parameters.Fits`: steps that do not fail for that.
* `Op.fields_tooLarge_iff`: the bounds of an interval are the only numbers that do.
* `Recipe.kindName_mem_of_build`: no other error is of a kind that a recipe passes on.
* `Recipe.build_reports_iff`: **what comes of an entry.**
-/

namespace StageChain

namespace Double

variable {num den k : Nat}

/-- Rounding passes an odd number from halfway to the next one on. -/
theorem lt_roundRatio_iff (hden : 0 < den) (hk : k % 2 = 1) :
    k < roundRatio num den ↔ (2 * k + 1) * den ≤ 2 * num := by
  have hnum : num = den * (num / den) + num % den := (Nat.div_add_mod num den).symm
  have hrest : num % den < den := Nat.mod_lt num hden
  generalize hq : num / den = q at hnum
  generalize hr : num % den = r at hnum hrest
  simp only [roundRatio, hq, hr]
  have hexpand : (2 * k + 1) * den = 2 * (den * k) + den := by ring
  obtain hlt | heq | hgt := lt_trichotomy q k
  · -- the quotient is below the number by one or more
    have hbelow : den * (q + 1) ≤ den * k := Nat.mul_le_mul_left den hlt
    rw [Nat.mul_succ] at hbelow
    constructor
    · intro h
      split_ifs at h <;> omega
    · intro h
      omega
  · subst heq
    split_ifs <;> omega
  · have habove : den * (k + 1) ≤ den * q := Nat.mul_le_mul_left den hgt
    rw [Nat.mul_succ] at habove
    constructor
    · intro h
      omega
    · intro h
      split_ifs <;> omega

theorem roundRatio_le (hden : 0 < den) (h : num < k * den) : roundRatio num den ≤ k := by
  have hq : num / den < k := (Nat.div_lt_iff_lt_mul hden).2 h
  unfold roundRatio
  simp only
  split_ifs <;> omega

/-- The exponent of a whole number is that of its highest bit. -/
theorem floorLog2_one {n : Nat} (hn : n ≠ 0) : floorLog2 n 1 = n.log2 := by
  have hle : 2 ^ n.log2 ≤ n := Nat.log2_self_le hn
  simp [floorLog2, scaleRatio, hle, show Nat.log2 1 = 0 from rfl]

/-- A quotient is too large if its exponent is, or if rounding brings it from the greatest exponent
to the next one. -/
theorem ofRatio_infinite_iff {negative : Bool} {e : Int} (hnum : num ≠ 0)
    (he : max (floorLog2 num den - 52) leastExponent = e) :
    (∃ s, ofRatio negative num den = infinite s) ↔ greatestExponent < e ∨ e = greatestExponent ∧
      roundRatio (scaleRatio num den e).1 (scaleRatio num den e).2 = 2 ^ 53 := by
  unfold ofRatio
  rw [if_neg hnum]
  simp only [he]
  have hpow : Nat.pow 2 53 = 2 ^ 53 := rfl
  simp only [hpow]
  by_cases hround : roundRatio (scaleRatio num den e).1 (scaleRatio num den e).2 = 2 ^ 53
  · simp only [hround, if_true, and_true]
    split_ifs with hlarge
    · simp only [infinite.injEq, exists_eq', true_iff]
      omega
    · simp only [exists_false, false_iff]
      omega
  · simp only [hround, if_false, and_false, or_false]
    split_ifs with hlarge
    · simpa using hlarge
    · simpa using hlarge

/-- At the exponent of the greatest doubles, rounding goes to the power of two above them from
halfway on. -/
theorem roundRatio_eq_iff {n p : Nat} (hp : 0 < p) (hn : n < 2 ^ 54 * p) :
    roundRatio n (2 * p) = 2 ^ 53 ↔ 2 ^ 54 * p - p ≤ n := by
  have hle : roundRatio n (2 * p) ≤ 2 ^ 53 := roundRatio_le (by omega) (by omega)
  have hiff : 2 ^ 53 - 1 < roundRatio n (2 * p) ↔ _ := lt_roundRatio_iff (by omega) (by decide)
  omega

/-- The least whole number that is too large for a double: halfway between the greatest double and
the power of two above it. -/
def limit : Nat := 2 ^ 1024 - 2 ^ 970

/-- **Which whole numbers are too large.** -/
theorem ofInt?_eq_none_iff {i : Int} : ofInt? i = none ↔ limit ≤ i.natAbs := by
  have hnone : ofInt? i = none ↔ ∃ s, ofRatio (i < 0) i.natAbs 1 = infinite s := by
    unfold ofInt?
    split
    next s heq => simp [heq]
    next d hd => simpa using hd
  -- all powers here are multiples of the half step at the greatest exponent
  have hpos : 0 < 2 ^ 970 := pow_pos (by decide) 970
  have hstep : 2 ^ 971 = 2 * 2 ^ 970 := by rw [show 971 = 1 + 970 from rfl, pow_add, pow_one]
  have hbelow : 2 ^ 1023 = 2 ^ 53 * 2 ^ 970 := by rw [show 1023 = 53 + 970 from rfl, pow_add]
  have habove : 2 ^ 1024 = 2 ^ 54 * 2 ^ 970 := by rw [show 1024 = 54 + 970 from rfl, pow_add]
  have hlimit : limit = 2 ^ 54 * 2 ^ 970 - 2 ^ 970 := by rw [limit, habove]
  rw [hnone, hlimit]
  generalize 2 ^ 970 = p at *
  generalize i.natAbs = n
  by_cases hn : n = 0
  · subst hn
    simp only [ofRatio_zero, zero, reduceCtorEq, exists_false, false_iff]
    omega
  have hlow : 2 ^ n.log2 ≤ n := Nat.log2_self_le hn
  have hhigh : n < 2 ^ (n.log2 + 1) := Nat.lt_log2_self
  have hexponent : max (floorLog2 n 1 - 52) leastExponent = (n.log2 : Int) - 52 := by
    rw [floorLog2_one hn, leastExponent]
    omega
  rw [ofRatio_infinite_iff hn hexponent, greatestExponent]
  obtain hsmall | heq | hlarge := lt_trichotomy n.log2 1023
  · have hpow : 2 ^ (n.log2 + 1) ≤ 2 ^ 1023 := pow_le_pow_right₀ (by decide) hsmall
    rw [hbelow] at hpow
    -- the exponent stays below the greatest one
    constructor
    · rintro (h | ⟨h, -⟩) <;> omega
    · intro h
      omega
  · rw [heq, show 1023 + 1 = 1024 from rfl, habove] at hhigh
    rw [heq, ← roundRatio_eq_iff hpos hhigh]
    simp [scaleRatio, hstep]
  · have hpow : 2 ^ 1024 ≤ 2 ^ n.log2 := pow_le_pow_right₀ (by decide) hlarge
    rw [habove] at hpow
    constructor
    · intro _
      omega
    · intro _
      omega

end Double

/-! ## Fields -/

namespace Parameters

variable {α β : Type} {x : Except FieldError α} {f : α → Except FieldError β} {v : Value}
  {a : Arguments}

/-- Fails, if at all, not for a number that is too large. -/
def Fits (x : Except FieldError α) : Prop := x ≠ .error (.fault .tooLarge)

theorem Fits.pure (a : α) : Fits (Pure.pure a : Except FieldError α) := nofun

/-- A step that meets other faults alone fits. -/
theorem Fits.of_yields {F : Fault → Prop} {P : α → Prop} (h : Yields F P x)
    (hF : ¬F .tooLarge) : Fits x :=
  fun hx => hF (h.of_fault hx)

/-- After a step that fits, only what follows is too large. -/
theorem Fits.bind_iff (hx : Fits x) : (x >>= f) = .error (.fault .tooLarge) ↔
    ∃ a, x = .ok a ∧ f a = .error (.fault .tooLarge) :=
  Steps.bind_eq_error.trans (or_iff_right hx)

theorem elementField_fits (v : Value) : Fits (elementField v) :=
  .of_yields (F := fun _ => False) (yields_element v) id

theorem valueClass_fits (v : Value) : Fits (valueClass v) :=
  .of_yields (F := fun _ => False) (yields_valueClass v) id

theorem bound_tooLarge_iff : bound v = .error (.fault .tooLarge) ↔
    ∃ i, v = .int i ∧ Double.limit ≤ i.natAbs := by
  cases v with
  | int i =>
    simp only [bound, Value.int.injEq, exists_eq_left', ← Double.ofInt?_eq_none_iff]
    split <;> simp_all
  | _ => simp [bound]

/-- Of two bounds in turn, a number that is too large in either is noticed. -/
theorem bounds_tooLarge_iff {v w : Value} {f : String → String → Except FieldError β}
    (hf : ∀ low high, Fits (f low high)) :
    (bound v >>= fun low => bound w >>= f low) = .error (.fault .tooLarge) ↔
      ∃ i : Int, (v = .int i ∨ w = .int i) ∧ Double.limit ≤ i.natAbs := by
  have hor : (∃ i : Int, (v = .int i ∨ w = .int i) ∧ Double.limit ≤ i.natAbs) ↔
      bound v = .error (.fault .tooLarge) ∨ bound w = .error (.fault .tooLarge) := by
    simp only [bound_tooLarge_iff, or_and_right, exists_or]
  rw [hor, Steps.bind_eq_error]
  simp only [Steps.bind_eq_error]
  constructor
  · rintro (h | ⟨low, -, h | ⟨high, -, h⟩⟩)
    · exact .inl h
    · exact .inr h
    · exact absurd h (hf low high)
  · -- the bound behind is looked at only if the one in front is fine, but both are refused alike
    rintro (h | h)
    · exact .inl h
    · cases hv : bound v with
      | error e => rw [bound_error hv]; exact .inl rfl
      | ok low => exact .inr ⟨low, rfl, .inl h⟩

end Parameters

open Parameters

/-- Bounds of an interval that only their size keeps from being written: numbers both, one of them a
whole number that is too large, and the class of elements is right. -/
structure Arguments.Overflow (a : Arguments) : Prop where
  start : valueClass (a.valueD "start" .null) = .ok .number
  stop : valueClass (a.valueD "end" .null) = .ok .number
  element : ∃ c, elementField (a.valueD "element" .null) = .ok c
  large : ∃ i : Int, (a.valueD "start" .null = .int i ∨ a.valueD "end" .null = .int i) ∧
    Double.limit ≤ i.natAbs

namespace Op

variable {a : Arguments}

theorem intervalFilterFields_tooLarge_iff :
    intervalFilterFields a = .error (.fault .tooLarge) ↔ a.Overflow := by
  unfold intervalFilterFields
  simp only [(valueClass_fits _).bind_iff]
  constructor
  · rintro ⟨c, hstart, c', hstop, h⟩
    split at h
    · cases h
    case isFalse hsame =>
      obtain rfl : c' = c := Decidable.of_not_not hsame
      obtain ⟨element, helement, h⟩ := (elementField_fits _).bind_iff.1 h
      obtain ⟨i, hi, hlarge⟩ := (bounds_tooLarge_iff fun _ _ => .pure _).1 h
      have hnumber : c' = .number := by
        obtain hi | hi := hi
        · rw [hi] at hstart
          exact (Except.ok.inj hstart).symm
        · rw [hi] at hstop
          exact (Except.ok.inj hstop).symm
      subst hnumber
      exact ⟨hstart, hstop, ⟨element, helement⟩, i, hi, hlarge⟩
  · rintro ⟨hstart, hstop, ⟨element, helement⟩, hlarge⟩
    refine ⟨_, hstart, _, hstop, ?_⟩
    rw [if_neg (not_not_intro rfl)]
    exact (elementField_fits _).bind_iff.2
      ⟨element, helement, (bounds_tooLarge_iff fun _ _ => .pure _).2 hlarge⟩

/-- The bounds of an interval are the only numbers that are made doubles. -/
theorem fields_fits {op : Op} (h : op ≠ intervalFilter) : Fits (op.fields a) := by
  refine .of_yields (op.yields_fields a) fun hfault => ?_
  cases hfault
  exact h rfl

theorem fields_tooLarge_iff {op : Op} : op.fields a = .error (.fault .tooLarge) ↔
    op = intervalFilter ∧ a.Overflow := by
  by_cases h : op = intervalFilter
  · subst h
    exact intervalFilterFields_tooLarge_iff.trans (by simp)
  · simp only [h, false_and, iff_false]
    exact fields_fits h

end Op

/-! ## Entries -/

/-- An entry that names the bounds of an interval and overflows. -/
def RecipeEntry.Overflows (e : RecipeEntry) : Prop :=
  e.op = Op.intervalFilter.name ∧
    ∃ a : Arguments, Op.intervalFilter.signature.bind [] e.params = .ok a ∧ a.Overflow

/-- A fault in building comes from the conversion of a parameter. -/
theorem Descriptor.build_fault_iff {e : RecipeEntry} {f : Fault} :
    build (.text e.op) e.params = .error (.fault f) ↔
      ∃ (op : Op) (a : Arguments), e.op = op.name ∧ op.signature.bind [] e.params = .ok a ∧
        op.fields a = .error (.fault f) := by
  constructor
  · intro h
    unfold build at h
    split at h
    · cases h
    · split at h
      · cases h
      · split at h
        · cases h
        case h_2 op hop =>
          rw [ofCall] at h
          split at h
          · cases h
          case h_2 a ha =>
            have hname : e.op = op.name := Option.some.inj (Op.ofValue?_eq_some_iff.1 hop)
            obtain ⟨r, -, hr⟩ | ⟨f, hf, hfault⟩ | ⟨fields, g, -, -, hg⟩ :=
              ofArguments_error_iff.1 h
            · cases hr
            · obtain rfl := BuildError.fault.inj hfault
              exact ⟨op, a, hname, ha, hf⟩
            · cases hg
  · rintro ⟨op, a, hop, ha, hf⟩
    rw [hop, build_of_bind ha, ofArguments_error_iff]
    exact .inr (.inl ⟨f, hf, rfl⟩)

theorem Descriptor.build_tooLarge_iff {e : RecipeEntry} :
    build (.text e.op) e.params = .error (.fault .tooLarge) ↔ e.Overflows := by
  rw [build_fault_iff]
  constructor
  · rintro ⟨op, a, hop, ha, hf⟩
    obtain ⟨rfl, hoverflow⟩ := Op.fields_tooLarge_iff.1 hf
    exact ⟨hop, a, ha, hoverflow⟩
  · rintro ⟨hop, a, ha, hoverflow⟩
    exact ⟨_, a, hop, ha, Op.fields_tooLarge_iff.2 ⟨rfl, hoverflow⟩⟩

namespace Recipe

variable {position : Nat} {e : RecipeEntry}

/-- **No error escapes but that of a number without a double**: the kinds of all others are
reported. -/
theorem kindName_mem_of_build {err : BuildError}
    (h : Descriptor.build (.text e.op) e.params = .error err) (hne : err ≠ .fault .tooLarge) :
    err.kindName ∈ reportedKinds := by
  refine mem_reportedKinds ?_
  rintro f rfl
  obtain ⟨op, a, -, -, hf⟩ := Descriptor.build_fault_iff.1 h
  obtain rfl | ⟨-, hkind⟩ := ((op.yields_fields a).of_fault hf).eq_tooLarge_or
  · exact absurd rfl hne
  · simp [hkind, reportedKinds]

theorem build_tooLarge_iff :
    build position e = .error (.fault .tooLarge) ↔ e.Overflows := by
  rw [← Descriptor.build_tooLarge_iff]
  cases hbuild : Descriptor.build (.text e.op) e.params with
  | ok d => simp [build, hbuild]
  | error err =>
    by_cases hlarge : err = .fault .tooLarge
    · subst hlarge
      simp [build, hbuild, report, reportedKinds, Fault.kindName]
    · simp [build_of_error hbuild (kindName_mem_of_build hbuild hlarge), hlarge]

/-- **What comes of an entry**: a descriptor, or an error of the recipe that says where it is, unless
the bounds of an interval overflow. That error is passed on as it is. -/
theorem build_reports_iff (position : Nat) (e : RecipeEntry) :
    (((∃ d, build position e = .ok d) ∨
      ∃ err, build position e = .error (.recipe (.notBuilt position e.op err))) ↔ ¬e.Overflows) ∧
    (build position e = .error (.fault .tooLarge) ↔ e.Overflows) := by
  have htooLarge : build position e = .error (.fault .tooLarge) ↔ e.Overflows := build_tooLarge_iff
  refine ⟨?_, htooLarge⟩
  rw [← htooLarge]
  cases hbuild : Descriptor.build (.text e.op) e.params with
  | ok d => simp [build, hbuild]
  | error err =>
    by_cases hlarge : err = .fault .tooLarge
    · subst hlarge
      simp [build, hbuild, report, reportedKinds, Fault.kindName]
    · simp [build_of_error hbuild (kindName_mem_of_build hbuild hlarge)]

/-- One followed by 309 zeros is an end that no double reaches, and the error is none of a recipe. -/
theorem build_passes_on :
    build 0 ⟨"interval_filter", [(.text "element", .text "vertex"), (.text "key", .text "age"),
      (.text "start", .int 0), (.text "end", .int (10 ^ 309))]⟩ = .error (.fault .tooLarge) ∧
    (RecipeFailure.fault .tooLarge).kindName = "OverflowError" := by
  have hlarge : Double.limit ≤ (10 ^ 309 : Int).natAbs := by decide +kernel
  exact ⟨build_tooLarge_iff.2 ⟨rfl, _, rfl, rfl, rfl, ⟨_, rfl⟩, _, .inr rfl, hlarge⟩, rfl⟩

end Recipe

end StageChain
