import Mathlib.Data.List.TakeWhile
import StageChain.Proofs.Shortest

/-!
# What numerals denote

A numeral is read without regard to who wrote it: a sign, digits, a point among the digits, and a
power of ten behind an `e`. The reader gives the exact number, not the double next to it.

* `value?`: **the number that a text denotes**, if it is a numeral.
* `value?_int`: a whole number in digits denotes itself.
* `unsigned?_text`: a decimal denotes its number, in full and with an exponent.
* `value?_text`: **what the text of a double denotes**: its shortest decimal, with its sign.
* `comma_not_mem`: no numeral has a comma in it.
-/

namespace StageChain

namespace Numeral

variable {cs ds es : List Char} {n k : ℕ} {p : ℤ} {x : ℚ}

/-! ## Reading a numeral -/

/-- The number in digits, of which there is at least one. -/
def natural? (cs : List Char) : Option ℕ :=
  if !cs.isEmpty && cs.all Char.isDigit then some (Nat.ofDigitChars 10 cs 0) else none

/-- What is read behind a sign, with the sign. -/
def signed? {α : Type} [Neg α] (read? : List Char → Option α) : List Char → Option α
  | '-' :: cs => (read? cs).map (- ·)
  | '+' :: cs => read? cs
  | cs => read? cs

/-- A whole number. -/
def integer? : List Char → Option ℤ := signed? fun cs => (natural? cs).map Nat.cast

/-- What stands before a mark, and what stands behind it if it is there. -/
def cut (mark : Char) (cs : List Char) : List Char × Option (List Char) :=
  (cs.takeWhile (· != mark), (cs.dropWhile (· != mark)).tail?)

/-- Digits with a point among them, times a power of ten. Each digit behind the point divides by
ten. -/
def unsigned? (cs : List Char) : Option ℚ := do
  let (decimal, power) := cut 'e' cs
  let (whole, places) := cut '.' decimal
  let n ← natural? (whole ++ places.getD [])
  let p ← integer? (power.getD ['0'])
  return n * 10 ^ (p - (places.getD []).length)

/-- **The number that a text denotes**, if it is a numeral. -/
def value? (s : String) : Option ℚ := signed? unsigned? s.toList

/-! ## Digits -/

theorem natural?_eq_some : natural? cs = some n ↔
    (cs ≠ [] ∧ ∀ c ∈ cs, c.isDigit = true) ∧ Nat.ofDigitChars 10 cs 0 = n := by
  have htest : (!cs.isEmpty && cs.all Char.isDigit) = true ↔
      cs ≠ [] ∧ ∀ c ∈ cs, c.isDigit = true := by
    simp
  unfold natural?
  rw [← htest]
  split_ifs with h
  · rw [Option.some.injEq]
    exact (and_iff_right h).symm
  · constructor
    · intro hn
      cases hn
    · intro hn
      exact absurd hn.1 h

theorem natural?_toDigits (n : ℕ) : natural? (Nat.toDigits 10 n) = some n :=
  natural?_eq_some.2
    ⟨⟨Nat.toDigits_ne_nil, fun _ => Nat.isDigit_of_mem_toDigits (by decide) le_rfl⟩,
      Nat.ofDigitChars_ten_toDigits⟩

/-- Zeros before a number do not count. -/
theorem natural?_zeros_append (k : ℕ) (h : natural? cs = some n) :
    natural? (List.replicate k '0' ++ cs) = some n := by
  obtain ⟨⟨hne, hdigits⟩, hn⟩ := natural?_eq_some.1 h
  refine natural?_eq_some.2 ⟨⟨by simp [hne], fun c hc => ?_⟩, ?_⟩
  · rcases List.mem_append.1 hc with hzero | hmem
    · obtain rfl := List.eq_of_mem_replicate hzero
      rfl
    · exact hdigits c hmem
  · rw [Nat.ofDigitChars_append, Nat.ofDigitChars_replicate_zero, Nat.mul_zero, hn]

/-- Zeros behind a number multiply it. -/
theorem natural?_append_zeros (k : ℕ) (h : natural? cs = some n) :
    natural? (cs ++ List.replicate k '0') = some (10 ^ k * n) := by
  obtain ⟨⟨hne, hdigits⟩, hn⟩ := natural?_eq_some.1 h
  refine natural?_eq_some.2 ⟨⟨by simp [hne], fun c hc => ?_⟩, ?_⟩
  · rcases List.mem_append.1 hc with hmem | hzero
    · exact hdigits c hmem
    · obtain rfl := List.eq_of_mem_replicate hzero
      rfl
  · rw [Nat.ofDigitChars_append, Nat.ofDigitChars_replicate_zero, hn]

/-- A mark that is no digit is not among digits. -/
theorem not_mem_of_natural? {mark : Char} (h : natural? cs = some n)
    (hmark : mark.isDigit = false) : mark ∉ cs := by
  intro hmem
  rw [(natural?_eq_some.1 h).1.2 mark hmem] at hmark
  cases hmark

/-- What needs no sign is read without one. -/
theorem signed?_of_not_mem {α : Type} [Neg α] {read? : List Char → Option α}
    (hminus : ∀ es, cs ≠ '-' :: es) (hplus : ∀ es, cs ≠ '+' :: es) :
    signed? read? cs = read? cs := by
  unfold signed?
  split
  · exact absurd rfl (hminus _)
  · exact absurd rfl (hplus _)
  · rfl

theorem integer?_natural (h : natural? cs = some n) : integer? cs = some (n : ℤ) := by
  have hsign {sign : Char} (hmark : sign.isDigit = false) (es : List Char) : cs ≠ sign :: es :=
    fun hcs => not_mem_of_natural? h hmark (hcs ▸ List.mem_cons_self)
  rw [integer?, signed?_of_not_mem (hsign rfl) (hsign rfl), h]
  rfl

/-- An exponent with its sign denotes itself, whatever zeros stand before it. -/
theorem integer?_power (k : ℕ) (p : ℤ) : integer? ((if p < 0 then '-' else '+') ::
    (List.replicate k '0' ++ Nat.toDigits 10 p.natAbs)) = some p := by
  have hdigits := natural?_zeros_append k (natural?_toDigits p.natAbs)
  split_ifs with hneg
  · rw [integer?, signed?, hdigits, Option.map_some, Option.map_some, Option.some.injEq]
    omega
  · rw [integer?, signed?, hdigits, Option.map_some, Option.some.injEq]
    omega

/-! ## Marks -/

theorem ne_mark_of_not_mem {mark : Char} (h : mark ∉ cs) : ∀ c ∈ cs, (c != mark) = true :=
  fun c hc => by simpa using ne_of_mem_of_not_mem hc h

theorem cut_of_mem (mark : Char) (es : List Char) (h : mark ∉ cs) :
    cut mark (cs ++ mark :: es) = (cs, some es) := by
  have hbefore := ne_mark_of_not_mem h
  rw [cut, List.takeWhile_append_of_pos hbefore, List.dropWhile_append_of_pos hbefore]
  simp

theorem cut_of_not_mem {mark : Char} (h : mark ∉ cs) : cut mark cs = (cs, none) := by
  have hbefore := ne_mark_of_not_mem h
  rw [cut, List.takeWhile_eq_self_iff.2 hbefore, List.dropWhile_eq_nil_iff.2 hbefore]
  rfl

/-- Digits with a point among them, or without one: the number that they make together, and how
many of them stand behind the point. -/
def Pointed (cs : List Char) (n k : ℕ) : Prop :=
  ∃ whole places, natural? (whole ++ places) = some n ∧ places.length = k ∧
    (cs = whole ++ '.' :: places ∨ cs = whole ∧ places = [])

theorem Pointed.cut_point (h : Pointed cs n k) : ∃ whole places, cut '.' cs = (whole, places) ∧
    natural? (whole ++ places.getD []) = some n ∧ (places.getD []).length = k := by
  obtain ⟨whole, places, hn, hk, rfl | ⟨rfl, rfl⟩⟩ := h
  · have hpoint : '.' ∉ whole ++ places := not_mem_of_natural? hn rfl
    exact ⟨whole, some places, cut_of_mem _ _ fun hw => hpoint (List.mem_append_left _ hw), hn, hk⟩
  · rw [List.append_nil] at hn
    refine ⟨cs, none, cut_of_not_mem (not_mem_of_natural? hn rfl), ?_, hk⟩
    rwa [Option.getD_none, List.append_nil]

theorem Pointed.not_mem {mark : Char} (h : Pointed cs n k) (hmark : mark.isDigit = false)
    (hpoint : mark ≠ '.') : mark ∉ cs := by
  obtain ⟨whole, places, hn, -, rfl | ⟨rfl, rfl⟩⟩ := h
  · have hdigits := not_mem_of_natural? hn hmark
    simpa [hpoint] using hdigits
  · rw [List.append_nil] at hn
    exact not_mem_of_natural? hn hmark

/-- Digits behind the point divide. -/
theorem unsigned?_pointed (h : Pointed cs n k) :
    unsigned? cs = some ((n : ℚ) * 10 ^ (-(k : ℤ))) := by
  obtain ⟨whole, places, hcut, hn, hk⟩ := h.cut_point
  have hzero : integer? ['0'] = some 0 := integer?_natural (natural?_toDigits 0)
  rw [unsigned?, cut_of_not_mem (h.not_mem rfl (by decide))]
  simp only [hcut, hn, hk, Option.getD_none, hzero, Option.bind_eq_bind, Option.bind_some, zero_sub]
  rfl

/-- A power of ten behind digits multiplies. -/
theorem unsigned?_power (h : Pointed cs n k) (hp : integer? es = some p) :
    unsigned? (cs ++ 'e' :: es) = some ((n : ℚ) * 10 ^ (p - k)) := by
  obtain ⟨whole, places, hcut, hn, hk⟩ := h.cut_point
  rw [unsigned?, cut_of_mem _ _ (h.not_mem rfl (by decide))]
  simp only [hcut, hn, hk, Option.getD_some, hp, Option.bind_eq_bind, Option.bind_some]
  rfl

/-! ## Decimals -/

open Double

/-- A decimal in full denotes its number. -/
theorem unsigned?_full (d : Decimal) : unsigned? d.full.toList = some d.value := by
  have hdigits := natural?_toDigits d.digits
  unfold Decimal.full
  simp only
  split_ifs with hexponent
  · obtain ⟨k, hk⟩ := Int.eq_ofNat_of_zero_le hexponent
    rw [hk, Int.toNat_natCast, String.toList_ofList]
    have hpointed : Pointed (Nat.toDigits 10 d.digits ++ List.replicate k '0' ++ ['.', '0'])
        (10 ^ (k + 1) * d.digits) 1 := by
      refine ⟨_, ['0'], ?_, rfl, .inl rfl⟩
      rw [List.append_assoc, ← List.replicate_succ']
      exact natural?_append_zeros _ hdigits
    rw [unsigned?_pointed hpointed, Decimal.value, hk]
    push_cast
    rw [zpow_neg_one, zpow_natCast]
    ring_nf
  · obtain ⟨k, hk⟩ := Int.eq_ofNat_of_zero_le (show 0 ≤ -d.exponent by omega)
    rw [hk, Int.toNat_natCast, String.toList_ofList]
    generalize hpadded : List.replicate (k + 1 - (Nat.toDigits 10 d.digits).length) '0'
      ++ Nat.toDigits 10 d.digits = padded
    have hlength : k < padded.length := by
      rw [← hpadded, List.length_append, List.length_replicate]
      omega
    have hpointed : Pointed (padded.take (padded.length - k)
        ++ '.' :: padded.drop (padded.length - k)) d.digits k := by
      refine ⟨_, _, ?_, ?_, .inl rfl⟩
      · rw [List.take_append_drop, ← hpadded]
        exact natural?_zeros_append _ hdigits
      · rw [List.length_drop]
        omega
    rw [unsigned?_pointed hpointed, Decimal.value, show d.exponent = -(k : ℤ) by omega]

/-- A decimal with an exponent denotes its number. -/
theorem unsigned?_scientific (d : Decimal) : unsigned? d.scientific.toList = some d.value := by
  have hdigits := natural?_toDigits d.digits
  have hlength : 0 < (Nat.toDigits 10 d.digits).length :=
    List.length_pos_iff.2 Nat.toDigits_ne_nil
  unfold Decimal.scientific
  simp only
  rw [String.toList_ofList]
  generalize Nat.toDigits 10 d.digits = ds at hdigits hlength ⊢
  have hpointed : Pointed (ds.take 1 ++ if ds.length ≤ 1 then [] else '.' :: ds.drop 1) d.digits
      (ds.length - 1) := by
    refine ⟨ds.take 1, ds.drop 1, by rwa [List.take_append_drop], List.length_drop, ?_⟩
    split_ifs with hshort
    · exact .inr ⟨List.append_nil _, List.drop_eq_nil_of_le hshort⟩
    · exact .inl rfl
  rw [List.append_assoc, List.cons_append, List.cons_append,
    unsigned?_power hpointed (integer?_power _ (d.exponent + (ds.length - 1))), Decimal.value,
    show d.exponent + (ds.length - 1) - (ds.length - 1 : ℕ) = d.exponent by omega]

theorem unsigned?_text (d : Decimal) : unsigned? d.text.toList = some d.value := by
  unfold Decimal.text
  simp only
  split_ifs
  · exact unsigned?_full d
  · exact unsigned?_scientific d

/-! ## What numerals look like -/

theorem eq_of_cut {mark : Char} {rest : Option (List Char)} (h : cut mark cs = (ds, rest)) :
    cs = ds ++ rest.elim [] (mark :: ·) := by
  obtain ⟨hbefore, hrest⟩ := Prod.mk.inj h
  rw [← hrest, ← hbefore]
  have hmark := List.head?_dropWhile_not (· != mark) cs
  conv_lhs => rw [← List.takeWhile_append_dropWhile (p := (· != mark)) (l := cs)]
  cases hdrop : cs.dropWhile (· != mark) with
  | nil => rfl
  | cons c es =>
    rw [hdrop] at hmark
    obtain rfl : c = mark := by simpa using hmark
    rfl

/-- A numeral without a sign is digits with a point, and perhaps a power behind them. -/
theorem exists_of_unsigned? (h : unsigned? cs = some x) : ∃ ds n k, Pointed ds n k ∧
    (cs = ds ∨ ∃ es p, integer? es = some p ∧ cs = ds ++ 'e' :: es) := by
  unfold unsigned? at h
  cases hpower : cut 'e' cs with | mk ds power
  cases hpoint : cut '.' ds with | mk whole places
  rw [hpower] at h
  simp only [hpoint] at h
  obtain ⟨n, hn, h⟩ := Option.bind_eq_some_iff.1 h
  obtain ⟨p, hp, -⟩ := Option.bind_eq_some_iff.1 h
  have hcs := eq_of_cut hpower
  have hds := eq_of_cut hpoint
  have hpointed : Pointed ds n (places.getD []).length := by
    refine ⟨whole, places.getD [], hn, rfl, ?_⟩
    cases places with
    | none => exact .inr ⟨hds.trans (List.append_nil _), rfl⟩
    | some places => exact .inl hds
  refine ⟨ds, n, _, hpointed, ?_⟩
  cases power with
  | none => exact .inl (hcs.trans (List.append_nil _))
  | some es => exact .inr ⟨es, p, hp, hcs⟩

/-- It does not begin with a sign. -/
theorem ne_sign_of_unsigned? {sign : Char} (h : unsigned? cs = some x)
    (hdigit : sign.isDigit = false) (hpoint : sign ≠ '.') (es : List Char) : cs ≠ sign :: es := by
  rintro rfl
  obtain ⟨ds, n, k, hds, hcs⟩ := exists_of_unsigned? h
  have hnot := hds.not_mem hdigit hpoint
  cases ds with
  | nil =>
    obtain ⟨whole, places, hn, -, hnil | ⟨hnil, rfl⟩⟩ := hds
    · simp at hnil
    · rw [← hnil] at hn
      cases hn
  | cons d ds =>
    refine hnot ?_
    obtain hcs | ⟨es', p, -, hcs⟩ := hcs <;> cases hcs <;> exact List.mem_cons_self

theorem comma_not_mem_of_signed? {α : Type} [Neg α] {read? : List Char → Option α} {y : α}
    (hread : ∀ es z, read? es = some z → ',' ∉ es) (h : signed? read? cs = some y) :
    ',' ∉ cs := by
  unfold signed? at h
  split at h
  · obtain ⟨z, hz, -⟩ := Option.map_eq_some_iff.1 h
    simpa using hread _ z hz
  · simpa using hread _ y h
  · exact hread _ y h

/-- No numeral has a comma in it. -/
theorem comma_not_mem {s : String} (h : value? s = some x) : ',' ∉ s.toList := by
  refine comma_not_mem_of_signed? (fun cs z hz => ?_) h
  obtain ⟨ds, n, k, hds, hcs⟩ := exists_of_unsigned? hz
  have hbefore : ',' ∉ ds := hds.not_mem rfl (by decide)
  obtain rfl | ⟨es, p, hp, rfl⟩ := hcs
  · exact hbefore
  · have hbehind : ',' ∉ es := by
      refine comma_not_mem_of_signed? (fun es z hz => ?_) hp
      obtain ⟨n, hn, -⟩ := Option.map_eq_some_iff.1 hz
      exact not_mem_of_natural? hn rfl
    simp [hbefore, hbehind]

theorem value?_of_unsigned? {s : String} (h : unsigned? s.toList = some x) : value? s = some x := by
  rw [value?, signed?_of_not_mem (ne_sign_of_unsigned? h rfl (by decide))
    (ne_sign_of_unsigned? h rfl (by decide)), h]

theorem value?_neg {s : String} (h : unsigned? s.toList = some x) :
    value? ("-" ++ s) = some (-x) := by
  have hsign : ("-" ++ s).toList = '-' :: s.toList := by simp
  rw [value?, hsign, signed?, h]
  rfl

/-- A whole number in digits denotes itself. -/
theorem value?_int (i : ℤ) : value? (toString i) = some (i : ℚ) := by
  have hdigits (n : ℕ) : unsigned? n.repr.toList = some (n : ℚ) := by
    have hpointed : Pointed n.repr.toList n 0 := by
      refine ⟨_, [], ?_, rfl, .inr ⟨rfl, rfl⟩⟩
      rw [Nat.toList_repr, List.append_nil]
      exact natural?_toDigits n
    simpa using unsigned?_pointed hpointed
  rw [Int.toString_eq_repr, Int.repr_eq_if]
  split_ifs with hi
  · rw [value?_of_unsigned? (hdigits _)]
    congr 1
    exact_mod_cast Int.toNat_of_nonneg hi
  · rw [value?_neg (hdigits _)]
    congr 1
    have : (((-i).toNat : ℤ) : ℚ) = ((-i : ℤ) : ℚ) := congrArg _ (Int.toNat_of_nonneg (by omega))
    push_cast at this
    linarith

/-- What the text of a finite number denotes, without its sign. -/
def magnitude (m : ℕ) (e : ℤ) : ℚ := if m = 0 then 0 else (shortest m e).value

/-- **What the text of a finite number denotes**: its shortest decimal, with its sign. -/
theorem value?_text (negative : Bool) (m : ℕ) (e : ℤ) :
    value? (text (finite negative m e))
      = some (if negative then -magnitude m e else magnitude m e) := by
  have hbody : unsigned? (if m = 0 then "0.0" else (shortest m e).text).toList
      = some (magnitude m e) := by
    unfold magnitude
    split_ifs with hm
    · have hzero : (⟨0, 0⟩ : Decimal).full = "0.0" := rfl
      rw [← hzero, unsigned?_full, Decimal.value, Nat.cast_zero, zero_mul]
    · exact unsigned?_text _
  cases negative with
  | false => exact value?_of_unsigned? hbody
  | true => exact value?_neg hbody

end Numeral

end StageChain
