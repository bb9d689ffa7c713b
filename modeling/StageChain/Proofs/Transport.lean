import StageChain.Proofs.Encoding
import StageChain.Proofs.Joining
import StageChain.Proofs.Nearest

/-!
# Whole numbers in configurations

Whole numbers among the arguments of a call reach a stage as texts in its configuration, in a field
of their own or between the commas of a list. Digits are written for all of them but the bounds of an
interval, for which the doubles next to them are written.

* `number?`, `numbers`: **what the fields of a configuration denote.**
* `numbers_getElem?`: texts without commas arrive one by one.
* `vertexMap_numbers`, `propertyFilter_numbers`, `backFilter_number`, `link_number`: the numbers that
  arrive as they are.
* `number?_bound`: a bound arrives as a number that its double is next to.
* `integers_transported`: **what becomes of the whole numbers in a call.**
-/

namespace StageChain

open Numeral Parameters

namespace Descriptor

variable {a : Arguments} {d : Descriptor} {field : String} {fields : List (String × Value)}
  {op : Op} {i : ℤ} {k : ℕ} {s : String} {L : List String} {v : Value} {vs : List Value}

/-! ## Fields that denote numbers -/

/-- The text in a field of the configuration. -/
def field? (d : Descriptor) (field : String) : Option String :=
  Plan.textIn? d.config (d.op.configKey field)

/-- The number that a field denotes. -/
def number? (d : Descriptor) (field : String) : Option ℚ := (d.field? field).bind value?

/-- What the texts between the commas of a field denote. -/
def numbers (d : Descriptor) (field : String) : List (Option ℚ) :=
  (d.field? field).elim [] fun s => (Text.between s).map value?

theorem field?_ofFields (hnodup : (fields.map Prod.fst).Nodup) (h : (field, .text s) ∈ fields) :
    (ofFields op fields).field? field = some s := by
  rw [field?, Plan.textIn?, show (ofFields op fields).op = op from rfl, get?_ofFields hnodup h rfl]

theorem number?_eq (h : d.field? field = some s) : d.number? field = value? s := by
  rw [number?, h, Option.bind_some]

/-- **Texts without commas arrive one by one.** -/
theorem numbers_getElem? (h : d.field? field = some (",".intercalate L))
    (hL : ∀ s ∈ L, ',' ∉ s.toList) (hk : L[k]? = some s) :
    (d.numbers field)[k]? = some (value? s) := by
  have hne : L ≠ [] := by
    rintro rfl
    cases hk
  rw [numbers, h, Option.elim_some, Text.between_intercalate, Text.pieces_eq_self hne hL,
    List.getElem?_map, hk, Option.map_some]

/-! ## Lists of numbers -/

/-- Numbers of vertices are whole numbers in digits. -/
theorem vertexIds_ok (h : vertexIds vs = .ok L) :
    ∃ is : List ℤ, vs = is.map .int ∧ L = is.map toString := by
  induction vs generalizing L with
  | nil =>
    obtain rfl : [] = L := Except.ok.inj h
    exact ⟨[], rfl, rfl⟩
  | cons v vs ih =>
    cases v with
    | int i =>
      obtain ⟨L', hL', h⟩ := Steps.bind_eq_ok.1 h
      obtain rfl : toString i :: L' = L := Except.ok.inj h
      obtain ⟨is, rfl, rfl⟩ := ih hL'
      exact ⟨i :: is, rfl, rfl⟩
    | _ => cases h

theorem vertexMap_numbers (h : ofArguments .vertexMap a = .ok d)
    (hk : (members (a.valueD "ids" .null))[k]? = some (.int i)) :
    (d.numbers "ids")[k]? = some (some (i : ℚ)) := by
  obtain ⟨fields, hfields, -, rfl⟩ := ofArguments_ok_iff.1 h
  have hnodup := Op.nodup_fields hfields
  obtain ⟨L, hids, hfields⟩ := Steps.bind_eq_ok.1 hfields
  obtain rfl := Except.ok.inj hfields
  obtain ⟨is, hvalues, rfl⟩ := vertexIds_ok hids
  have hfield : (ofFields .vertexMap [("ids", commas (is.map toString))]).field? "ids"
      = some (",".intercalate (is.map toString)) :=
    field?_ofFields hnodup List.mem_cons_self
  rw [hvalues, List.getElem?_map] at hk
  obtain ⟨i', hi', hint⟩ := Option.map_eq_some_iff.1 hk
  obtain rfl : i' = i := Value.int.inj hint
  rw [← value?_int]
  refine numbers_getElem? hfield (fun s hs => ?_) (by rw [List.getElem?_map, hi', Option.map_some])
  obtain ⟨j, -, rfl⟩ := List.mem_map.1 hs
  exact comma_not_mem (value?_int j)

/-- Values that are compared are of one class. -/
theorem checkClasses_ok {c : ValueClass} (h : checkClasses c vs = .ok ()) :
    ∀ v ∈ vs, valueClass v = .ok c := by
  induction vs with
  | nil => simp
  | cons v vs ih =>
    obtain ⟨c', hclass, h⟩ := Steps.bind_eq_ok.1 h
    split at h
    next hsame =>
      subst hsame
      exact List.forall_mem_cons.2 ⟨hclass, ih h⟩
    next => cases h

/-- No number that is compared with has a comma in its text. -/
theorem comma_not_mem_comparand (h : valueClass v = .ok .number) : ',' ∉ (comparand v).toList := by
  cases v with
  | int i => exact comma_not_mem (value?_int i)
  | float c => exact Double.comma_not_mem_text c
  | _ => cases h

theorem propertyFilter_numbers (h : ofArguments .propertyFilter a = .ok d)
    (hk : (members (a.valueD "values" .null))[k]? = some (.int i)) :
    (d.numbers "values")[k]? = some (some (i : ℚ)) := by
  obtain ⟨fields, hfields, -, rfl⟩ := ofArguments_ok_iff.1 h
  have hnodup := Op.nodup_fields hfields
  replace hfields : Op.propertyFilterFields a = .ok fields := hfields
  unfold Op.propertyFilterFields at hfields
  generalize members (a.valueD "values" .null) = values at hk hfields
  cases values with
  | nil => cases hk
  | cons first rest =>
    obtain ⟨c, hfirst, hfields⟩ := Steps.bind_eq_ok.1 hfields
    obtain ⟨u, hrest, hfields⟩ := Steps.bind_eq_ok.1 hfields
    obtain ⟨comparison, -, hfields⟩ := Steps.bind_eq_ok.1 hfields
    obtain ⟨element, -, hfields⟩ := Steps.bind_eq_ok.1 hfields
    obtain rfl := Except.ok.inj hfields
    have hclasses : ∀ v ∈ first :: rest, valueClass v = .ok c :=
      List.forall_mem_cons.2 ⟨hfirst, checkClasses_ok hrest⟩
    -- a whole number among the values makes all of them numbers
    obtain rfl : .number = c := Except.ok.inj (hclasses _ (List.mem_of_getElem? hk))
    rw [← value?_int]
    refine numbers_getElem? (L := (first :: rest).map comparand) (field?_ofFields hnodup ?_) ?_ ?_
    · simp [commas]
    · intro s hs
      obtain ⟨v, hv, rfl⟩ := List.mem_map.1 hs
      exact comma_not_mem_comparand (hclasses v hv)
    · rw [List.getElem?_map, hk]
      rfl

/-! ## Single numbers -/

/-- A number of steps arrives as it is. -/
theorem number?_step {c : Value} (hstep : stepField (.int i) = .ok c)
    (hnodup : (fields.map Prod.fst).Nodup) (h : ("step", c) ∈ fields) :
    (ofFields op fields).number? "step" = some (i : ℚ) := by
  rw [stepField] at hstep
  split_ifs at hstep
  obtain rfl := Except.ok.inj hstep
  rw [number?_eq (field?_ofFields hnodup h), value?_int]

theorem backFilter_number (h : ofArguments .backFilter a = .ok d)
    (hi : a.valueD "step" .null = .int i) : d.number? "step" = some (i : ℚ) := by
  obtain ⟨fields, hfields, -, rfl⟩ := ofArguments_ok_iff.1 h
  have hnodup := Op.nodup_fields hfields
  replace hfields : Op.backFilterFields a = .ok fields := hfields
  unfold Op.backFilterFields at hfields
  rw [hi] at hfields
  obtain ⟨step, hstep, hfields⟩ := Steps.bind_eq_ok.1 hfields
  obtain ⟨element, -, hfields⟩ := Steps.bind_eq_ok.1 hfields
  obtain rfl := Except.ok.inj hfields
  exact number?_step hstep hnodup (by simp)

theorem link_number (h : ofArguments .link a = .ok d) (hi : a.valueD "step" .null = .int i) :
    d.number? "step" = some (i : ℚ) := by
  obtain ⟨fields, hfields, -, rfl⟩ := ofArguments_ok_iff.1 h
  have hnodup := Op.nodup_fields hfields
  replace hfields : Op.linkFields a = .ok fields := hfields
  unfold Op.linkFields at hfields
  rw [hi] at hfields
  obtain ⟨step, hstep, hfields⟩ := Steps.bind_eq_ok.1 hfields
  obtain ⟨label, -, hfields⟩ := Steps.bind_eq_ok.1 hfields
  obtain ⟨direction, -, hfields⟩ := Steps.bind_eq_ok.1 hfields
  obtain rfl := Except.ok.inj hfields
  exact number?_step hstep hnodup (by simp)

/-! ## Bounds -/

/-- A bound that is a whole number is written as the double next to it. -/
theorem bound_int : bound (.int i) = .ok s ↔ ∃ c, Double.ofInt? i = some c ∧ s = c.text := by
  rw [bound]
  cases Double.ofInt? i <;> simp [eq_comm]

/-- The bounds of an interval are in fields of their own. -/
theorem intervalFilter_fields (h : ofArguments .intervalFilter a = .ok d) : ∃ low high,
    bound (a.valueD "start" .null) = .ok low ∧ bound (a.valueD "end" .null) = .ok high ∧
    d.field? "startValue" = some low ∧ d.field? "endValue" = some high := by
  obtain ⟨fields, hfields, -, rfl⟩ := ofArguments_ok_iff.1 h
  have hnodup := Op.nodup_fields hfields
  replace hfields : Op.intervalFilterFields a = .ok fields := hfields
  unfold Op.intervalFilterFields at hfields
  obtain ⟨c, -, hfields⟩ := Steps.bind_eq_ok.1 hfields
  obtain ⟨c₂, -, hfields⟩ := Steps.bind_eq_ok.1 hfields
  simp only at hfields
  split at hfields
  next =>
    obtain ⟨u, hmixed, -⟩ := Steps.bind_eq_ok.1 hfields
    cases hmixed
  obtain ⟨element, -, hfields⟩ := Steps.bind_eq_ok.1 hfields
  obtain ⟨low, hlow, hfields⟩ := Steps.bind_eq_ok.1 hfields
  obtain ⟨high, hhigh, hfields⟩ := Steps.bind_eq_ok.1 hfields
  obtain rfl := Except.ok.inj hfields
  exact ⟨low, high, hlow, hhigh, field?_ofFields hnodup (by simp), field?_ofFields hnodup (by simp)⟩

/-- A whole number as a bound is a number that its double is next to. -/
theorem number?_bound (hbound : bound (.int i) = .ok s) (h : d.field? field = some s) :
    ∃ x, d.number? field = some x ∧ Double.Written i x := by
  obtain ⟨c, hc, rfl⟩ := bound_int.1 hbound
  obtain ⟨x, hx, hwritten⟩ := Double.written_ofInt? hc
  exact ⟨x, (number?_eq h).trans hx, hwritten⟩

/-- **What becomes of the whole numbers in a call.** Numbers of vertices, numbers of steps and values
that properties are compared with arrive as they are. A bound of an interval arrives as a number
with the same double next to it, and as it is up to the limit of whole numbers that are doubles. Two
bounds in order arrive in order, but as one number if one double is next to both. -/
structure Transported (a : Arguments) (d : Descriptor) : Prop where
  ids : d.op = .vertexMap → ∀ (k : ℕ) (i : ℤ),
    (members (a.valueD "ids" .null))[k]? = some (.int i) →
    (d.numbers "ids")[k]? = some (some (i : ℚ))
  step : d.op = .backFilter ∨ d.op = .link → ∀ i : ℤ, a.valueD "step" .null = .int i →
    d.number? "step" = some (i : ℚ)
  values : d.op = .propertyFilter → ∀ (k : ℕ) (i : ℤ),
    (members (a.valueD "values" .null))[k]? = some (.int i) →
    (d.numbers "values")[k]? = some (some (i : ℚ))
  start : d.op = .intervalFilter → ∀ i : ℤ, a.valueD "start" .null = .int i →
    ∃ x, d.number? "startValue" = some x ∧ Double.Written i x
  stop : d.op = .intervalFilter → ∀ i : ℤ, a.valueD "end" .null = .int i →
    ∃ x, d.number? "endValue" = some x ∧ Double.Written i x
  order : d.op = .intervalFilter → ∀ (i j : ℤ) x y, a.valueD "start" .null = .int i →
    a.valueD "end" .null = .int j → d.number? "startValue" = some x →
    d.number? "endValue" = some y → i < j →
    x ≤ y ∧ (x < y ↔ Double.ofRat i ≠ Double.ofRat j)

/-- Every call that makes a descriptor treats its whole numbers so, whatever their size. -/
theorem integers_transported (h : ofArguments op a = .ok d) : Transported a d := by
  have hop := ofArguments_op h
  subst hop
  constructor
  case ids =>
    intro hop k i hk
    rw [hop] at h
    exact vertexMap_numbers h hk
  case step =>
    rintro (hop | hop) i hi <;> rw [hop] at h
    · exact backFilter_number h hi
    · exact link_number h hi
  case values =>
    intro hop k i hk
    rw [hop] at h
    exact propertyFilter_numbers h hk
  case start =>
    intro hop i hi
    rw [hop] at h
    obtain ⟨low, high, hlow, -, hfield, -⟩ := intervalFilter_fields h
    rw [hi] at hlow
    exact number?_bound hlow hfield
  case stop =>
    intro hop i hi
    rw [hop] at h
    obtain ⟨low, high, -, hhigh, -, hfield⟩ := intervalFilter_fields h
    rw [hi] at hhigh
    exact number?_bound hhigh hfield
  case order =>
    intro hop i j x y hi hj hx hy hij
    rw [hop] at h
    obtain ⟨low, high, hlow, hhigh, hfieldLow, hfieldHigh⟩ := intervalFilter_fields h
    rw [hi] at hlow
    rw [hj] at hhigh
    obtain ⟨c, hc, rfl⟩ := bound_int.1 hlow
    obtain ⟨c', hc', rfl⟩ := bound_int.1 hhigh
    rw [number?_eq hfieldLow] at hx
    rw [number?_eq hfieldHigh] at hy
    exact Double.order_ofInt? hc hc' hx hy hij

/-- Bounds of which one arrives as it is and the other one as its neighbour, in order. -/
theorem integers_transported_sample : ∃ d y,
    ofArguments .intervalFilter [("element", .text "vertex"), ("key", .text "age"),
      ("start", .int (-5)), ("end", .int 9007199254740993)] = .ok d ∧
    d.number? "startValue" = some (-5) ∧ d.number? "endValue" = some y ∧
    Double.ofRat y = Double.ofRat 9007199254740993 ∧ -5 < y := by
  have h : ofArguments .intervalFilter [("element", .text "vertex"), ("key", .text "age"),
      ("start", .int (-5)), ("end", .int 9007199254740993)] = .ok _ := rfl
  obtain ⟨x, hx, hlow⟩ := (integers_transported h).start rfl (-5) rfl
  obtain ⟨y, hy, hhigh⟩ := (integers_transported h).stop rfl 9007199254740993 rfl
  have hdoubles : Double.ofRat (-5 : ℤ) ≠ Double.ofRat (9007199254740993 : ℤ) := by
    rw [Double.ofRat_intCast, Double.ofRat_intCast]
    decide +kernel
  have hlt := ((integers_transported h).order rfl _ _ x y rfl rfl hx hy (by decide)).2.2 hdoubles
  have hexact : x = -5 := by simpa using hlow.exact (by decide)
  rw [hexact] at hx hlt
  exact ⟨_, y, h, hx, hy, by simpa using hhigh.same, hlt⟩

/-- A whole number that is no double arrives as its neighbour, and nothing is left between the
bounds. -/
theorem bounds_rounded : ∃ d,
    ofArguments .intervalFilter [("element", .text "vertex"), ("key", .text "age"),
      ("start", .int 9007199254740992), ("end", .int 9007199254740993)] = .ok d ∧
    d.number? "startValue" = some 9007199254740992 ∧
    d.number? "endValue" = some 9007199254740992 := by
  have h : ofArguments .intervalFilter [("element", .text "vertex"), ("key", .text "age"),
      ("start", .int 9007199254740992), ("end", .int 9007199254740993)] = .ok _ := rfl
  have hnumber : value? "9007199254740992.0" = some 9007199254740992 := by
    have hfull : (⟨9007199254740992, 0⟩ : Double.Decimal).full = "9007199254740992.0" := rfl
    rw [← hfull, value?_of_unsigned? (unsigned?_full _), Double.Decimal.value]
    norm_num
  refine ⟨_, h, (number?_eq ?_).trans hnumber, (number?_eq ?_).trans hnumber⟩ <;> decide +kernel

end Descriptor

end StageChain
