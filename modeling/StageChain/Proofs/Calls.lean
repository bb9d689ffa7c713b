import Mathlib.Data.List.Basic
import StageChain.Proofs.Fields
import StageChain.Proofs.Making
import StageChain.Proofs.Replay

/-!
# Recipes and calls

An operation gets its arguments in two ways. An entry of a recipe names them to the operation itself.
A call on a draft names them to the draft, which has parameters of its own and hands their values on
by position. Both come to the same descriptor or are refused alike.

* `Signature.Extends.bind_iff`: **the draft takes the names that the operation takes.**
* `Op.fields_congr`: the fields of an operation depend on its own parameters alone.
* `NamedCall.build_entry`: so **both ways make the same**, or none makes anything.
* `Surfaces`: how the refusal of a call comes out in a recipe.
* `apply_entries`: **applying a recipe is making its calls** up to the first that is refused.
-/

namespace StageChain

/-! ## Matching names with parameters -/

namespace Signature

variable {s t : Signature} {x name : String} {v : Value} {a b : Arguments}
  {named : List (Value × Value)}

/-- A signature has one more parameter than another one, in front of the others. -/
structure Extends (t s : Signature) (x : String) : Prop where
  parameters : t.parameters = ⟨x, true⟩ :: s.parameters
  fresh : ∀ p ∈ s.parameters, p.name ≠ x

theorem lookup_cons_of_ne (h : name ≠ x) : List.lookup name ((x, v) :: a) = a.lookup name := by
  rw [List.lookup_cons, beq_false_of_ne h]

/-- The names find the same parameters, and the one in front keeps its value. -/
theorem Extends.bindNames_iff (h : t.Extends s x) : t.bindNames ((x, v) :: a) named = .ok b ↔
    ∃ a', s.bindNames a named = .ok a' ∧ b = (x, v) :: a' := by
  induction named generalizing a with
  | nil => simp [bindNames, eq_comm]
  | cons e rest ih =>
    obtain ⟨k, w⟩ := e
    cases k with
    | text name =>
      by_cases hname : name = x
      · -- it has a value already, and the other signature has no parameter of this name
        subst hname
        have hs : s.parameters.any (·.name = name) = false := by simpa using h.fresh
        simp [bindNames, h.parameters, hs]
      · have hany : t.parameters.any (·.name = name) = s.parameters.any (·.name = name) := by
          simp [h.parameters, Ne.symm hname]
        rw [bindNames, bindNames, hany, lookup_cons_of_ne hname]
        split
        · split
          · simp
          · exact ih
        · simp
    | _ => simp [bindNames]

theorem Extends.unfilled_cons (h : t.Extends s x) : t.unfilled ((x, v) :: a) = s.unfilled a := by
  have hrest : ∀ p ∈ s.parameters, (p.required && (List.lookup p.name ((x, v) :: a)).isNone)
      = (p.required && (a.lookup p.name).isNone) :=
    fun p hp => by rw [lookup_cons_of_ne (h.fresh p hp)]
  rw [unfilled, unfilled, h.parameters, List.filter_cons_of_neg (by simp),
    List.filter_congr hrest]

/-- **A call with one more argument in front** takes the names that a call without it takes. -/
theorem Extends.bind_iff (h : t.Extends s x) : t.bind [v] named = .ok b ↔
    ∃ a, s.bind [] named = .ok a ∧ b = (x, v) :: a := by
  have hzip : (t.parameters.map (·.name)).zip [v] = [(x, v)] := by simp [h.parameters]
  unfold bind
  rw [hzip, List.zip_nil_right]
  split
  · simp
  · have hnames (c : Arguments) : t.bindNames [(x, v)] named = .ok c ↔ _ := h.bindNames_iff
    cases hs : s.bindNames [] named with
    | error e =>
      cases ht : t.bindNames [(x, v)] named with
      | error e' => simp
      | ok c => simpa [hs] using (hnames c).1 ht
    | ok a =>
      -- no argument is surplus on either side, and the same parameters are left without a value
      rw [(hnames _).2 ⟨a, hs, rfl⟩]
      simp only [h.unfilled_cons]
      have hfront : ¬t.parameters.length < [v].length := by simp [h.parameters]
      have hnone : ¬s.parameters.length < ([] : List Value).length := by simp
      rw [if_neg hfront, if_neg hnone]
      by_cases hfilled : s.unfilled a = []
      · simp [hfilled, eq_comm]
      · simp [hfilled]

/-- Each name that is taken is that of a parameter. -/
theorem mem_names_of_bindNames (h : s.bindNames a named = .ok b) :
    ∀ e ∈ named, ∃ p ∈ s.parameters, e.1 = .text p.name := by
  induction named generalizing a with
  | nil => simp
  | cons e rest ih =>
    obtain ⟨k, w⟩ := e
    cases k with
    | text name =>
      rw [bindNames] at h
      split at h
      case isFalse => cases h
      case isTrue hany =>
        split at h
        · cases h
        · obtain ⟨p, hp, hname⟩ := List.any_eq_true.1 hany
          rw [List.forall_mem_cons]
          exact ⟨⟨p, hp, by rw [of_decide_eq_true hname]⟩, ih h⟩
    | _ => cases h

theorem mem_names_of_bind (h : s.bind [] named = .ok b) :
    ∀ e ∈ named, ∃ p ∈ s.parameters, e.1 = .text p.name := by
  unfold bind at h
  split at h
  · cases h
  · split at h
    · cases h
    case h_2 hnames => exact mem_names_of_bindNames hnames

end Signature

namespace Op

variable {a b : Arguments}

/-! ## Handing values on -/

/-- A draft takes the parameters of an operation behind itself. -/
theorem extends_signature (op : Op) : op.draftSignature.Extends op.signature "self" :=
  ⟨rfl, by cases op <;> decide⟩

/-- The fields of an operation depend on the values of its own parameters alone. One that was left
out counts as what a call on a draft hands on for it. -/
theorem fields_congr (op : Op) (h : ∀ p ∈ op.parameters,
    a.valueD p.name (omitted p.name) = b.valueD p.name (omitted p.name)) :
    op.fields a = op.fields b := by
  cases op <;>
    simp only [parameters, List.forall_mem_cons, List.not_mem_nil, false_implies, implies_true,
      and_true, omitted, String.reduceEq, if_true, if_false] at h <;>
    simp only [fields, elementClosureFields, stepFields, elementFields, actionFields,
      propertyMapFields, propertyFilterFields, intervalFilterFields, backFilterFields, linkFields,
      valueDistributionFields, groupCountFields, h]

/-- What is handed on, under the names of the parameters. -/
def completed (op : Op) (a : Arguments) : Arguments :=
  (op.parameters.map (·.name)).map fun n => (n, a.valueD n (omitted n))

theorem lookup_completed {op : Op} {p : Parameter} (hp : p ∈ op.parameters) :
    (op.completed a).lookup p.name = some (a.valueD p.name (omitted p.name)) :=
  List.lookup_graph _ (List.mem_map_of_mem hp)

/-- What is handed on is matched with the parameters again, each with its own value. -/
theorem bind_handedOn (op : Op) (a : Arguments) :
    op.signature.bind (op.handedOn a) [] = .ok (op.completed a) := by
  have hzip : (op.signature.parameters.map (·.name)).zip (op.handedOn a) = op.completed a := by
    rw [show op.signature.parameters = op.parameters from rfl, handedOn, List.zip_map', completed,
      List.map_map]
    rfl
  have hlength : ¬op.signature.parameters.length < (op.handedOn a).length := by
    simp [signature, handedOn]
  have hfilled : op.signature.unfilled (op.completed a) = [] := by
    rw [Signature.unfilled, List.map_eq_nil_iff, List.filter_eq_nil_iff]
    intro p hp
    rw [lookup_completed hp]
    simp
  unfold Signature.bind
  rw [if_neg (by simp), hzip]
  simp only [Signature.bindNames]
  rw [if_neg hlength, if_neg (not_not_intro hfilled)]

/-- No parameter is named as the parameter that takes the operation's own name. -/
theorem parameter_ne_op (op : Op) : ∀ p ∈ op.parameters, p.name ≠ "op" := by cases op <;> decide

end Op

namespace Descriptor

variable {op : Op} {a b : Arguments} {named : List (Value × Value)}

theorem ofArguments_congr (h : ∀ p ∈ op.parameters,
    a.valueD p.name (Op.omitted p.name) = b.valueD p.name (Op.omitted p.name)) :
    ofArguments op a = ofArguments op b := by
  unfold ofArguments
  rw [op.fields_congr h]

/-- **Handing values on by position loses nothing.** -/
theorem ofCall_handedOn (op : Op) (a : Arguments) :
    ofCall op (op.handedOn a) [] = ofArguments op a := by
  rw [ofCall, op.bind_handedOn a]
  refine ofArguments_congr fun p hp => ?_
  rw [Arguments.valueD, Op.lookup_completed hp, Option.getD_some]

/-! ## The two ways -/

/-- A call on a draft makes what the operation makes of the same names. -/
theorem call_of_bind (h : op.signature.bind [] named = .ok a) :
    call op [] named = ofArguments op a := by
  rw [call, op.extends_signature.bind_iff.2 ⟨a, h, rfl⟩]
  simp only
  rw [ofCall_handedOn]
  refine ofArguments_congr fun p hp => ?_
  rw [Arguments.valueD, Signature.lookup_cons_of_ne (op.extends_signature.fresh p hp),
    Arguments.valueD]

/-- A call on a draft refuses the names that the operation refuses. -/
theorem call_of_not_bind (h : ∀ a, op.signature.bind [] named ≠ .ok a) :
    ∃ e, call op [] named = .error (.arguments e) := by
  rw [call]
  cases hbind : op.draftSignature.bind [.null] named with
  | error e => exact ⟨e, rfl⟩
  | ok b =>
    obtain ⟨a, ha, -⟩ := op.extends_signature.bind_iff.1 hbind
    exact absurd ha (h a)

theorem field?_eq_none {name : String} (h : ∀ e ∈ named, e.1.text? ≠ some name) :
    Value.field? name named = none := by
  induction named with
  | nil => rfl
  | cons e rest ih =>
    rw [Value.field?, if_neg (h e List.mem_cons_self), ih fun e he => h e (List.mem_cons_of_mem _ he)]

/-- An entry of a recipe makes what the operation makes of the same names: its own name is that of no
parameter. -/
theorem build_of_bind (h : op.signature.bind [] named = .ok a) :
    build (.text op.name) named = ofArguments op a := by
  have hnames := Signature.mem_names_of_bind h
  have htext : named.any (fun e => !Signature.isText e.1) = false := by
    rw [List.any_eq_false]
    intro e he
    obtain ⟨p, -, hp⟩ := hnames e he
    simp [hp, Signature.isText]
  have hop : Value.field? "op" named = none := by
    refine field?_eq_none fun e he heq => ?_
    obtain ⟨p, hp, hname⟩ := hnames e he
    exact op.parameter_ne_op p hp (by simpa [hname] using heq)
  rw [build, if_neg (by simp [htext]), if_neg (by simp [hop])]
  simp only [Op.ofValue?_eq_some_iff.2 (Value.text?_text op.name), ofCall, h]

theorem build_of_not_bind (h : ∀ a, op.signature.bind [] named ≠ .ok a) :
    ∃ e, build (.text op.name) named = .error (.arguments e) := by
  unfold build
  split
  · exact ⟨_, rfl⟩
  · split
    · exact ⟨_, rfl⟩
    · simp only [Op.ofValue?_eq_some_iff.2 (Value.text?_text op.name), ofCall]
      cases hbind : op.signature.bind [] named with
      | error e => exact ⟨e, rfl⟩
      | ok a => exact absurd hbind (h a)

end Descriptor

/-! ## Calls in a row -/

/-- An operation that is called by its name, with named arguments. -/
structure NamedCall where
  op : Op
  named : List (Value × Value)

namespace NamedCall

/-- The call as an entry of a recipe. -/
def entry (c : NamedCall) : RecipeEntry := ⟨c.op.name, c.named⟩

/-- The descriptor that the call makes. -/
def descriptor (c : NamedCall) : Except BuildError Descriptor := Descriptor.call c.op [] c.named

end NamedCall

/-- How the error of a call comes out of a recipe that has the call as its entry at a position. -/
inductive Surfaces (position : Nat) (op : Op) : CallError → ApplyError → Prop
  /-- What a descriptor is refused for is said in the same words, after the position. -/
  | descriptor {e : DescriptorError} {f : RecipeFailure} (kind : f.kindName = "ScriptError")
    (message : f.message = "Entry " ++ toString position ++ " (" ++ op.name ++ "): " ++ e.message) :
    Surfaces position op (.build (.descriptor e)) (.recipe f)
  /-- A schema that does not fit is the same error. -/
  | mismatch (m : SchemaMismatch) : Surfaces position op (.mismatch m) (.mismatch m)
  /-- Arguments that do not fit are no arguments of two different functions. -/
  | arguments (e e' : ArgumentError) : Surfaces position op (.build (.arguments e))
    (.recipe (.recipe (.notBuilt position op.name (.arguments e'))))
  | fault {f : Fault} (ne : f ≠ .tooLarge) : Surfaces position op (.build (.fault f))
    (.recipe (.recipe (.notBuilt position op.name (.fault f))))
  /-- This fault no recipe reports as its own. -/
  | tooLarge : Surfaces position op (.build (.fault .tooLarge)) (.recipe (.fault .tooLarge))

/-- **Both ways make the same** of a call, or the error of the one comes out of the other. -/
theorem NamedCall.build_entry (c : NamedCall) (position : Nat) :
    (∃ x, Recipe.build position c.entry = .ok x ∧ c.descriptor = .ok x) ∨
    ∃ e f, Recipe.build position c.entry = .error f ∧ c.descriptor = .error e ∧
      Surfaces position c.op (.build e) (.recipe f) := by
  -- what the names are matched with decides first, then the values they are matched to
  by_cases hbind : ∃ a, c.op.signature.bind [] c.named = .ok a
  · obtain ⟨a, ha⟩ := hbind
    have hbuild : Descriptor.build (.text c.entry.op) c.entry.params = _ :=
      Descriptor.build_of_bind ha
    rw [descriptor, Descriptor.call_of_bind ha]
    cases hmade : Descriptor.ofArguments c.op a with
    | ok x => exact .inl ⟨x, by rw [Recipe.build, hbuild, hmade], rfl⟩
    | error e =>
      rw [hmade] at hbuild
      right
      obtain ⟨r, -, rfl⟩ | ⟨f, hfault, rfl⟩ | ⟨fields, f, -, -, rfl⟩ :=
        Descriptor.ofArguments_error_iff.1 hmade
      · exact ⟨_, _, Recipe.build_of_error hbuild (Recipe.mem_reportedKinds (by simp)), rfl,
          .descriptor rfl rfl⟩
      · -- the one fault that passes is that of a number without a double
        obtain rfl | ⟨hne, hkind⟩ := ((c.op.yields_fields a).of_fault hfault).eq_tooLarge_or
        · exact ⟨_, _, by rw [Recipe.build, hbuild]; rfl, rfl, .tooLarge⟩
        · have hmem : (BuildError.fault f).kindName ∈ Recipe.reportedKinds := by
            simp [BuildError.kindName, hkind, Recipe.reportedKinds]
          exact ⟨_, _, Recipe.build_of_error hbuild hmem, rfl, .fault hne⟩
      · exact ⟨_, _, Recipe.build_of_error hbuild (Recipe.mem_reportedKinds (by simp)), rfl,
          .descriptor rfl rfl⟩
  · have hnone : ∀ a, c.op.signature.bind [] c.named ≠ .ok a := not_exists.1 hbind
    obtain ⟨e, he⟩ := Descriptor.call_of_not_bind hnone
    obtain ⟨e', he'⟩ := Descriptor.build_of_not_bind hnone
    exact .inr ⟨_, _, Recipe.build_of_error he' (Recipe.mem_reportedKinds (by simp)), he,
      .arguments e e'⟩

/-- How a recipe and the calls that are its entries come to an end, after as many of them. -/
inductive EndsAlike (position : Nat) (cs : List NamedCall) (n : Nat) :
    Option ApplyError → Option (Nat × CallError) → Prop
  | complete (all : n = cs.length) : EndsAlike position cs n none none
  | refused {c : NamedCall} {e : CallError} {f : ApplyError} (here : cs[n]? = some c)
    (surfaces : Surfaces (position + n) c.op e f) :
    EndsAlike position cs n (some f) (some (position + n, e))

theorem EndsAlike.cons {position n : Nat} {c : NamedCall} {cs : List NamedCall}
    {f : Option ApplyError} {e : Option (Nat × CallError)}
    (h : EndsAlike (position + 1) cs n f e) : EndsAlike position (c :: cs) (n + 1) f e := by
  have hposition : position + 1 + n = position + (n + 1) := by omega
  cases h with
  | complete all => exact .complete (by simp [all])
  | refused here surfaces =>
    rw [hposition] at surfaces ⊢
    exact .refused (by simpa using here) surfaces

namespace Draft

/-- Makes calls from a position on, up to the first that is refused, which is told. -/
def callFrom : (position : Nat) → List NamedCall → Draft → Draft × Option (Nat × CallError)
  | _, [], d => (d, none)
  | i, c :: cs, d => match d.call c.op [] c.named with
    | (.error e, d) => (d, some (i, e))
    | (.ok (), d) => callFrom (i + 1) cs d

/-- Makes calls one after the other, up to the first that is refused. -/
def callEach (d : Draft) (cs : List NamedCall) : Draft × Option (Nat × CallError) :=
  callFrom 0 cs d

/-- What applying a recipe and making its calls have in common, from a position on. -/
theorem applyFrom_entries (position : Nat) (cs : List NamedCall) (d : Draft) :
    ∃ xs, (applyFrom position (cs.map NamedCall.entry) d).1 = (callFrom position cs d).1 ∧
      (callFrom position cs d).1.descriptors = d.descriptors ++ xs ∧
      (cs.take xs.length).map NamedCall.descriptor = xs.map .ok ∧
      EndsAlike position cs xs.length (applyFrom position (cs.map NamedCall.entry) d).2
        (callFrom position cs d).2 := by
  -- the position and the draft move on with every call that is accepted
  induction cs generalizing position d with
  | nil => exact ⟨[], rfl, by simp [callFrom], rfl, .complete rfl⟩
  | cons c cs ih =>
    rw [List.map_cons, applyFrom, callFrom, call, ← NamedCall.descriptor]
    obtain ⟨x, hentry, hcall⟩ | ⟨e, f, hentry, hcall, hsurfaces⟩ := c.build_entry position
    · simp only [hentry, hcall]
      by_cases hx : x.input = d.fusion.running
      · simp only [append_of_fits hx]
        obtain ⟨xs, hsame, hdescriptors, hmade, hend⟩ := ih (position + 1) (d.accept x)
        refine ⟨x :: xs, hsame, ?_, ?_, hend.cons⟩
        · rw [hdescriptors, accept, List.append_assoc, List.singleton_append]
        · rw [List.length_cons, List.take_succ_cons, List.map_cons, List.map_cons, hcall, hmade]
      · simp only [append_of_not_fits hx]
        exact ⟨[], trivial, by simp, rfl, .refused rfl (.mismatch _)⟩
    · simp only [hentry, hcall]
      exact ⟨[], trivial, by simp, rfl, .refused rfl hsurfaces⟩

/-- **Applying a recipe is making its calls.** Both leave the same draft, with the operations of the
entries before the first that is refused; it is the same entry, and what refuses the call comes out
of the recipe with its position. -/
theorem apply_entries (d : Draft) (cs : List NamedCall) :
    ∃ xs, (d.apply (cs.map NamedCall.entry)).1 = (d.callEach cs).1 ∧
      (d.callEach cs).1.descriptors = d.descriptors ++ xs ∧
      (cs.take xs.length).map NamedCall.descriptor = xs.map .ok ∧
      EndsAlike 0 cs xs.length (d.apply (cs.map NamedCall.entry)).2 (d.callEach cs).2 :=
  applyFrom_entries 0 cs d

end Draft

end StageChain
