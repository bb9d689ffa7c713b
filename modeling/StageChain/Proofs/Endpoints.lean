import StageChain.Pipeline.Wiring

/-!
# The two ends of a pipeline

A source and a sink are accepted by one rule: the format names one of the supported ones, by a text in
any case and with blanks around it or by whatever equals the name, and a format of files comes with a
location. Everything else is refused, for one of three reasons.

* `Accepts`, `Refused`: **which ends are accepted**, and why the others are not.
* `checkEnd_cases`: the check of an end decides between the two.
* `Accepts.not_refused`, `Refused.failure_eq`: no end is both, and none is refused for two reasons.
-/

namespace StageChain

namespace Wiring

/-- **An end of a pipeline is accepted** under the name of a format. -/
structure Accepts (supported : List String) (format : Value) (location : Option String)
    (name : String) : Prop where
  key : format.isKey = true
  named : Format.name? format = some name
  supported : name ∈ supported
  located : name ∈ Format.files → location.getD "" ≠ ""

/-- Why an end of a pipeline is refused; `unlocated` is what is said of a format of files without a
location. -/
inductive Refused (role : String) (supported : List String) (unlocated : String → CompositionError)
    (format : Value) (location : Option String) : PlanningFailure → Prop where
  | unsupported (key : format.isKey = true)
    (unknown : ∀ name, Format.name? format = some name → name ∉ supported) :
    Refused role supported unlocated format location (.format (.make format role supported))
  | unhashable (key : format.isKey = false) :
    Refused role supported unlocated format location (.fault (.unhashable format.kindName))
  | unlocated {name : String} (key : format.isKey = true) (named : Format.name? format = some name)
    (known : name ∈ supported) (file : name ∈ Format.files) (nowhere : location.getD "" = "") :
    Refused role supported unlocated format location (.composition (unlocated name))

/-- The check of an end. -/
def checkEnd (role : String) (supported : List String) (unlocated : String → CompositionError)
    (format : Value) (location : Option String) : Except PlanningFailure String :=
  match Format.check format role supported with
  | .error e => .error e
  | .ok name =>
    if Format.lacksLocation name location then .error (.composition (unlocated name)) else .ok name

theorem checkSource_eq (e : Endpoints) : checkSource e
    = checkEnd "source" Format.sources .noSourceLocation e.sourceFormat e.sourceLocation := rfl

theorem checkSink_eq (k : Sink) : checkSink k
    = checkEnd k.role k.supported (.noSinkLocation k.role) k.format k.location := rfl

variable {role name : String} {supported : List String} {unlocated : String → CompositionError}
  {format : Value} {location : Option String} {failure : PlanningFailure}

theorem lacksLocation_iff :
    Format.lacksLocation name location = true ↔ name ∈ Format.files ∧ location.getD "" = "" := by
  simp [Format.lacksLocation]

/-- An end is accepted or refused, as its check says. -/
theorem checkEnd_cases (role : String) (supported : List String)
    (unlocated : String → CompositionError) (format : Value) (location : Option String) :
    (∃ name, checkEnd role supported unlocated format location = .ok name ∧
      Accepts supported format location name) ∨
    ∃ failure, checkEnd role supported unlocated format location = .error failure ∧
      Refused role supported unlocated format location failure := by
  unfold checkEnd Format.check
  cases hkey : format.isKey with
  | false => exact .inr ⟨_, rfl, .unhashable hkey⟩
  | true =>
    rw [if_pos rfl]
    cases hname : (Format.name? format).filter (· ∈ supported) with
    | none =>
      refine .inr ⟨_, rfl, .unsupported hkey fun name hnamed hknown => ?_⟩
      simp [hnamed, hknown] at hname
    | some name =>
      obtain ⟨hnamed, hknown⟩ := Option.filter_eq_some_iff.1 hname
      have hknown : name ∈ supported := by simpa using hknown
      simp only
      cases hlacks : Format.lacksLocation name location with
      | true =>
        obtain ⟨hfile, hnowhere⟩ := lacksLocation_iff.1 hlacks
        exact .inr ⟨_, rfl, .unlocated hkey hnamed hknown hfile hnowhere⟩
      | false =>
        refine .inl ⟨_, rfl, hkey, hnamed, hknown, fun hfile hnowhere => ?_⟩
        rw [lacksLocation_iff.2 ⟨hfile, hnowhere⟩] at hlacks
        exact absurd hlacks (by simp)

/-- An end is accepted under one name. -/
theorem Accepts.name_eq {name' : String} (h : Accepts supported format location name)
    (h' : Format.name? format = some name') : name = name' :=
  Option.some.inj (h.named.symm.trans h')

/-- An end that is accepted is not refused. -/
theorem Accepts.not_refused (h : Accepts supported format location name) :
    ¬Refused role supported unlocated format location failure := by
  rintro (⟨_, hunknown⟩ | ⟨hkey⟩ | ⟨_, hnamed, _, hfile, hnowhere⟩)
  · exact hunknown name h.named h.supported
  · rw [h.key] at hkey
    cases hkey
  · obtain rfl := h.name_eq hnamed
    exact h.located hfile hnowhere

/-- An end is refused for one reason. -/
theorem Refused.failure_eq {failure' : PlanningFailure}
    (h : Refused role supported unlocated format location failure)
    (h' : Refused role supported unlocated format location failure') : failure = failure' := by
  cases h with
  | unsupported hkey hunknown =>
    cases h' with
    | unsupported => rfl
    | unhashable hkey' => rw [hkey] at hkey'; cases hkey'
    | unlocated _ hnamed hknown => exact absurd hknown (hunknown _ hnamed)
  | unhashable hkey =>
    cases h' with
    | unhashable => rfl
    | unsupported hkey' | unlocated hkey' => rw [hkey] at hkey'; cases hkey'
  | unlocated hkey hnamed hknown =>
    cases h' with
    | unsupported _ hunknown => exact absurd hknown (hunknown _ hnamed)
    | unhashable hkey' => rw [hkey] at hkey'; cases hkey'
    | unlocated _ hnamed' => rw [Option.some.inj (hnamed.symm.trans hnamed')]

theorem checkEnd_ok_iff : checkEnd role supported unlocated format location = .ok name ↔
    Accepts supported format location name := by
  rcases checkEnd_cases role supported unlocated format location with ⟨_, hc, h⟩ | ⟨_, hc, h⟩
  · rw [hc, Except.ok.injEq]
    exact ⟨fun he => he ▸ h, fun h' => h.name_eq h'.named⟩
  · rw [hc]
    exact ⟨by simp, fun h' => absurd h h'.not_refused⟩

theorem checkEnd_error (h : checkEnd role supported unlocated format location = .error failure) :
    Refused role supported unlocated format location failure := by
  rcases checkEnd_cases role supported unlocated format location with ⟨_, hc, _⟩ | ⟨_, hc, hr⟩
  · rw [hc] at h; simp at h
  · rw [hc] at h
    exact Except.error.inj h ▸ hr

end Wiring

end StageChain
