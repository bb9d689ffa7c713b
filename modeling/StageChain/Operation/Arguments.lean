import StageChain.Operation.Op
import StageChain.Value.Printed

/-!
# Arguments

A call gives some arguments by position and some by name. They are matched with the parameters of
what is called: names come first, in the order of the caller, then the number of arguments, then
the parameters that have none.

* `bind_ok_required`: a call that is accepted gives every required parameter a value.
-/

namespace StageChain

/-- A parameter. One that is not required may be left out. -/
structure Parameter where
  name : String
  required : Bool
  deriving DecidableEq, Repr

/-- What can be called. -/
structure Signature where
  name : String
  parameters : List Parameter
  deriving DecidableEq, Repr

/-- Why a call is refused. -/
inductive ArgumentError where
  /-- A name is no text. -/
  | nameNotText
  /-- A parameter is given twice. -/
  | repeated (function parameter : String)
  /-- There is no parameter of this name. -/
  | unexpected (function name : String)
  /-- There are more arguments by position than parameters. -/
  | tooMany (function : String) (least most given : Nat)
  /-- Required parameters are not given. -/
  | missing (function : String) (names : List String)
  deriving DecidableEq, Inhabited

namespace ArgumentError

/-- Names in a row, with "and" before the last. -/
def enumerate : List String → String
  | [] => ""
  | [a] => a
  | [a, b] => a ++ " and " ++ b
  | as => ", ".intercalate as.dropLast ++ ", and " ++ as.getLastD ""

/-- An ending for all numbers but one. -/
def plural (n : Nat) : String := if n = 1 then "" else "s"

/-- The message of the error. -/
def message : ArgumentError → String
  | nameNotText => "keywords must be strings"
  | repeated f x => f ++ "() got multiple values for argument '" ++ x ++ "'"
  | unexpected f x => f ++ "() got an unexpected keyword argument '" ++ x ++ "'"
  | tooMany f least most given =>
    let range :=
      if least = most then toString most ++ " positional argument" ++ plural most
      else "from " ++ toString least ++ " to " ++ toString most ++ " positional arguments"
    f ++ "() takes " ++ range ++ " but " ++ toString given
      ++ (if given = 1 then " was given" else " were given")
  | missing f names =>
    f ++ "() missing " ++ toString names.length ++ " required positional argument"
      ++ plural names.length ++ ": " ++ enumerate (names.map fun n => "'" ++ n ++ "'")

end ArgumentError

/-- The values of parameters, by their names. -/
abbrev Arguments := List (String × Value)

/-- The value of a parameter; one that was left out has the value given here. -/
def Arguments.valueD (a : Arguments) (name : String) (otherwise : Value) : Value :=
  (a.lookup name).getD otherwise

namespace Signature

/-- Takes the arguments by name, in order. -/
def bindNames (s : Signature) : Arguments → List (Value × Value) → Except ArgumentError Arguments
  | a, [] => .ok a
  | a, (.text name, v) :: rest =>
    if s.parameters.any (·.name = name) then
      if (a.lookup name).isSome then .error (.repeated s.name name)
      else bindNames s (a ++ [(name, v)]) rest
    else .error (.unexpected s.name name)
  | _, _ :: _ => .error .nameNotText

/-- Whether a value is a text. -/
def isText : Value → Bool
  | .text _ => true
  | _ => false

/-- The names of the required parameters that have no value. -/
def unfilled (s : Signature) (a : Arguments) : List String :=
  (s.parameters.filter fun p => p.required && (a.lookup p.name).isNone).map (·.name)

/-- Matches the arguments of a call with the parameters. -/
def bind (s : Signature) (positional : List Value) (named : List (Value × Value)) :
    Except ArgumentError Arguments :=
  if named.any fun e => !isText e.1 then .error .nameNotText
  -- surplus arguments are counted only after every name was found
  else match s.bindNames ((s.parameters.map (·.name)).zip positional) named with
    | .error e => .error e
    | .ok a =>
      if s.parameters.length < positional.length then
        .error (.tooMany s.name (s.parameters.filter (·.required)).length s.parameters.length
          positional.length)
      else if s.unfilled a ≠ [] then .error (.missing s.name (s.unfilled a))
      else .ok a

theorem bind_ok_required {s : Signature} {positional : List Value} {named : List (Value × Value)}
    {a : Arguments} (h : s.bind positional named = .ok a) : s.unfilled a = [] := by
  unfold bind at h
  split at h
  · simp at h
  · split at h
    · simp at h
    · split at h
      · simp at h
      · split at h
        · simp at h
        · next hu =>
          simp only [Except.ok.injEq] at h
          exact h ▸ Decidable.of_not_not hu

end Signature

end StageChain
