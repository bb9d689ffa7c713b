import StageChain.Operation.Parameters

/-!
# Making descriptors

A descriptor is made from the name of an operation and its parameters, or by calling the operation
with arguments. The keys of its configuration are the fields under the operation's namespace; it
reads graph elements, and what it writes depends on the operation alone.

* `ofArguments_op`: what is made is the operation asked for.
-/

namespace StageChain

/-- Why no descriptor is made. -/
inductive BuildError where
  /-- The value names no operation. -/
  | unknownOp (v : Value)
  /-- The arguments do not fit the operation. -/
  | arguments (error : ArgumentError)
  /-- A parameter is refused. -/
  | descriptor (error : DescriptorError)
  /-- A parameter cannot be converted. -/
  | fault (fault : Fault)
  deriving DecidableEq, Inhabited

namespace BuildError

/-- The kind of the error. -/
def kindName : BuildError → String
  | unknownOp _ => "ValueError"
  | arguments _ => "TypeError"
  | descriptor _ => "DescriptorError"
  | fault f => f.kindName

/-- The message of the error. -/
def message : BuildError → String
  | unknownOp v =>
    "Unknown op '" ++ v.plain ++ "'. Valid ops: " ++ ", ".intercalate (Op.all.map Op.name)
  | arguments e => e.message
  | descriptor e => e.message
  | fault f => f.message

end BuildError

namespace Op

/-- The schema that an operation writes. -/
def output : Op → Schema
  | propertyMap | pathMap => .text
  | valueDistribution | groupCount => .textCount
  | count => .count
  | _ => .graph

/-- The schema that the map side of an operation writes. -/
def mapOutput (op : Op) : Schema :=
  match op.kind, op with
  | .grouping, valueDistribution | .grouping, groupCount => .textCount
  | .grouping, count => .partialCount
  | .grouping, _ => .holder
  | .mapOnly, op => op.output

/-- Whether an operation has a combiner. -/
def isCombinable : Op → Bool
  | valueDistribution | groupCount => true
  | _ => false

/-- The key of a field in the configuration of an operation. -/
def configKey (op : Op) (field : String) : String := op.namespaceName ++ "." ++ field

/-- How the operation is called. -/
def signature (op : Op) : Signature := ⟨op.callName, op.parameters⟩

/-- How the operation is called on a draft of a chain, which is the first argument. -/
def draftSignature (op : Op) : Signature :=
  ⟨"Compiler." ++ op.name, ⟨"self", true⟩ :: op.parameters⟩

/-- What a call on a draft hands on for a parameter that was left out. -/
def omitted (parameter : String) : Value :=
  if parameter = "labels" then .list []
  else if parameter = "null_wildcard" then .bool false
  else .null

/-- What a call on a draft hands on to the operation: a value for each parameter, in order. -/
def handedOn (op : Op) (a : Arguments) : List Value :=
  op.parameters.map fun p => a.valueD p.name (omitted p.name)

/-- What the descriptor of an operation with these fields is asked to be. -/
def request (op : Op) (fields : List (String × Value)) : DescriptorRequest where
  op := .inr op
  kind := .inr op.kind
  config := fields.map fun f => (.text (op.configKey f.1), f.2)
  input := .graph
  output := op.output
  mapOutput := some op.mapOutput
  combinable := op.isCombinable

end Op

namespace Descriptor

/-- The descriptor of an operation whose parameters have these values. -/
def ofArguments (op : Op) (a : Arguments) : Except BuildError Descriptor :=
  match op.fields a with
  | .error (.refused e) => .error (.descriptor (.parameter op e))
  | .error (.fault f) => .error (.fault f)
  | .ok fields => match make (op.request fields) with
    | .error e => .error (.descriptor e)
    | .ok d => .ok d

/-- The descriptor of an operation that is called with arguments. -/
def ofCall (op : Op) (positional : List Value) (named : List (Value × Value)) :
    Except BuildError Descriptor :=
  match op.signature.bind positional named with
  | .error e => .error (.arguments e)
  | .ok a => ofArguments op a

/-- The descriptor of an operation by its name, with named parameters. A parameter cannot be named
`op`, for that is the name of the operation itself. -/
def build (op : Value) (params : List (Value × Value)) : Except BuildError Descriptor :=
  if params.any fun e => !Signature.isText e.1 then .error (.arguments .nameNotText)
  else if (Value.field? "op" params).isSome then .error (.arguments (.repeated "build" "op"))
  else match Op.ofValue? op with
    | none => .error (.unknownOp op)
    | some op => ofCall op [] params

/-- The descriptor that an operation makes when it is called on a draft of a chain. The call is
matched with the draft's own parameters first; their values are handed on by position. -/
def call (op : Op) (positional : List Value) (named : List (Value × Value)) :
    Except BuildError Descriptor :=
  match op.draftSignature.bind (.null :: positional) named with
  | .error e => .error (.arguments e)
  | .ok a => ofCall op (op.handedOn a) []

theorem ofArguments_op {op : Op} {a : Arguments} {d : Descriptor} (h : ofArguments op a = .ok d) :
    d.op = op := by
  unfold ofArguments at h
  split at h
  · simp at h
  · simp at h
  · split at h
    · simp at h
    · next hm =>
      simp only [Except.ok.injEq] at h
      subst h
      exact (Sum.inr.inj (make_op hm)).symm

end Descriptor

end StageChain
