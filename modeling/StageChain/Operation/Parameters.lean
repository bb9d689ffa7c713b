import StageChain.Fault
import StageChain.Operation.Arguments
import StageChain.Operation.Descriptor
import StageChain.Text.Upper

/-!
# Parameters of operations

Which parameters each operation has, and how their values become the fields of its configuration.
Words of a closed set are taken in any case; a list of texts is written with commas; a number that
bounds an interval is written as a double. A field is meant to be a text or a byte string, but
whatever equals the name of a comparison is handed on as it is.

* `elementField_vertex`: the word for vertices is its own canonical form.
-/

namespace StageChain

/-- Why the parameters of an operation yield no configuration. -/
inductive FieldError where
  | refused (error : ParameterError)
  | fault (fault : Fault)
  deriving DecidableEq, Inhabited

/-- The fields of an operation's configuration, or why there are none. -/
abbrev Fields := Except FieldError (List (String × Value))

namespace Parameters

/-- A value as a field: a text that is the value's running text. -/
def textField (v : Value) : Value := .text v.plain

/-- A truth value as a field. -/
def flag (b : Bool) : String := if b then "true" else "false"

/-- A class of elements, in any case. -/
def elementField (v : Value) : Except FieldError Value :=
  let word := Text.keyword v.plain
  if word = "vertex" ∨ word = "edge" then .ok (.text word) else .error (.refused (.element v))

/-- A direction, in any case. -/
def directionField (v : Value) : Except FieldError Value :=
  let word := Text.upper v.plain
  if word = "OUT" ∨ word = "IN" ∨ word = "BOTH" then .ok (.text word)
  else .error (.refused (.direction v))

/-- What a commit does with elements, in any case. -/
def actionField (v : Value) : Except FieldError Value :=
  let word := Text.upper v.plain
  if word = "KEEP" ∨ word = "DROP" then .ok (.text word) else .error (.refused (.action v))

/-- A closure under a name: a text or a byte string that is not empty. -/
def closureField (name : String) (v : Value) : Except FieldError Value :=
  match ConfigValue.ofValue? v with
  | some c => if c.isEmpty then .error (.refused (.closure name)) else .ok v
  | none => .error (.refused (.closure name))

/-- The members of a list. A text, a byte string and every other value that is no collection is one
member; a mapping stands for its keys. -/
def members : Value → List Value
  | .list items => items
  | .map entries => entries.map Prod.fst
  | .other self items => if self.isIterable then items else [.other self items]
  | v => [v]

/-- Texts in a row, with commas between them. -/
def commas (ss : List String) : Value := .text (",".intercalate ss)

/-- The class of a value that properties are compared with. -/
def valueClass : Value → Except FieldError ValueClass
  | .bool _ => .ok .boolean
  | .text _ => .ok .string
  | .int _ | .float _ => .ok .number
  | v => .error (.refused (.valueClass v.kindName))

/-- Checks that values have the class of the first one. -/
def checkClasses (first : ValueClass) : List Value → Except FieldError Unit
  | [] => .ok ()
  | v :: vs => do
    let c ← valueClass v
    if c = first then checkClasses first vs else .error (.refused (.mixedClasses first c))

/-- A value that properties are compared with. -/
def comparand : Value → String
  | .bool b => flag b
  | v => v.plain

/-- An end of an interval; every number is written as a double. -/
def bound : Value → Except FieldError String
  | .int i => match Double.ofInt? i with
    | some d => .ok d.text
    | none => .error (.fault .tooLarge)
  | .float d => .ok d.text
  | v => .ok (comparand v)

/-- The signs for comparisons, with the names of the comparisons. -/
def comparisons : List (String × String) :=
  [("=", "EQUAL"), ("==", "EQUAL"), ("!=", "NOT_EQUAL"), (">", "GREATER_THAN"),
    (">=", "GREATER_THAN_EQUAL"), ("<", "LESS_THAN"), ("<=", "LESS_THAN_EQUAL")]

/-- A comparison, by its sign or its name. For a sign its name is written; what equals a name is
handed on, a text or not. -/
def comparisonField (v : Value) : Except FieldError Value :=
  if v.isKey then
    let name : Value := match v.text?.bind fun s => comparisons.lookup s with
      | some w => .text w
      | none => v
    if comparisons.any (fun c => name.text? == some c.2) then .ok name
    else .error (.refused (.comparison v))
  else .error (.fault (.unhashable v.kindName))

/-- A number of steps back, which is not negative. -/
def stepField : Value → Except FieldError Value
  | .int i => if i < 0 then .error (.refused .step) else .ok (.text (toString i))
  | _ => .error (.refused .step)

/-- A value that must be there. -/
def require (e : ParameterError) (v : Value) : Except FieldError Unit :=
  if v.truthy then .ok () else .error (.refused e)

/-- Numbers of vertices. -/
def vertexIds : List Value → Except FieldError (List String)
  | [] => .ok []
  | .int i :: vs => do return toString i :: (← vertexIds vs)
  | v :: _ => .error (.refused (.vertexId v))

/-- What stands for a key of weights where edges are not merged. -/
def noWeightKey : String := "_"

end Parameters

open Parameters

namespace Op

/-- The parameters of an operation. -/
def parameters : Op → List Parameter
  | transform | filter | sideEffect => [⟨"element", true⟩, ⟨"closure", true⟩]
  | identity | verticesMap | edgesMap => []
  | vertexMap => [⟨"ids", true⟩]
  | verticesVertices | verticesEdges => [⟨"direction", true⟩, ⟨"labels", false⟩]
  | edgesVertices => [⟨"direction", true⟩]
  | propertyMap => [⟨"element", true⟩, ⟨"key", true⟩]
  | pathMap | duplicateFilter | count => [⟨"element", true⟩]
  | propertyFilter =>
    [⟨"element", true⟩, ⟨"key", true⟩, ⟨"compare", true⟩, ⟨"values", true⟩,
      ⟨"null_wildcard", false⟩]
  | intervalFilter =>
    [⟨"element", true⟩, ⟨"key", true⟩, ⟨"start", true⟩, ⟨"end", true⟩, ⟨"null_wildcard", false⟩]
  | backFilter => [⟨"element", true⟩, ⟨"step", true⟩]
  | link =>
    [⟨"step", true⟩, ⟨"direction", true⟩, ⟨"label", true⟩, ⟨"merge_weight_key", false⟩]
  | commitEdges | commitVertices => [⟨"action", true⟩]
  | valueDistribution => [⟨"element", true⟩, ⟨"property", true⟩]
  | groupCount => [⟨"element", true⟩, ⟨"key_closure", true⟩, ⟨"value_closure", false⟩]

/-- The name that a call of the operation goes by. -/
def callName : Op → String
  | filter => "filter_map"
  | op => op.name

/-- An element class and a closure. -/
def elementClosureFields (a : Arguments) : Fields := do
  let element ← elementField (a.valueD "element" .null)
  let closure ← closureField "closure" (a.valueD "closure" .null)
  return [("class", element), ("closure", closure)]

/-- A direction and labels. -/
def stepFields (a : Arguments) : Fields := do
  let direction ← directionField (a.valueD "direction" .null)
  let labels := (members (a.valueD "labels" (.list []))).map Value.plain
  return [("direction", direction), ("labels", commas labels)]

/-- An element class alone. -/
def elementFields (a : Arguments) : Fields := do
  return [("class", ← elementField (a.valueD "element" .null))]

/-- What becomes of elements. -/
def actionFields (a : Arguments) : Fields := do
  return [("action", ← actionField (a.valueD "action" .null))]

/-- A property that is emitted. -/
def propertyMapFields (a : Arguments) : Fields := do
  let key := a.valueD "key" .null
  require .noPropertyKey key
  let element ← elementField (a.valueD "element" .null)
  return [("class", element), ("key", textField key)]

/-- A property that is compared with values of one class. -/
def propertyFilterFields (a : Arguments) : Fields := do
  let values := members (a.valueD "values" .null)
  match values with
  | [] => .error (.refused .noValues)
  | first :: rest =>
    let c ← valueClass first
    checkClasses c rest
    let comparison ← comparisonField (a.valueD "compare" .null)
    let element ← elementField (a.valueD "element" .null)
    return [("class", element), ("key", textField (a.valueD "key" .null)),
      ("compare", comparison), ("values", commas (values.map comparand)),
      ("valueClass", .text c.name),
      ("nullWildcard", .text (flag (a.valueD "null_wildcard" (.bool false)).truthy))]

/-- A property that lies between bounds of one class. -/
def intervalFilterFields (a : Arguments) : Fields := do
  let start := a.valueD "start" .null
  let stop := a.valueD "end" .null
  let c ← valueClass start
  let c₂ ← valueClass stop
  if c₂ ≠ c then .error (.refused .mixedBounds)
  let element ← elementField (a.valueD "element" .null)
  -- a bound that is too large for a double is noticed only here
  let low ← bound start
  let high ← bound stop
  return [("class", element), ("key", textField (a.valueD "key" .null)),
    ("valueClass", .text c.name), ("startValue", .text low), ("endValue", .text high),
    ("nullWildcard", .text (flag (a.valueD "null_wildcard" (.bool false)).truthy))]

/-- Elements seen some steps earlier. -/
def backFilterFields (a : Arguments) : Fields := do
  let step ← stepField (a.valueD "step" .null)
  let element ← elementField (a.valueD "element" .null)
  return [("class", element), ("step", step)]

/-- Edges to elements seen some steps earlier. With a key for weights, edges that are the same are
merged and counted. -/
def linkFields (a : Arguments) : Fields := do
  let step ← stepField (a.valueD "step" .null)
  let label := a.valueD "label" .null
  require .noLabel label
  let direction ← directionField (a.valueD "direction" .null)
  let weightKey := a.valueD "merge_weight_key" .null
  let merged := weightKey ≠ .null
  return [("step", step), ("direction", direction), ("label", textField label),
    ("mergeDuplicates", .text (flag merged)),
    ("mergeWeightKey", if merged then textField weightKey else .text noWeightKey)]

/-- A property whose values are counted. -/
def valueDistributionFields (a : Arguments) : Fields := do
  let property := a.valueD "property" .null
  require .noProperty property
  let element ← elementField (a.valueD "element" .null)
  return [("class", element), ("property", textField property)]

/-- Closures for keys and for values to be summed. -/
def groupCountFields (a : Arguments) : Fields := do
  let element ← elementField (a.valueD "element" .null)
  let key ← closureField "key_closure" (a.valueD "key_closure" .null)
  let value := a.valueD "value_closure" .null
  if value = .null then return [("class", element), ("keyFunction", key)]
  else
    let value ← closureField "value_closure" value
    return [("class", element), ("keyFunction", key), ("valueFunction", value)]

/-- The fields of an operation's configuration. -/
def fields (a : Arguments) : Op → Fields
  | transform | filter | sideEffect => elementClosureFields a
  | identity | verticesMap | edgesMap => .ok []
  | vertexMap => do return [("ids", commas (← vertexIds (members (a.valueD "ids" .null))))]
  | verticesVertices | verticesEdges => stepFields a
  | edgesVertices => do return [("direction", ← directionField (a.valueD "direction" .null))]
  | propertyMap => propertyMapFields a
  | pathMap | duplicateFilter | count => elementFields a
  | propertyFilter => propertyFilterFields a
  | intervalFilter => intervalFilterFields a
  | backFilter => backFilterFields a
  | link => linkFields a
  | commitEdges | commitVertices => actionFields a
  | valueDistribution => valueDistributionFields a
  | groupCount => groupCountFields a

end Op

theorem Parameters.elementField_vertex : elementField (.text "vertex") = .ok (.text "vertex") := by
  rfl

end StageChain
