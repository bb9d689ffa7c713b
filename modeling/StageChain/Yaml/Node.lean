import StageChain.Yaml.Token

/-!
# The structure of a YAML text

The tokens of a text form a tree of scalars, lists and mappings. A text holds one document at most;
a second one is an error. Where a value may stand and none does, there is an empty plain scalar.

* `ofTokens?_nil`: a text without tokens has no document.
-/

namespace StageChain.Yaml

/-- A node of a document. -/
inductive Node where
  | scalar (plain : Bool) (text : List Char)
  | list (items : List Node)
  | map (entries : List (Node × Node))
  deriving Inhabited

namespace Node

/-- What stands where nothing is written. -/
def empty : Node := scalar true []

mutual

/-- A node that starts here, and the tokens after it. `block` allows blocks, and `flat` a list whose
hyphens are indented no further than the key before it. -/
def read? : (fuel : Nat) → (block flat : Bool) → List Token → Option (Node × List Token)
  | 0, _, _, _ => none
  | fuel + 1, block, flat, ts => match ts with
    | .entry :: _ => if flat then (flatItems? fuel ts).map fun (ns, ts) => (list ns, ts) else none
    | .scalar plain text :: ts => some (scalar plain text, ts)
    | .listOpen :: ts => (members? fuel true ts).map fun (ns, ts) => (list ns, ts)
    | .mapOpen :: ts => (fields? fuel true ts).map fun (es, ts) => (map es, ts)
    | .blockList :: ts =>
      if block then (blockItems? fuel ts).map fun (ns, ts) => (list ns, ts) else none
    | .blockMap :: ts =>
      if block then (blockEntries? fuel ts).map fun (es, ts) => (map es, ts) else none
    | _ => none

/-- A node, unless one of the tokens comes next that stand after it. -/
def readUnless? : (fuel : Nat) → (stop : List Token) → (block flat : Bool) → List Token →
    Option (Node × List Token)
  | 0, _, _, _, _ => none
  | fuel + 1, stop, block, flat, ts =>
    match ts with
    | [] => none
    | t :: _ => if stop.contains t then some (empty, ts) else read? fuel block flat ts

/-- The members of a list in a block, and what follows its end. -/
def blockItems? : (fuel : Nat) → List Token → Option (List Node × List Token)
  | 0, _ => none
  | fuel + 1, ts => match ts with
    | .entry :: ts => do
      let (n, ts) ← readUnless? fuel [.entry, .blockEnd] true false ts
      let (ns, ts) ← blockItems? fuel ts
      return (n :: ns, ts)
    | .blockEnd :: ts => some ([], ts)
    | _ => none

/-- The members of a list that has no block of its own, and what follows them. -/
def flatItems? : (fuel : Nat) → List Token → Option (List Node × List Token)
  | 0, _ => none
  | fuel + 1, ts => match ts with
    | .entry :: ts => do
      let (n, ts) ← readUnless? fuel [.entry, .key, .value, .blockEnd] true false ts
      let (ns, ts) ← flatItems? fuel ts
      return (n :: ns, ts)
    | ts => some ([], ts)

/-- The entries of a mapping in a block, and what follows its end. -/
def blockEntries? : (fuel : Nat) → List Token → Option (List (Node × Node) × List Token)
  | 0, _ => none
  | fuel + 1, ts => match ts with
    | .key :: ts => do
      let (k, ts) ← readUnless? fuel [.key, .value, .blockEnd] true true ts
      let (v, ts) ← blockValue? fuel ts
      let (es, ts) ← blockEntries? fuel ts
      return ((k, v) :: es, ts)
    | .blockEnd :: ts => some ([], ts)
    | _ => none

/-- The value of an entry in a block. -/
def blockValue? : (fuel : Nat) → List Token → Option (Node × List Token)
  | 0, _ => none
  | fuel + 1, ts => match ts with
    | .value :: ts => readUnless? fuel [.key, .value, .blockEnd] true true ts
    | ts => some (empty, ts)

/-- The members of a list between brackets, and what follows the closing one. -/
def members? : (fuel : Nat) → (first : Bool) → List Token → Option (List Node × List Token)
  | 0, _, _ => none
  | fuel + 1, first, ts => match ts with
    | .listClose :: ts => some ([], ts)
    | _ => do
      let ts ← if first then some ts else match ts with
        | .comma :: ts => some ts
        | _ => none
      match ts with
      | .listClose :: ts => return ([], ts)
      | .key :: ts =>
        let (k, ts) ← readUnless? fuel [.value, .comma, .listClose] false false ts
        let (v, ts) ← flowValue? fuel .listClose ts
        let (ns, ts) ← members? fuel false ts
        return (map [(k, v)] :: ns, ts)
      | ts =>
        let (n, ts) ← read? fuel false false ts
        let (ns, ts) ← members? fuel false ts
        return (n :: ns, ts)

/-- The entries of a mapping between brackets, and what follows the closing one. -/
def fields? : (fuel : Nat) → (first : Bool) → List Token →
    Option (List (Node × Node) × List Token)
  | 0, _, _ => none
  | fuel + 1, first, ts => match ts with
    | .mapClose :: ts => some ([], ts)
    | _ => do
      let ts ← if first then some ts else match ts with
        | .comma :: ts => some ts
        | _ => none
      match ts with
      | .mapClose :: ts => return ([], ts)
      | .key :: ts =>
        let (k, ts) ← readUnless? fuel [.value, .comma, .mapClose] false false ts
        let (v, ts) ← flowValue? fuel .mapClose ts
        let (es, ts) ← fields? fuel false ts
        return ((k, v) :: es, ts)
      | ts =>
        let (k, ts) ← read? fuel false false ts
        let (es, ts) ← fields? fuel false ts
        return ((k, empty) :: es, ts)

/-- The value of an entry between brackets. -/
def flowValue? : (fuel : Nat) → (close : Token) → List Token → Option (Node × List Token)
  | 0, _, _ => none
  | fuel + 1, close, ts => match ts with
    | .value :: ts => readUnless? fuel [.comma, close] false false ts
    | ts => some (empty, ts)

end

/-- A document that starts here, and the tokens after it. -/
def document? (fuel : Nat) : List Token → Option (Node × List Token)
  | [] => some (empty, [])
  | .documentStart :: ts => some (empty, .documentStart :: ts)
  | .documentEnd :: ts => some (empty, .documentEnd :: ts)
  | ts => read? fuel true false ts

/-- The document that the tokens form: `none` where they form none, `some none` where there is no
document at all. A document may follow a line of hyphens, and lines of points may follow it. -/
def ofTokens? (ts : List Token) : Option (Option Node) := do
  let fuel := 4 * ts.length + 4
  let finish (found : Node × List Token) : Option (Option Node) :=
    if found.2.all (· == .documentEnd) then some (some found.1) else none
  match ts with
  | [] => some none
  | .documentStart :: ts => finish (← document? fuel ts)
  | ts => finish (← read? fuel true false ts)

theorem ofTokens?_nil : ofTokens? [] = some none := rfl

end Node

end StageChain.Yaml
