import StageChain.Number.Double
import StageChain.Text.Hex

/-!
# Values

What settings, parameters and scripts hold: null, truth values, whole numbers of any size, double
precision numbers, texts, byte strings, lists, and mappings that keep the order of their entries.
What a caller has made itself, or a reader makes of a date, is *foreign*: it may print as anything
and may even equal a text without being one. Values are finite, to be equal is an equivalence, and
to ask a value for its text, its truth or its members never fails. A text holds characters only: half
of a surrogate pair is none.

The keys of a mapping are told apart by what they denote: a whole number, a double precision number
and a truth value are the same key if they are numerically equal, and a text is the same key as
whatever equals it. A key written again keeps its first place and its first spelling and takes the
new value.

* `Value.sameKey_text_iff`: what is the same key as a text equals it.
* `Value.field?_insertEntry_self`: a text key is found where it was put.
-/

namespace StageChain

/-- What a value of a foreign kind shows of itself. It has no fields, is no number and is empty or
not as it says. -/
structure Foreign where
  /-- What messages call its kind. -/
  kind : String
  /-- It as running text. -/
  plain : String
  /-- It as it stands inside a list. -/
  quoted : String
  truthy : Bool
  /-- Whether it can be looked up. -/
  isKey : Bool
  /-- Whether it has members. -/
  isIterable : Bool
  /-- The text that it equals, which need not be what it prints as. -/
  equals : Option String
  deriving DecidableEq, Repr, Inhabited

/-- A value of a setting, a parameter or a script. -/
inductive Value where
  | null
  | bool (b : Bool)
  | int (i : Int)
  | float (d : Double)
  | text (s : String)
  | bytes (b : Text.Bytes)
  | list (items : List Value)
  | map (entries : List (Value × Value))
  /-- A value of a foreign kind, with its members. -/
  | other (self : Foreign) (members : List Value)
  deriving Inhabited

namespace Value

mutual

/-- Whether two values are the same, entry by entry. -/
def same : Value → Value → Bool
  | null, null => true
  | bool a, bool b => a == b
  | int a, int b => a == b
  | float a, float b => a == b
  | text a, text b => a == b
  | bytes a, bytes b => a == b
  | list a, list b => sameItems a b
  | map a, map b => sameEntries a b
  | other a as, other b bs => a == b && sameItems as bs
  | _, _ => false

/-- Whether two lists hold the same values in the same order. -/
def sameItems : List Value → List Value → Bool
  | [], [] => true
  | a :: as, b :: bs => same a b && sameItems as bs
  | _, _ => false

/-- Whether two mappings hold the same entries in the same order. -/
def sameEntries : List (Value × Value) → List (Value × Value) → Bool
  | [], [] => true
  | (k, a) :: as, (l, b) :: bs => same k l && same a b && sameEntries as bs
  | _, _ => false

end

mutual

theorem same_iff : ∀ {a b : Value}, same a b = true ↔ a = b
  | null, b => by cases b <;> simp [same]
  | bool a, b => by cases b <;> simp [same]
  | int a, b => by cases b <;> simp [same]
  | float a, b => by cases b <;> simp [same]
  | text a, b => by cases b <;> simp [same]
  | bytes a, b => by cases b <;> simp [same]
  | list a, b => by cases b <;> simp [same, sameItems_iff]
  | map a, b => by cases b <;> simp [same, sameEntries_iff]
  | other a as, b => by cases b <;> simp [same, sameItems_iff]

theorem sameItems_iff : ∀ {as bs : List Value}, sameItems as bs = true ↔ as = bs
  | [], bs => by cases bs <;> simp [sameItems]
  | a :: as, [] => by simp [sameItems]
  | a :: as, b :: bs => by simp [sameItems, @same_iff a b, @sameItems_iff as bs]

theorem sameEntries_iff : ∀ {as bs : List (Value × Value)}, sameEntries as bs = true ↔ as = bs
  | [], bs => by cases bs <;> simp [sameEntries]
  | a :: as, [] => by simp [sameEntries]
  | (k, a) :: as, (l, b) :: bs => by
    simp [sameEntries, @same_iff k l, @same_iff a b, @sameEntries_iff as bs, and_assoc]

end

instance : DecidableEq Value := fun a b =>
  if h : same a b = true then isTrue (same_iff.1 h) else isFalse (fun e => h (same_iff.2 e))

/-- What messages call the kind of a value. -/
def kindName : Value → String
  | null => "NoneType"
  | bool _ => "bool"
  | int _ => "int"
  | float _ => "float"
  | text _ => "str"
  | bytes _ => "bytes"
  | list _ => "list"
  | map _ => "dict"
  | other self _ => self.kind

/-- Null, zeros and everything empty count as false, and a foreign value as it says. -/
def truthy : Value → Bool
  | null => false
  | bool b => b
  | int i => i != 0
  | float d => !d.isZero
  | text s => s != ""
  | bytes b => !b.isEmpty
  | list items => !items.isEmpty
  | map entries => !entries.isEmpty
  | other self _ => self.truthy

/-- Whether the value can be a key: lists and mappings cannot. -/
def isKey : Value → Bool
  | list _ | map _ => false
  | other self _ => self.isKey
  | _ => true

/-- The text that a value equals. -/
def text? : Value → Option String
  | text s => some s
  | other self _ => self.equals
  | _ => none

/-- The whole number that a value is numerically equal to. -/
def number? : Value → Option Int
  | bool b => some (if b then 1 else 0)
  | int i => some i
  | float d => d.toInt?
  | _ => none

/-- Whether two values are the same key. -/
def sameKey (a b : Value) : Bool :=
  match a.number?, b.number? with
  | some m, some n => m == n
  | none, none => match a.text?, b.text? with
    | some s, some t => s == t
    | none, none => same a b
    | _, _ => false
  | _, _ => false

/-- Entries with one more, put in the place of the entry with the same key if there is one. -/
def insertEntry (key value : Value) : List (Value × Value) → List (Value × Value)
  | [] => [(key, value)]
  | (k, v) :: es =>
    -- the first spelling of a key stays
    if sameKey k key then (k, value) :: es else (k, v) :: insertEntry key value es

/-- The entries that a list of them amounts to when each is put in turn. -/
def collect (es : List (Value × Value)) : List (Value × Value) :=
  es.foldl (fun acc e => insertEntry e.1 e.2 acc) []

/-- The value under a text key. -/
def field? (name : String) : List (Value × Value) → Option Value
  | [] => none
  | (k, v) :: es => if k.text? = some name then some v else field? name es

/-- A mapping with text keys. -/
def object (fields : List (String × Value)) : Value := map (fields.map fun f => (text f.1, f.2))

/-- A whole number that counts something. -/
def nat (n : Nat) : Value := int n

/-- A list of texts. -/
def texts (ss : List String) : Value := list (ss.map text)

/-- The value inside, or null. -/
def ofOption : Option Value → Value
  | some v => v
  | none => null

@[simp] theorem text?_text (s : String) : (text s).text? = some s := rfl

theorem sameKey_text_iff {k : Value} {name : String} :
    sameKey k (text name) = true ↔ k.text? = some name := by
  cases k with
  | text s => simp [sameKey, number?]
  | other self items => cases h : self.equals <;> simp [sameKey, number?, text?, h]
  | float d => cases h : d.toInt? <;> simp [sameKey, number?, text?, h]
  | _ => simp [sameKey, number?, text?]

theorem field?_insertEntry_self (name : String) (v : Value) (es : List (Value × Value)) :
    field? name (insertEntry (text name) v es) = some v := by
  induction es with
  | nil => simp [insertEntry, field?]
  | cons e es ih =>
    obtain ⟨k, w⟩ := e
    by_cases h : k.text? = some name
    · simp [insertEntry, sameKey_text_iff.2 h, field?, h]
    · simp [insertEntry, mt sameKey_text_iff.1 h, field?, h, ih]

end Value

end StageChain
