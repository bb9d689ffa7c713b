/-!
# Tables

A table holds one value for each of its keys and keeps the order in which the keys were put in. A
value put under a key that is there takes the place of the old one.

* `get?_insert`: what a table holds after a value was put in.
* `mem_keys_insert`, `mem_keys_ofList`: which keys a table has.
* `get?_filterKeys`: what it holds after entries were taken out.
* `keys_erase`: the order of the other keys outlives a removal.
-/

namespace StageChain

universe u v w

/-- Values under distinct keys, in order. -/
structure Table (κ : Type u) (α : Type v) where
  entries : List (κ × α)
  nodup : (entries.map Prod.fst).Nodup

namespace Table

variable {κ : Type u} {α : Type v} {β : Type w}

/-- The entries with a value put under a key. -/
def put [DecidableEq κ] (k : κ) (v : α) : List (κ × α) → List (κ × α)
  | [] => [(k, v)]
  | e :: es => if e.1 = k then (k, v) :: es else e :: put k v es

theorem mem_keys_put [DecidableEq κ] {k k' : κ} {v : α} {es : List (κ × α)} :
    k' ∈ (put k v es).map Prod.fst ↔ k' = k ∨ k' ∈ es.map Prod.fst := by
  induction es with
  | nil => simp [put]
  | cons e es ih =>
    unfold put
    split
    · next h => simp [h]
    · simp only [List.map_cons, List.mem_cons, ih]
      constructor <;> rintro (h | h | h) <;> simp [h]

theorem nodup_put [DecidableEq κ] {k : κ} {v : α} {es : List (κ × α)}
    (h : (es.map Prod.fst).Nodup) : ((put k v es).map Prod.fst).Nodup := by
  induction es with
  | nil => simp [put]
  | cons e es ih =>
    rw [List.map_cons, List.nodup_cons] at h
    unfold put
    split
    · next hk => simpa [← hk] using h
    · next hk =>
      rw [List.map_cons, List.nodup_cons, mem_keys_put]
      exact ⟨by simp [hk, h.1], ih h.2⟩

/-- The table without entries. -/
def empty : Table κ α := ⟨[], List.nodup_nil⟩

instance : Inhabited (Table κ α) := ⟨empty⟩

instance [DecidableEq κ] [DecidableEq α] : DecidableEq (Table κ α) := fun a b =>
  decidable_of_iff (a.entries = b.entries) ⟨fun h => by cases a; cases b; simp_all, fun h => h ▸ rfl⟩

/-- The keys in order. -/
def keys (t : Table κ α) : List κ := t.entries.map Prod.fst

/-- The number of entries. -/
def size (t : Table κ α) : Nat := t.entries.length

section

variable [DecidableEq κ]

/-- Puts a value under a key. -/
def insert (t : Table κ α) (k : κ) (v : α) : Table κ α := ⟨put k v t.entries, nodup_put t.nodup⟩

/-- Puts the entries of a list in, one after the other. -/
def insertAll (t : Table κ α) (es : List (κ × α)) : Table κ α :=
  es.foldl (fun t e => t.insert e.1 e.2) t

/-- The table that a list of entries makes. -/
def ofList (es : List (κ × α)) : Table κ α := empty.insertAll es

/-- The value under a key. -/
def get? (t : Table κ α) (k : κ) : Option α := t.entries.lookup k

/-- Whether there is a value under a key. -/
def contains (t : Table κ α) (k : κ) : Bool := t.entries.any (·.1 = k)

end

/-- The entries whose key satisfies a test. -/
def filterKeys (t : Table κ α) (p : κ → Bool) : Table κ α where
  entries := t.entries.filter fun e => p e.1
  nodup := t.nodup.sublist (List.filter_sublist.map _)

/-- The table without a key. -/
def erase [DecidableEq κ] (t : Table κ α) (k : κ) : Table κ α := t.filterKeys (· ≠ k)

/-- The same keys with other values. -/
def mapValues (t : Table κ α) (f : α → β) : Table κ β where
  entries := t.entries.map fun e => (e.1, f e.2)
  nodup := by simpa [Function.comp_def] using t.nodup

@[simp] theorem keys_empty : (empty : Table κ α).keys = [] := rfl

@[simp] theorem keys_mapValues (t : Table κ α) (f : α → β) : (t.mapValues f).keys = t.keys := by
  simp [keys, mapValues, Function.comp_def]

theorem mem_keys_insert [DecidableEq κ] {t : Table κ α} {k k' : κ} {v : α} :
    k' ∈ (t.insert k v).keys ↔ k' = k ∨ k' ∈ t.keys := mem_keys_put

theorem mem_keys_insertAll [DecidableEq κ] {t : Table κ α} {es : List (κ × α)} {k : κ} :
    k ∈ (t.insertAll es).keys ↔ k ∈ t.keys ∨ k ∈ es.map Prod.fst := by
  unfold insertAll
  induction es generalizing t with
  | nil => simp
  | cons e es ih =>
    rw [List.foldl_cons, ih, mem_keys_insert, List.map_cons, List.mem_cons, or_assoc,
      or_left_comm]

theorem mem_keys_ofList [DecidableEq κ] {es : List (κ × α)} {k : κ} :
    k ∈ (ofList es).keys ↔ k ∈ es.map Prod.fst := by
  simp [ofList, mem_keys_insertAll]

theorem lookup_put [DecidableEq κ] (k k' : κ) (v : α) (es : List (κ × α)) :
    (put k v es).lookup k' = if k' = k then some v else es.lookup k' := by
  have ne_beq {a b : κ} (h : a ≠ b) : (a == b) = false := by simp [h]
  induction es with
  | nil => by_cases hk : k' = k <;> simp [put, List.lookup_cons, hk, ne_beq]
  | cons e es ih =>
    obtain ⟨l, w⟩ := e
    by_cases hl : l = k
    · subst hl
      by_cases hk : k' = l <;> simp [put, List.lookup_cons, hk, ne_beq]
    · by_cases hk : k' = l
      · subst hk
        simp [put, hl]
      · simp [put, hl, List.lookup_cons, ne_beq hk, ih]

theorem get?_insert [DecidableEq κ] (t : Table κ α) (k k' : κ) (v : α) :
    (t.insert k v).get? k' = if k' = k then some v else t.get? k' := lookup_put k k' v t.entries

theorem get?_filterKeys [DecidableEq κ] (t : Table κ α) (p : κ → Bool) (k : κ) :
    (t.filterKeys p).get? k = if p k then t.get? k else none := by
  have ne_beq {a b : κ} (h : a ≠ b) : (a == b) = false := by simp [h]
  show (t.entries.filter fun e => p e.1).lookup k = if p k then t.entries.lookup k else none
  induction t.entries with
  | nil => simp
  | cons e es ih =>
    obtain ⟨l, w⟩ := e
    by_cases hk : k = l
    · subst hk
      cases hp : p k with
      | true => simp [hp]
      | false => rw [List.filter_cons_of_neg (by simp [hp]), ih]; simp [hp]
    · cases hl : p l with
      | true =>
        rw [List.filter_cons_of_pos (by simp [hl]), List.lookup_cons, List.lookup_cons, ih]
        simp [ne_beq hk]
      | false =>
        rw [List.filter_cons_of_neg (by simp [hl]), List.lookup_cons, ih]
        simp [ne_beq hk]

theorem keys_erase [DecidableEq κ] (t : Table κ α) (k : κ) :
    (t.erase k).keys = t.keys.filter (· ≠ k) := by
  simp [keys, erase, filterKeys, List.filter_map, Function.comp_def]

end Table

end StageChain
