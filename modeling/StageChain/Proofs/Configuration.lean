import Mathlib.Data.List.Nodup
import StageChain.Pipeline.Wiring

/-!
# Reading a stage's configuration

The configuration of a stage is a flat table. An operation's entries are told apart from all others
by the decimal position behind their keys, so they can be read back from the table alone.

* `indexedKey_inj`: a key with a position behind it determines both.
* `Table.entries_insertAll`: entries under new keys are put in behind the others.
* `nodup_configurationEntries`: **no entry of a plan takes the place of another one.**
* `entriesAt_stageConfiguration`: **the entries of the operation at a position** are read back
  through the properties that were put in.
-/

namespace StageChain

namespace Table

universe u v

variable {κ : Type u} {α : Type v} [DecidableEq κ]

theorem put_of_not_mem {k : κ} {v : α} {es : List (κ × α)} (h : k ∉ es.map Prod.fst) :
    put k v es = es ++ [(k, v)] := by
  induction es with
  | nil => rfl
  | cons e es ih =>
    rw [List.map_cons, List.mem_cons, not_or] at h
    rw [put, if_neg (Ne.symm h.1), ih h.2, List.cons_append]

/-- Entries under new keys are put in behind the others. -/
theorem entries_insertAll {t : Table κ α} {es : List (κ × α)} (hn : (es.map Prod.fst).Nodup)
    (h : ∀ k ∈ es.map Prod.fst, k ∉ t.keys) : (t.insertAll es).entries = t.entries ++ es := by
  induction es generalizing t with
  | nil => simp [insertAll]
  | cons e es ih =>
    rw [List.map_cons, List.nodup_cons] at hn
    have hput : (t.insert e.1 e.2).entries = t.entries ++ [e] :=
      put_of_not_mem (h e.1 (by simp))
    have hfresh : ∀ k ∈ es.map Prod.fst, k ∉ (t.insert e.1 e.2).keys := by
      intro k hk
      rw [mem_keys_insert, not_or]
      exact ⟨fun he => hn.1 (he ▸ hk), h k (by simp [hk])⟩
    have := ih hn.2 hfresh
    rw [hput, List.append_assoc] at this
    exact this

theorem contains_iff_mem_keys {t : Table κ α} {k : κ} : t.contains k = true ↔ k ∈ t.keys := by
  simp [contains, keys]

/-- An entry is found under its key. -/
theorem get?_of_mem {t : Table κ α} {k : κ} {v : α} (h : (k, v) ∈ t.entries) :
    t.get? k = some v := by
  obtain ⟨before, after, he⟩ := List.append_of_mem h
  have hn := t.nodup
  rw [he, List.map_append, List.nodup_append] at hn
  rw [get?, List.lookup_eq_some_iff]
  refine ⟨before, after, he, fun e hb => ?_⟩
  have hne := hn.2.2 e.1 (List.mem_map_of_mem hb) k (by simp)
  simpa using Ne.symm hne

theorem get?_eq_none {t : Table κ α} {k : κ} (h : k ∉ t.keys) : t.get? k = none := by
  rw [get?, List.lookup_eq_none_iff]
  rintro e he
  have hne : e.1 ≠ k := fun hk => h (hk ▸ List.mem_map_of_mem he)
  simpa using Ne.symm hne

theorem mem_entries_iff {t : Table κ α} {k : κ} {v : α} :
    (k, v) ∈ t.entries ↔ t.get? k = some v := by
  refine ⟨get?_of_mem, fun h => ?_⟩
  obtain ⟨before, after, hentries, -⟩ := List.lookup_eq_some_iff.1 h
  rw [hentries]
  simp

theorem mem_keys_iff {t : Table κ α} {k : κ} : k ∈ t.keys ↔ t.get? k ≠ none := by
  refine ⟨fun hk => ?_, fun hsome => Decidable.byContradiction fun hk => hsome (get?_eq_none hk)⟩
  obtain ⟨e, he, rfl⟩ := List.mem_map.1 hk
  rw [get?_of_mem he]
  simp

theorem entries_ofList {es : List (κ × α)} (hn : (es.map Prod.fst).Nodup) :
    (ofList es).entries = es := by
  rw [ofList, entries_insertAll hn (by simp)]; rfl

end Table

/-- No name of an operation holds a comma. -/
theorem Op.comma_not_mem_name (op : Op) : ',' ∉ op.name.toList := by
  cases op <;> decide

namespace Plan

/-- The names of the operations are what stands between the commas. -/
theorem split_operationNames (p : Plan) :
    ((",".intercalate p.operationNames).split ',').toList.map (·.copy) = p.operationNames := by
  have hne : p.operationNames ≠ [] := by simp [operationNames, p.operations_ne_nil]
  have := String.toList_split_intercalate (c := ',') (l := p.operationNames) (by
    intro n hn
    obtain ⟨d, -, rfl⟩ := List.mem_map.1 hn
    exact d.op.comma_not_mem_name)
  rwa [if_neg hne] at this

/-- Whether a key ends in a hyphen and decimal digits. -/
def endsInPosition (key : String) : Bool :=
  let cs := key.toList.reverse
  !(cs.takeWhile Char.isDigit).isEmpty && (cs.dropWhile Char.isDigit).head? == some '-'

/-- The key before a position behind it. -/
def keyAt? (position : Nat) (key : String) : Option String :=
  (key.toList.dropSuffix? ('-' :: Nat.toDigits 10 position)).map String.ofList

/-- The entries with a position behind their keys, under the keys before it. -/
def entriesAt {α : Type} (position : Nat) (es : List (String × α)) : List (String × α) :=
  es.filterMap fun e => (keyAt? position e.1).map (·, e.2)

theorem isDigit_of_mem_toDigits {c : Char} {n : Nat} (h : c ∈ Nat.toDigits 10 n) :
    c.isDigit = true := Nat.isDigit_of_mem_toDigits (by decide) (by decide) h

theorem toList_indexedKey (key : String) (i : Nat) :
    (indexedKey key i).toList = key.toList ++ '-' :: Nat.toDigits 10 i := by
  simp [indexedKey, String.toList_append]

/-- The last digits of characters that end in a hyphen and digits are these digits. -/
theorem takeWhile_reverse {cs ds : List Char} (h : ∀ c ∈ ds, c.isDigit = true) :
    (cs ++ '-' :: ds).reverse.takeWhile Char.isDigit = ds.reverse := by
  have hr : (cs ++ '-' :: ds).reverse = ds.reverse ++ '-' :: cs.reverse := by simp
  rw [hr, List.takeWhile_append_of_pos fun c hc => h c (List.mem_reverse.1 hc)]
  simp

theorem endsInPosition_indexedKey (key : String) (i : Nat) :
    endsInPosition (indexedKey key i) = true := by
  have hd : ∀ c ∈ Nat.toDigits 10 i, c.isDigit = true := fun c => isDigit_of_mem_toDigits
  have hr : (indexedKey key i).toList.reverse
      = (Nat.toDigits 10 i).reverse ++ '-' :: key.toList.reverse := by
    rw [toList_indexedKey]; simp
  rw [endsInPosition, toList_indexedKey, takeWhile_reverse hd, ← toList_indexedKey, hr,
    List.dropWhile_append_of_pos fun c hc => hd c (List.mem_reverse.1 hc)]
  simp [Nat.toDigits_ne_nil]

theorem toDigits_inj {i j : Nat} (h : Nat.toDigits 10 i = Nat.toDigits 10 j) : i = j := by
  calc
    i = Nat.ofDigitChars 10 (Nat.toDigits 10 i) 0 := Nat.ofDigitChars_ten_toDigits.symm
    _ = Nat.ofDigitChars 10 (Nat.toDigits 10 j) 0 := by rw [h]
    _ = j := Nat.ofDigitChars_ten_toDigits

/-- **A key with a position behind it determines both.** -/
theorem indexedKey_inj {k l : String} {i j : Nat} (h : indexedKey k i = indexedKey l j) :
    k = l ∧ i = j := by
  have h := congrArg String.toList h
  rw [toList_indexedKey, toList_indexedKey] at h
  have hds : Nat.toDigits 10 i = Nat.toDigits 10 j := by
    have := congrArg (fun cs => cs.reverse.takeWhile Char.isDigit) h
    rw [takeWhile_reverse fun c => isDigit_of_mem_toDigits,
      takeWhile_reverse fun c => isDigit_of_mem_toDigits] at this
    exact List.reverse_inj.1 this
  rw [hds] at h
  exact ⟨String.toList_inj.1 (List.append_cancel_right h), toDigits_inj hds⟩

theorem keyAt?_eq_some_iff {i : Nat} {key k : String} :
    keyAt? i key = some k ↔ key = indexedKey k i := by
  rw [keyAt?, Option.map_eq_some_iff, ← String.toList_inj, toList_indexedKey]
  constructor
  · rintro ⟨cs, hcs, rfl⟩
    obtain ⟨s, hs, he⟩ := List.dropSuffix?_eq_some_iff.1 hcs
    rw [hs, eq_of_beq he, String.toList_ofList]
  · intro h
    exact ⟨k.toList, List.dropSuffix?_eq_some_iff.2 ⟨_, h, beq_self_eq_true _⟩,
      String.ofList_toList⟩

theorem keyAt?_indexedKey_self (k : String) (i : Nat) : keyAt? i (indexedKey k i) = some k :=
  keyAt?_eq_some_iff.2 rfl

theorem keyAt?_indexedKey_of_ne {i j : Nat} (h : j ≠ i) (k : String) :
    keyAt? i (indexedKey k j) = none := by
  rw [Option.eq_none_iff_forall_ne_some]
  intro l hl
  exact h (indexedKey_inj (keyAt?_eq_some_iff.1 hl)).2

theorem keyAt?_eq_none {key : String} (h : endsInPosition key = false) (i : Nat) :
    keyAt? i key = none := by
  rw [Option.eq_none_iff_forall_ne_some]
  intro k hk
  rw [keyAt?_eq_some_iff.1 hk, endsInPosition_indexedKey] at h
  exact absurd h (by decide)

section Entries

variable {α β : Type} {es es' : List (String × α)} {i : Nat}

theorem entriesAt_append :
    entriesAt i (es ++ es') = entriesAt i es ++ entriesAt i es' := List.filterMap_append ..

theorem entriesAt_eq_nil (h : ∀ e ∈ es, endsInPosition e.1 = false) : entriesAt i es = [] := by
  rw [entriesAt, List.filterMap_eq_nil_iff]
  intro e he
  rw [keyAt?_eq_none (h e he)]; rfl

theorem entriesAt_map (f : α → β) :
    entriesAt i (es.map fun e => (e.1, f e.2)) = (entriesAt i es).map fun e => (e.1, f e.2) := by
  rw [entriesAt, entriesAt, List.filterMap_map, List.map_filterMap]
  congr 1
  funext e
  cases h : keyAt? i e.1 <;> simp [h]

theorem entriesAt_indexed_self :
    entriesAt i (es.map fun e => (indexedKey e.1 i, e.2)) = es := by
  rw [entriesAt, List.filterMap_map]
  simp [keyAt?_indexedKey_self]

theorem entriesAt_indexed_of_ne {j : Nat} (h : j ≠ i) :
    entriesAt i (es.map fun e => (indexedKey e.1 j, e.2)) = [] := by
  rw [entriesAt, List.filterMap_map, List.filterMap_eq_nil_iff]
  intro e _
  simp [keyAt?_indexedKey_of_ne h]

end Entries

/-- The keys that a stage reads for itself. -/
def reservedKeys : List String :=
  [classesKey, mapOutputKeys.1, mapOutputKeys.2, outputKeys.1, outputKeys.2, reduceKey, combineKey]

/-- Whether a key is one that a stage reads. -/
def isStageKey (key : String) : Bool := reservedKeys.contains key || endsInPosition key

theorem nodup_reservedKeys : reservedKeys.Nodup := by decide

theorem endsInPosition_of_reserved {k : String} (h : k ∈ reservedKeys) :
    endsInPosition k = false := by
  revert k
  decide

section Operations

variable {ds : List Descriptor} {i j : Nat}

theorem mem_keys_operationEntries {k : String}
    (h : k ∈ (operationEntries i ds).map Prod.fst) : ∃ l j, i ≤ j ∧ k = indexedKey l j := by
  induction ds generalizing i with
  | nil => simp [operationEntries] at h
  | cons d ds ih =>
    rw [operationEntries, List.map_append, List.mem_append] at h
    rcases h with h | h
    · rw [List.map_map, List.mem_map] at h
      obtain ⟨e, -, rfl⟩ := h
      exact ⟨e.1, i, Nat.le_refl i, rfl⟩
    · obtain ⟨l, j, hj, hk⟩ := ih h
      exact ⟨l, j, by omega, hk⟩

theorem nodup_operationEntries : ((operationEntries i ds).map Prod.fst).Nodup := by
  induction ds generalizing i with
  | nil => simp [operationEntries]
  | cons d ds ih =>
    rw [operationEntries, List.map_append, List.nodup_append]
    refine ⟨?_, ih, ?_⟩
    · have hm : (d.config.entries.map fun e => (indexedKey e.1 i, e.2)).map Prod.fst
          = d.config.keys.map (indexedKey · i) := by simp [Table.keys]
      rw [hm]
      exact d.config.nodup.map fun a b h => (indexedKey_inj h).1
    · -- the positions of the later operations are larger
      rintro a ha b hb rfl
      obtain ⟨l, j, hj, hl⟩ := mem_keys_operationEntries hb
      rw [List.map_map, List.mem_map] at ha
      obtain ⟨e, -, he⟩ := ha
      have := (indexedKey_inj (he.trans hl)).2
      omega

/-- The entries at a position are those of the operation there, and none behind the last one. -/
theorem entriesAt_operationEntries : entriesAt (j + i) (operationEntries j ds)
    = (ds[i]?).elim [] (·.config.entries) := by
  induction ds generalizing i j with
  | nil => rfl
  | cons d ds ih =>
    rw [operationEntries, entriesAt_append]
    cases i with
    | zero =>
      have hrest : entriesAt j (operationEntries (j + 1) ds) = [] := by
        rw [entriesAt, List.filterMap_eq_nil_iff]
        intro e he
        obtain ⟨l, m, hm, hk⟩ := mem_keys_operationEntries (List.mem_map_of_mem he)
        rw [hk, keyAt?_indexedKey_of_ne (by omega)]; rfl
      rw [Nat.add_zero, entriesAt_indexed_self, hrest, List.append_nil]; rfl
    | succ i =>
      rw [entriesAt_indexed_of_ne (by omega), List.nil_append,
        show j + (i + 1) = j + 1 + i by omega, ih, List.getElem?_cons_succ]

/-- There is one entry for each entry of an operation. -/
theorem length_operationEntries :
    (operationEntries i ds).length = (ds.flatMap (·.config.entries)).length := by
  induction ds generalizing i with
  | nil => rfl
  | cons d ds ih =>
    rw [operationEntries, List.length_append, List.length_map, ih, List.flatMap_cons,
      List.length_append]

end Operations

section

variable (p : Plan)

/-- The keys of a plan's own entries, in the order in which they are put. -/
theorem keys_configurationEntries : p.configurationEntries.map Prod.fst
    = [classesKey, mapOutputKeys.1, mapOutputKeys.2, outputKeys.1, outputKeys.2]
      ++ (operationEntries 0 p.operations).map Prod.fst
      ++ (p.grouping.toList.map fun _ => reduceKey) ++ p.combiner.toList.map fun _ => combineKey := by
  simp [configurationEntries, schemaEntries, Function.comp_def]

theorem sublist_singleton {α β : Type} (o : Option α) (b : β) :
    (o.toList.map fun _ => b).Sublist [b] := by
  cases o <;> simp

/-- **No entry of a plan takes the place of another one.** -/
theorem nodup_configurationEntries : (p.configurationEntries.map Prod.fst).Nodup := by
  set own := [classesKey, mapOutputKeys.1, mapOutputKeys.2, outputKeys.1, outputKeys.2] with hown
  set ops := (operationEntries 0 p.operations).map Prod.fst with hops
  have hsub : (p.configurationEntries.map Prod.fst).Sublist
      (own ++ ops ++ ([reduceKey] ++ [combineKey])) := by
    rw [keys_configurationEntries, List.append_assoc]
    exact (List.Sublist.refl _).append
      ((sublist_singleton p.grouping reduceKey).append (sublist_singleton p.combiner combineKey))
  have hperm : (own ++ ops ++ ([reduceKey] ++ [combineKey])).Perm (ops ++ reservedKeys) := by
    have hswap : (own ++ ops).Perm (ops ++ own) := List.perm_append_comm
    have := hswap.append_right ([reduceKey] ++ [combineKey])
    rwa [List.append_assoc ops] at this
  refine (hperm.nodup_iff.2 ?_).sublist hsub
  rw [List.nodup_append]
  refine ⟨nodup_operationEntries, nodup_reservedKeys, ?_⟩
  rintro k hk l hl rfl
  obtain ⟨m, j, -, rfl⟩ := mem_keys_operationEntries hk
  have := endsInPosition_of_reserved hl
  rw [endsInPosition_indexedKey] at this
  exact absurd this (by decide)

theorem entries_configuration : p.configuration.entries = p.configurationEntries :=
  Table.entries_ofList p.nodup_configurationEntries

/-- The entries of the operation at a position, read back from those of the plan. -/
theorem entriesAt_configurationEntries (i : Nat) : entriesAt i p.configurationEntries
    = (p.operations[i]?).elim [] (·.config.entries) := by
  have hown : entriesAt i ((classesKey, ConfigValue.text (",".intercalate p.operationNames))
      :: schemaEntries mapOutputKeys p.mapOutput ++ schemaEntries outputKeys p.output) = [] := by
    apply entriesAt_eq_nil
    intro e he
    apply endsInPosition_of_reserved
    simp only [schemaEntries, List.mem_append, List.mem_cons, List.not_mem_nil, or_false] at he
    rcases he with (rfl | rfl | rfl) | rfl | rfl <;> simp [reservedKeys]
  have hnamed {α : Type} (o : Option α) (v : α → ConfigValue) {k : String} (hk : k ∈ reservedKeys) :
      entriesAt i (o.toList.map fun a => (k, v a)) = [] := by
    apply entriesAt_eq_nil
    intro e he
    obtain ⟨a, -, rfl⟩ := List.mem_map.1 he
    exact endsInPosition_of_reserved hk
  rw [configurationEntries, entriesAt_append, entriesAt_append, entriesAt_append, hown,
    hnamed _ _ (by decide), hnamed _ _ (by decide), List.append_nil, List.append_nil,
    List.nil_append]
  simpa using @entriesAt_operationEntries p.operations i 0

/-- A key that a stage reads for itself is in the configuration of every plan, but for those of the
grouping operation and the combiner. -/
theorem mem_keys_iff_of_reserved {k : String} (hk : k ∈ reservedKeys) :
    k ∈ p.configurationEntries.map Prod.fst ↔
      k ∈ [classesKey, mapOutputKeys.1, mapOutputKeys.2, outputKeys.1, outputKeys.2] ∨
      (p.grouping.isSome = true ∧ k = reduceKey) ∨ (p.combiner.isSome = true ∧ k = combineKey) := by
  have hops : k ∉ (operationEntries 0 p.operations).map Prod.fst := by
    intro h
    obtain ⟨l, j, -, rfl⟩ := mem_keys_operationEntries h
    have := endsInPosition_of_reserved hk
    rw [endsInPosition_indexedKey] at this
    exact absurd this (by decide)
  have hnamed (o : Option Descriptor) (key : String) :
      k ∈ (o.toList.map fun _ => key) ↔ o.isSome = true ∧ k = key := by
    cases o <;> simp
  rw [keys_configurationEntries, List.mem_append, List.mem_append, List.mem_append,
    or_iff_left hops, hnamed, hnamed, or_assoc]

/-- There is a name under the key of the grouping operation exactly if there is one. -/
theorem reduceKey_mem_iff :
    reduceKey ∈ p.configurationEntries.map Prod.fst ↔ p.grouping.isSome = true := by
  have hown : reduceKey ∉
      [classesKey, mapOutputKeys.1, mapOutputKeys.2, outputKeys.1, outputKeys.2] := by decide
  have hcombine : reduceKey ≠ combineKey := by decide
  rw [mem_keys_iff_of_reserved p (by decide)]
  simp [hown, hcombine]

/-- There is a name under the key of the combiner exactly if there is one. -/
theorem combineKey_mem_iff :
    combineKey ∈ p.configurationEntries.map Prod.fst ↔ p.combiner.isSome = true := by
  have hown : combineKey ∉
      [classesKey, mapOutputKeys.1, mapOutputKeys.2, outputKeys.1, outputKeys.2] := by decide
  have hreduce : combineKey ≠ reduceKey := by decide
  rw [mem_keys_iff_of_reserved p (by decide)]
  simp [hown, hreduce]

theorem isStageKey_of_mem {k : String} (h : k ∈ p.configurationEntries.map Prod.fst) :
    isStageKey k = true := by
  rw [keys_configurationEntries] at h
  simp only [List.mem_append, List.mem_map] at h
  rw [isStageKey, Bool.or_eq_true, List.contains_iff_mem]
  rcases h with ((h | h) | ⟨-, -, rfl⟩) | ⟨-, -, rfl⟩
  · exact .inl (List.mem_append_left [reduceKey, combineKey] h)
  · obtain ⟨l, j, -, rfl⟩ := mem_keys_operationEntries (List.mem_map.2 h)
    exact .inr (endsInPosition_indexedKey l j)
  · exact .inl (by decide)
  · exact .inl (by decide)

end

end Plan

namespace Wiring

open Plan

variable {properties : Table String Value} {p : Plan}

theorem entries_mapValues {κ α β : Type} (t : Table κ α) (f : α → β) :
    (t.mapValues f).entries = t.entries.map fun e => (e.1, f e.2) := rfl

/-- Properties that are none of a stage's keys stand behind the plan's own entries. -/
theorem entries_stageConfiguration (h : ∀ k ∈ properties.keys, isStageKey k = false) :
    (stageConfiguration properties p).entries
      = p.configurationEntries.map (fun e => (e.1, e.2.toValue)) ++ properties.entries := by
  have hfresh : ∀ k ∈ properties.entries.map Prod.fst,
      k ∉ (p.configuration.mapValues ConfigValue.toValue).keys := by
    intro k hk hm
    rw [Table.keys_mapValues, Table.keys, entries_configuration] at hm
    have hs := p.isStageKey_of_mem hm
    rw [h k hk] at hs
    exact absurd hs (by decide)
  rw [stageConfiguration, Table.entries_insertAll properties.nodup hfresh, entries_mapValues,
    entries_configuration]

/-- **The entries of the operation at a position**, read back from the configuration of a stage. -/
theorem entriesAt_stageConfiguration (h : ∀ k ∈ properties.keys, isStageKey k = false) {i : Nat}
    {d : Descriptor} (hd : p.operations[i]? = some d) :
    entriesAt i (stageConfiguration properties p).entries
      = d.config.entries.map fun e => (e.1, e.2.toValue) := by
  have hp : entriesAt i properties.entries = [] := by
    apply entriesAt_eq_nil
    intro e he
    have := h e.1 (List.mem_map_of_mem he)
    rw [isStageKey, Bool.or_eq_false_iff] at this
    exact this.2
  rw [entries_stageConfiguration h, entriesAt_append, hp, List.append_nil, entriesAt_map,
    p.entriesAt_configurationEntries i, hd]; rfl

/-- The names of the operations stand under the first key. -/
theorem get?_classesKey (h : ∀ k ∈ properties.keys, isStageKey k = false) :
    (stageConfiguration properties p).get? classesKey
      = some (.text (",".intercalate p.operationNames)) := by
  rw [Table.get?, entries_stageConfiguration h, configurationEntries]
  simp [ConfigValue.toValue]

/-- The grouping operation is named exactly if there is one. -/
theorem contains_reduceKey (h : ∀ k ∈ properties.keys, isStageKey k = false) :
    (stageConfiguration properties p).contains reduceKey = p.grouping.isSome := by
  have hp : reduceKey ∉ properties.entries.map Prod.fst := by
    intro hm
    exact absurd (h _ hm) (by decide)
  rw [Bool.eq_iff_iff, Table.contains_iff_mem_keys, Table.keys, entries_stageConfiguration h,
    List.map_append, List.mem_append, or_iff_left hp, List.map_map]
  exact p.reduceKey_mem_iff

end Wiring

end StageChain
