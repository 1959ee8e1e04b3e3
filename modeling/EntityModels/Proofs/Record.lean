import EntityModels.Proofs.Lists
import EntityModels.Record

/-!
The look-up view of records: every operation is described by what it does to `get?` and to the order
of the `keys`.
-/
namespace EntityModels

/-- A pair under a new key goes to the end. -/
theorem putEntry_of_notMem {α : Type} {key : String} (value : α) {entries : List (String × α)}
    (h : key ∉ entries.map (·.1)) : putEntry key value entries = entries ++ [(key, value)] := by
  induction entries with
  | nil => rfl
  | cons entry rest ih =>
    obtain ⟨k, v⟩ := entry
    simp only [List.map_cons, List.mem_cons, not_or] at h
    have hne : k ≠ key := fun e => h.1 e.symm
    simp only [putEntry, hne, if_false, ih h.2, List.cons_append]

namespace Record

variable {α : Type}

theorem keys_nodup (r : Record α) : r.keys.Nodup := r.distinct

/-- Records with the same pairs in the same order are the same. -/
theorem eq_of_entries_eq {r r' : Record α} (h : r.entries = r'.entries) : r = r' := by
  cases r
  cases r'
  congr

/-- The first value under a key in a list of pairs. -/
def firstOf (pairs : List (String × α)) (k : String) : Option α :=
  (pairs.find? fun pair => pair.1 = k).map (·.2)

theorem firstOf_cons (pair : String × α) (rest : List (String × α)) (k : String) :
    firstOf (pair :: rest) k = if pair.1 = k then some pair.2 else firstOf rest k := by
  by_cases h : pair.1 = k <;> simp [firstOf, h]

theorem firstOf_putEntry (key : String) (value : α) (pairs : List (String × α)) (k : String) :
    firstOf (putEntry key value pairs) k = if k = key then some value else firstOf pairs k := by
  induction pairs with
  | nil =>
    rw [putEntry, firstOf_cons]
    exact if_congr eq_comm rfl rfl
  | cons pair rest ih =>
    obtain ⟨name, v⟩ := pair
    by_cases h : name = key
    · subst h
      rw [putEntry, if_pos rfl, firstOf_cons, firstOf_cons]
      by_cases hk : name = k
      · simp [hk]
      · have hk' : k ≠ name := fun e => hk e.symm
        simp [hk, hk']
    · rw [putEntry, if_neg h, firstOf_cons, firstOf_cons, ih]
      by_cases hk : k = key
      · have hname : name ≠ k := fun e => h (e.trans hk)
        simp [hk, hk ▸ hname]
      · simp [hk]

theorem firstOf_eq_none_iff {pairs : List (String × α)} {k : String} :
    firstOf pairs k = none ↔ k ∉ pairs.map (·.1) := by
  induction pairs with
  | nil => simp [firstOf]
  | cons pair rest ih =>
    by_cases h : pair.1 = k
    · simp [firstOf_cons, h]
    · simp only [firstOf_cons, h, if_false, ih, List.map_cons, List.mem_cons, not_or]
      exact ⟨fun hr => ⟨fun e => h e.symm, hr⟩, fun hr => hr.2⟩

/-- Where the keys are distinct, the first value under a key is the only one. -/
theorem firstOf_eq_some_iff {pairs : List (String × α)} (hd : (pairs.map (·.1)).Nodup)
    {k : String} {v : α} : firstOf pairs k = some v ↔ (k, v) ∈ pairs := by
  rw [firstOf, Option.map_eq_some_iff]
  simp only [find?_eq_some_iff_of_nodup hd]
  constructor
  · rintro ⟨⟨_, _⟩, ⟨hmem, rfl⟩, rfl⟩
    exact hmem
  · intro hmem
    exact ⟨(k, v), ⟨hmem, rfl⟩, rfl⟩

theorem get?_insert (r : Record α) (key : String) (value : α) (k : String) :
    (r.insert key value).get? k = if k = key then some value else r.get? k :=
  firstOf_putEntry key value r.entries k

theorem get?_eq_none_iff {r : Record α} {k : String} : r.get? k = none ↔ k ∉ r.keys :=
  firstOf_eq_none_iff

theorem get?_eq_some_iff {r : Record α} {k : String} {v : α} :
    r.get? k = some v ↔ (k, v) ∈ r.entries :=
  firstOf_eq_some_iff r.distinct

theorem mem_keys_iff {r : Record α} {k : String} : k ∈ r.keys ↔ ∃ v, r.get? k = some v := by
  rw [← Option.isSome_iff_exists, ← Option.ne_none_iff_isSome, ne_eq, get?_eq_none_iff,
    Decidable.not_not]

theorem mem_keys_insert (r : Record α) (key : String) (value : α) (k : String) :
    k ∈ (r.insert key value).keys ↔ k ∈ r.keys ∨ k = key := by
  rw [keys_insert]
  by_cases h : key ∈ r.keys
  · rw [if_pos h]
    constructor
    · exact Or.inl
    · intro hk
      rcases hk with hk | rfl
      · exact hk
      · exact h
  · rw [if_neg h, List.mem_append, List.mem_singleton]

theorem length_keys (r : Record α) : r.keys.length = r.size := by
  simp [keys, size]

theorem get?_erase (r : Record α) (key k : String) :
    (r.erase key).get? k = if k = key then none else r.get? k := by
  by_cases h : k = key
  · rw [if_pos h, get?_eq_none_iff]
    simp [keys, erase, h]
  · rw [if_neg h]
    apply Option.ext
    intro v
    rw [get?_eq_some_iff, get?_eq_some_iff]
    simp [erase, h]

/-- Pairs under distinct keys, put in turn, cover what the record held under their keys. -/
theorem get?_foldl_insert (pairs : List (String × α)) (hd : (pairs.map (·.1)).Nodup)
    (r : Record α) (k : String) :
    (pairs.foldl (fun r pair => r.insert pair.1 pair.2) r).get? k =
      (firstOf pairs k).or (r.get? k) := by
  induction pairs generalizing r with
  | nil => rfl
  | cons pair rest ih =>
    rw [List.map_cons, List.nodup_cons] at hd
    obtain ⟨hfresh, hrest⟩ := hd
    rw [List.foldl_cons, ih hrest, get?_insert, firstOf_cons]
    by_cases h : pair.1 = k
    · -- a key put again later would not be distinct
      have hnone : firstOf rest k = none := firstOf_eq_none_iff.mpr (h ▸ hfresh)
      simp [h, hnone]
    · have hne : k ≠ pair.1 := fun e => h e.symm
      simp [h, hne]

/-- The new keys come behind the old ones, in the order of the pairs. -/
theorem keys_foldl_insert (pairs : List (String × α)) (hd : (pairs.map (·.1)).Nodup)
    (r : Record α) :
    (pairs.foldl (fun r pair => r.insert pair.1 pair.2) r).keys =
      r.keys ++ (pairs.map (·.1)).filter (· ∉ r.keys) := by
  induction pairs generalizing r with
  | nil => simp
  | cons pair rest ih =>
    rw [List.map_cons, List.nodup_cons] at hd
    obtain ⟨hfresh, hrest⟩ := hd
    rw [List.foldl_cons, ih hrest, keys_insert, List.map_cons, List.filter_cons]
    by_cases h : pair.1 ∈ r.keys
    · simp [h]
    · -- the key is put at the end now, and no later pair has it
      have hcongr : (rest.map (·.1)).filter (· ∉ r.keys ++ [pair.1]) =
          (rest.map (·.1)).filter (· ∉ r.keys) := by
        apply List.filter_congr
        intro k hk
        have hne : k ≠ pair.1 := fun e => hfresh (e ▸ hk)
        simp [hne]
      rw [if_neg h, hcongr, if_pos (by simpa using h), List.append_assoc, List.singleton_append]

/-- Pairs whose keys are all new are put behind those of the record. -/
theorem entries_foldl_insert (pairs : List (String × α)) (hd : (pairs.map (·.1)).Nodup)
    (r : Record α) (hr : ∀ k ∈ pairs.map (·.1), k ∉ r.keys) :
    (pairs.foldl (fun r pair => r.insert pair.1 pair.2) r).entries = r.entries ++ pairs := by
  induction pairs generalizing r with
  | nil => simp
  | cons pair rest ih =>
    rw [List.map_cons, List.nodup_cons] at hd
    obtain ⟨hfresh, hrest⟩ := hd
    have hnew : pair.1 ∉ r.keys := hr pair.1 (by simp)
    have hlater : ∀ k ∈ rest.map (·.1), k ∉ (r.insert pair.1 pair.2).keys := by
      intro k hk
      have hne : k ≠ pair.1 := fun e => hfresh (e ▸ hk)
      have hold : k ∉ r.keys := hr k (List.mem_cons_of_mem _ hk)
      simp [keys_insert, hnew, hold, hne]
    rw [List.foldl_cons, ih hrest _ hlater, entries_insert, putEntry_of_notMem _ hnew,
      List.append_assoc, List.singleton_append]

/-- Pairs under distinct keys are kept as they are. -/
theorem entries_ofList {pairs : List (String × α)} (hd : (pairs.map (·.1)).Nodup) :
    (ofList pairs).entries = pairs :=
  entries_foldl_insert pairs hd empty (by simp [keys, empty])

theorem keys_ofList {pairs : List (String × α)} (hd : (pairs.map (·.1)).Nodup) :
    (ofList pairs).keys = pairs.map (·.1) := by
  rw [keys, entries_ofList hd]

/-- The pairs that are put win over those that were there. -/
theorem get?_insertAll (r other : Record α) (k : String) :
    (r.insertAll other).get? k = (other.get? k).or (r.get? k) :=
  get?_foldl_insert other.entries other.distinct r k

theorem keys_insertAll (r other : Record α) :
    (r.insertAll other).keys = r.keys ++ other.keys.filter (· ∉ r.keys) :=
  keys_foldl_insert other.entries other.distinct r

section Map

variable {β : Type}

/-- The record with every value changed under its key. -/
def map (f : α → β) (r : Record α) : Record β where
  entries := r.entries.map fun entry => (entry.1, f entry.2)
  distinct := by
    rw [List.map_map]
    exact r.distinct

theorem values_map (f : α → β) (r : Record α) : (r.map f).values = r.values.map f := by
  rw [values, values, map, List.map_map, List.map_map]
  rfl

theorem putEntry_map (f : α → β) (key : String) (value : α) (entries : List (String × α)) :
    putEntry key (f value) (entries.map fun entry => (entry.1, f entry.2)) =
      (putEntry key value entries).map fun entry => (entry.1, f entry.2) := by
  induction entries with
  | nil => rfl
  | cons entry rest ih =>
    by_cases h : entry.1 = key <;> simp [putEntry, h, ih]

theorem insert_map (f : α → β) (r : Record α) (key : String) (value : α) :
    (r.map f).insert key (f value) = (r.insert key value).map f :=
  eq_of_entries_eq (putEntry_map f key value r.entries)

/-- A record of changed values is the changed record. -/
theorem ofList_map (f : α → β) (pairs : List (String × α)) :
    ofList (pairs.map fun pair => (pair.1, f pair.2)) = (ofList pairs).map f := by
  have hfoldl : ∀ r : Record α,
      (pairs.map fun pair => (pair.1, f pair.2)).foldl (fun r pair => r.insert pair.1 pair.2)
        (r.map f) = (pairs.foldl (fun r pair => r.insert pair.1 pair.2) r).map f := by
    induction pairs with
    | nil => exact fun r => rfl
    | cons pair rest ih =>
      intro r
      rw [List.map_cons, List.foldl_cons, List.foldl_cons, insert_map, ih]
  exact hfoldl empty

end Map

/-- Sorting by key forgets the order of pairs whose keys are distinct. -/
theorem sortEntries_eq_of_perm {pairs pairs' : List (String × α)}
    (hd : (pairs.map (·.1)).Nodup) (h : pairs.Perm pairs') :
    sortEntries pairs = sortEntries pairs' := by
  have htrans : ∀ a b c : String × α, decide (a.1 ≤ b.1) = true → decide (b.1 ≤ c.1) = true →
      decide (a.1 ≤ c.1) = true := by
    simp only [decide_eq_true_eq]
    exact fun a b c hab hbc => String.le_trans hab hbc
  have htotal : ∀ a b : String × α, (decide (a.1 ≤ b.1) || decide (b.1 ≤ a.1)) = true := by
    simp only [Bool.or_eq_true, decide_eq_true_eq]
    exact fun a b => String.le_total a.1 b.1
  have hperm : (sortEntries pairs).Perm (sortEntries pairs') :=
    (List.mergeSort_perm pairs _).trans (h.trans (List.mergeSort_perm pairs' _).symm)
  refine List.Perm.eq_of_pairwise ?_ (List.pairwise_mergeSort htrans htotal pairs)
    (List.pairwise_mergeSort htrans htotal pairs') hperm
  -- pairs that could stand either way round have one key, and no key is there twice
  intro a b ha hb hab hba
  have hkey : a.1 = b.1 := String.le_antisymm (of_decide_eq_true hab) (of_decide_eq_true hba)
  exact List.inj_on_of_nodup_map hd (List.mem_mergeSort.mp ha)
    (h.mem_iff.mpr (List.mem_mergeSort.mp hb)) hkey

/-- Records with the same look-up differ only in the order of their keys. -/
theorem sortedEntries_eq {r r' : Record α} (h : ∀ k, r.get? k = r'.get? k) :
    r.sortedEntries = r'.sortedEntries := by
  have hmem : ∀ entry, entry ∈ r.entries ↔ entry ∈ r'.entries := by
    intro entry
    rw [← get?_eq_some_iff (r := r), ← get?_eq_some_iff (r := r'), h]
  have hperm := (List.perm_ext_iff_of_nodup (List.Nodup.of_map _ r.distinct)
    (List.Nodup.of_map _ r'.distinct)).mpr hmem
  exact sortEntries_eq_of_perm r.distinct hperm

end Record

end EntityModels
