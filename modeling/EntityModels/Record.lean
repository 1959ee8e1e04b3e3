/-!
Records hold values under distinct text keys, in the order in which the keys were first put.
The view of a record is its look-up `get?` together with its list of `keys`.
-/
namespace EntityModels

/-- Writes `value` under `key`: in place if the key is there, at the end if it is not. -/
def putEntry {α : Type} (key : String) (value : α) : List (String × α) → List (String × α)
  | [] => [(key, value)]
  | (k, v) :: rest => if k = key then (k, value) :: rest else (k, v) :: putEntry key value rest

theorem map_fst_putEntry {α : Type} (key : String) (value : α) (entries : List (String × α)) :
    (putEntry key value entries).map (·.1) =
      if key ∈ entries.map (·.1) then entries.map (·.1) else entries.map (·.1) ++ [key] := by
  induction entries with
  | nil => simp [putEntry]
  | cons entry rest ih =>
    obtain ⟨k, v⟩ := entry
    by_cases h : k = key
    · simp [putEntry, h]
    · have h' : key ≠ k := fun e => h e.symm
      simp only [putEntry, h, if_false, List.map_cons, ih, List.mem_cons, h', false_or]
      split <;> simp

def sortEntries {α : Type} (entries : List (String × α)) : List (String × α) :=
  entries.mergeSort fun a b => a.1 ≤ b.1

/-- Values under distinct keys, in the order in which the keys were first put. -/
structure Record (α : Type) where
  entries : List (String × α)
  distinct : (entries.map (·.1)).Nodup

namespace Record

variable {α β : Type}

def keys (r : Record α) : List String := r.entries.map (·.1)

def values (r : Record α) : List α := r.entries.map (·.2)

def size (r : Record α) : Nat := r.entries.length

def empty : Record α := ⟨[], List.nodup_nil⟩

instance : Inhabited (Record α) := ⟨empty⟩

instance : EmptyCollection (Record α) := ⟨empty⟩

def get? (r : Record α) (key : String) : Option α :=
  (r.entries.find? fun entry => entry.1 = key).map (·.2)

def contains (r : Record α) (key : String) : Bool := (r.get? key).isSome

/-- Puts a value under a key. A key that was there keeps its place. -/
def insert (r : Record α) (key : String) (value : α) : Record α where
  entries := putEntry key value r.entries
  distinct := by
    rw [map_fst_putEntry]
    by_cases hold : key ∈ r.entries.map (·.1)
    · rw [if_pos hold]
      exact r.distinct
    · rw [if_neg hold]
      have hnew : ∀ k ∈ r.entries.map (·.1), ∀ k' ∈ [key], k ≠ k' := by
        intro k hk k' hk' heq
        obtain rfl := List.mem_singleton.mp hk'
        exact hold (heq ▸ hk)
      exact List.nodup_append.mpr ⟨r.distinct, List.pairwise_singleton _ key, hnew⟩

/-- Takes a key and its value out; the others keep their order. -/
def erase (r : Record α) (key : String) : Record α where
  entries := r.entries.filter (·.1 ≠ key)
  distinct := (List.filter_sublist.map _).nodup r.distinct

/-- The pairs sorted by their keys. Records with the same sorted pairs differ only in order. -/
def sortedEntries (r : Record α) : List (String × α) := sortEntries r.entries

/-- Puts the pairs of a list in turn. -/
def ofList (pairs : List (String × α)) : Record α :=
  pairs.foldl (fun r pair => r.insert pair.1 pair.2) empty

/-- Puts the pairs of `other` into `r` in turn. -/
def insertAll (r other : Record α) : Record α :=
  other.entries.foldl (fun r pair => r.insert pair.1 pair.2) r

@[simp] theorem entries_insert (r : Record α) (key : String) (value : α) :
    (r.insert key value).entries = putEntry key value r.entries := rfl

theorem keys_insert (r : Record α) (key : String) (value : α) :
    (r.insert key value).keys = if key ∈ r.keys then r.keys else r.keys ++ [key] :=
  map_fst_putEntry key value r.entries

end Record

end EntityModels
