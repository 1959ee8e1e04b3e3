import EntityModels.Proofs.Instance.Tracking

/-!
Equality of instances up to the order of keys. Where values and dirty bits go together, instances of
one chain with the same values are the same.
-/
namespace EntityModels

/-- A set is decided by its bits, since they are kept in ascending order. -/
theorem DirtySet.eq_of_contains {s t : DirtySet}
    (h : ∀ x, s.contains x = true ↔ t.contains x = true) : s = t := by
  have hmem : ∀ x, x ∈ s.bits ↔ x ∈ t.bits := by
    intro x
    simpa [contains] using h x
  have hperm : s.bits.Perm t.bits :=
    (List.perm_ext_iff_of_nodup (s.ascending.imp Nat.ne_of_lt)
      (t.ascending.imp Nat.ne_of_lt)).mpr hmem
  have hbits : s.bits = t.bits := by
    refine List.Perm.eq_of_pairwise ?_ s.ascending t.ascending hperm
    intro a b _ _ hab hba
    exact absurd hba (Nat.lt_asymm hab)
  obtain ⟨bits, _⟩ := s
  obtain ⟨bits', _⟩ := t
  obtain rfl : bits = bits' := hbits
  rfl

/-- Instances are the same when they agree on every property and on the bits of every class. -/
theorem Instance.same_of_get? {a b : Instance} (hentity : a.entity = b.entity)
    (hvalues : ∀ property, a.get? property = b.get? property)
    (hdirty : ∀ owner, a.dirtyBits? owner = b.dirtyBits? owner) : a.same b = true := by
  have hsorted : a.sortedValues = b.sortedValues := by
    rw [sortedValues, sortedValues, Record.sortedEntries_eq hvalues]
  have howners : a.dirty.sortedEntries = b.dirty.sortedEntries :=
    Record.sortedEntries_eq hdirty
  simp [same, hentity, hsorted, howners]

namespace Chain.Tracks

variable {ch : Chain} {values values' : Record Json} {dirty dirty' : Record DirtySet}

/-- The dirty bits of a class can be read off the properties that have a value. -/
theorem contains_iff (h : ch.Tracks values dirty) (hn : ch.Numbering) {m : Model}
    (hm : m ∈ ch.levels) {x : Nat} :
    (dirtyUnder dirty m.entity).contains x = true ↔
      ∃ property ∈ values.keys, m.modelClass.dirtyBits.get? property = some x := by
  constructor
  · intro hdirty
    obtain ⟨property, hslot⟩ := h.bits m hm x hdirty
    exact ⟨property, (h.mem_keys_iff hn hm hslot).mpr hdirty, hslot⟩
  · intro hkey
    obtain ⟨property, hproperty, hslot⟩ := hkey
    exact (h.mem_keys_iff hn hm hslot).mp hproperty

/-- Where values and bits go together, the keys of the values decide the bits. -/
theorem dirty_eq (h : ch.Tracks values dirty) (h' : ch.Tracks values' dirty') (hn : ch.Numbering)
    (hkeys : ∀ property, property ∈ values.keys ↔ property ∈ values'.keys) (owner : String) :
    dirty.get? owner = dirty'.get? owner := by
  by_cases howner : owner ∈ ch.levels.map (·.entity)
  · obtain ⟨m, hm, rfl⟩ := List.mem_map.mp howner
    obtain ⟨bits, hbits⟩ := Record.mem_keys_iff.mp (h.owners ▸ howner)
    obtain ⟨bits', hbits'⟩ := Record.mem_keys_iff.mp (h'.owners ▸ howner)
    have hunder : dirtyUnder dirty m.entity = bits := by
      rw [dirtyUnder, hbits]
      rfl
    have hunder' : dirtyUnder dirty' m.entity = bits' := by
      rw [dirtyUnder, hbits']
      rfl
    have heq : bits = bits' := by
      apply DirtySet.eq_of_contains
      intro x
      rw [← hunder, ← hunder', h.contains_iff hn hm, h'.contains_iff hn hm]
      simp only [hkeys]
    rw [hbits, hbits', heq]
  · rw [Record.get?_eq_none_iff.mpr (h.owners ▸ howner),
      Record.get?_eq_none_iff.mpr (h'.owners ▸ howner)]

/-- Instances of one chain with the same values have the same dirty bits, so they are the same. -/
theorem same_of_values {a b : Instance} (ha : ch.Tracks a.values a.dirty)
    (hb : ch.Tracks b.values b.dirty) (hn : ch.Numbering) (hentity : a.entity = b.entity)
    (hvalues : ∀ property, a.get? property = b.get? property) : a.same b = true := by
  have hkeys : ∀ property, property ∈ a.values.keys ↔ property ∈ b.values.keys := by
    intro property
    have hget : a.values.get? property = b.values.get? property := hvalues property
    rw [Record.mem_keys_iff, Record.mem_keys_iff, hget]
  exact Instance.same_of_get? hentity hvalues (dirty_eq ha hb hn hkeys)

end Chain.Tracks

end EntityModels
