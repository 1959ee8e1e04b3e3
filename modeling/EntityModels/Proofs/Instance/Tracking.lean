import EntityModels.Proofs.Instance.Merge

/-!
Values and dirty bits that go together. An edit that uses the slot of its property keeps them so,
and with them a merge never has to make a value up.
-/
namespace EntityModels

/-- There are dirty bits for the classes of the chain only, of the bits that the class gives out,
and the properties with a value are those whose bit is dirty. -/
structure Chain.Tracks (ch : Chain) (values : Record Json) (dirty : Record DirtySet) : Prop where
  owners : dirty.keys = ch.levels.map (·.entity)
  bits : ∀ m ∈ ch.levels, ∀ x, (dirtyUnder dirty m.entity).contains x = true →
    ∃ property, m.modelClass.dirtyBits.get? property = some x
  keys : ∀ property, property ∈ values.keys ↔ ∃ m ∈ ch.levels, ∃ bit,
    m.modelClass.dirtyBits.get? property = some bit ∧
      (dirtyUnder dirty m.entity).contains bit = true

namespace Builder

/-- Edits add the properties that they are about. -/
theorem mem_keys_values_edit (b : Builder) (es : List Edit) (property : String) :
    property ∈ (b.edit es).values.keys ↔
      property ∈ b.values.keys ∨ ∃ e ∈ es, e.property = property := by
  induction es generalizing b with
  | nil => simp
  | cons e es ih =>
    have hmark : property ∈ (b.mark e.owner e.bit e.property e.value).values.keys ↔
        property ∈ b.values.keys ∨ e.property = property := by
      rw [mark, Record.mem_keys_insert]
      exact or_congr_right eq_comm
    rw [edit_cons, ih, hmark]
    simp only [List.mem_cons, exists_eq_or_imp]
    exact or_assoc

end Builder

namespace Chain

variable {ch : Chain} {values : Record Json} {dirty : Record DirtySet}

/-- A slotted edit with the slot of a property is an edit of the property. -/
theorem Slotted.property_eq (hn : ch.Numbering) {e : Edit} (h : ch.Slotted e) {m : Model}
    (hm : m ∈ ch.levels) {property : String}
    (hslot : m.modelClass.dirtyBits.get? property = some e.bit) (howner : e.owner = m.entity) :
    e.property = property := by
  obtain ⟨m', hm', howner', hslot'⟩ := h
  obtain rfl : m' = m := hn.owner_inj hm' hm (howner'.symm.trans howner)
  exact hn.name_unique hm hslot' hslot

namespace Tracks

/-- A property has a value exactly if its bit is dirty under the one class that numbers it. -/
theorem mem_keys_iff (h : ch.Tracks values dirty) (hn : ch.Numbering) {m : Model}
    (hm : m ∈ ch.levels) {property : String} {bit : Nat}
    (hslot : m.modelClass.dirtyBits.get? property = some bit) :
    property ∈ values.keys ↔ (dirtyUnder dirty m.entity).contains bit = true := by
  constructor
  · intro hkey
    obtain ⟨m', hm', bit', hslot', hdirty⟩ := (h.keys property).mp hkey
    obtain rfl : m' = m := hn.level_unique hm' hm (Record.mem_keys_iff.mpr ⟨bit', hslot'⟩)
      (Record.mem_keys_iff.mpr ⟨bit, hslot⟩)
    obtain rfl : bit' = bit := Option.some.inj (hslot'.symm.trans hslot)
    exact hdirty
  · intro hdirty
    exact (h.keys property).mpr ⟨m, hm, bit, hslot, hdirty⟩

theorem ofChain (hn : ch.Numbering) :
    ch.Tracks (Builder.ofChain ch).values (Builder.ofChain ch).dirty := by
  have hclean : ∀ owner x,
      ¬ (dirtyUnder (Builder.ofChain ch).dirty owner).contains x = true := by
    intro owner x hx
    rw [Builder.dirtyUnder_ofChain hn] at hx
    exact Bool.false_ne_true hx
  refine ⟨Builder.keys_dirty_ofChain hn, ?_, ?_⟩
  · intro m hm x hx
    exact absurd hx (hclean m.entity x)
  · intro property
    constructor
    · intro hkey
      exact absurd hkey List.not_mem_nil
    · intro hslot
      obtain ⟨m, _, bit, _, hx⟩ := hslot
      exact absurd hx (hclean m.entity bit)

/-- Seeding from an instance of the same chain adds no owner and no bit. -/
theorem seeded (hn : ch.Numbering) {i : Instance} (h : ch.Tracks i.values i.dirty) :
    ch.Tracks (Builder.seeded ch i).values (Builder.seeded ch i).dirty := by
  refine ⟨?_, ?_, ?_⟩
  · rw [Builder.keys_dirty_seeded hn, h.owners]
    have hnone : (ch.levels.map (·.entity)).filter (· ∉ ch.levels.map (·.entity)) = [] := by
      apply List.filter_eq_nil_iff.mpr
      intro owner howner
      simpa using howner
    rw [hnone, List.append_nil]
  · intro m hm x hx
    rw [Builder.dirtyUnder_seeded hn] at hx
    exact h.bits m hm x hx
  · intro property
    simp only [Builder.dirtyUnder_seeded hn]
    exact h.keys property

/-- Slotted edits keep values and dirty bits together: each marks the bit of the property that it
gives a value. -/
theorem edit {b : Builder} {es : List Edit} (hn : b.chain.Numbering)
    (h : b.chain.Tracks b.values b.dirty) (hes : ∀ e ∈ es, b.chain.Slotted e) :
    b.chain.Tracks (b.edit es).values (b.edit es).dirty := by
  refine ⟨?_, ?_, ?_⟩
  · rw [Builder.keys_dirty_edit, h.owners]
    intro e he
    rw [h.owners]
    exact (hes e he).owner_mem
  · intro m hm x hx
    rcases (Builder.dirtyUnder_edit b es m.entity x).mp hx with hx | hx
    · exact h.bits m hm x hx
    · obtain ⟨e, he, howner, rfl⟩ := hx
      obtain ⟨m', hm', howner', hslot⟩ := hes e he
      obtain rfl : m' = m := hn.owner_inj hm' hm (howner'.symm.trans howner)
      exact ⟨e.property, hslot⟩
  · intro property
    rw [Builder.mem_keys_values_edit, h.keys]
    constructor
    · intro hkey
      rcases hkey with hkey | hkey
      · obtain ⟨m, hm, bit, hslot, hdirty⟩ := hkey
        exact ⟨m, hm, bit, hslot, (Builder.dirtyUnder_edit b es m.entity bit).mpr (Or.inl hdirty)⟩
      · obtain ⟨e, he, rfl⟩ := hkey
        obtain ⟨m, hm, howner, hslot⟩ := hes e he
        exact ⟨m, hm, e.bit, hslot,
          (Builder.dirtyUnder_edit b es m.entity e.bit).mpr (Or.inr ⟨e, he, howner, rfl⟩)⟩
    · -- a bit that an edit has marked belongs to no property but that of the edit
      intro hkey
      obtain ⟨m, hm, bit, hslot, hdirty⟩ := hkey
      rcases (Builder.dirtyUnder_edit b es m.entity bit).mp hdirty with hdirty | hdirty
      · exact Or.inl ⟨m, hm, bit, hslot, hdirty⟩
      · obtain ⟨e, he, howner, rfl⟩ := hdirty
        exact Or.inr ⟨e, he, (hes e he).property_eq hn hm hslot howner⟩

/-- A merge keeps values and bits together. -/
theorem merged (hn : ch.Numbering) {current incoming : Instance}
    (h : ch.Tracks current.values current.dirty) :
    ch.Tracks (ch.merged current incoming).values (ch.merged current incoming).dirty :=
  Tracks.edit (b := Builder.seeded ch current) hn (Tracks.seeded hn h) fun _ he =>
    slotted_of_mem_editsOf he

/-- What is dirty on the instance has a value there. -/
theorem get?_of_dirty {i : Instance} (h : ch.Tracks i.values i.dirty) {m : Model}
    (hm : m ∈ ch.levels) {entry : String × Nat} (hentry : entry ∈ i.dirtyProperties m) :
    i.get? entry.1 = some (i.mergedValue entry.1) := by
  obtain ⟨hslot, hdirty⟩ := Instance.mem_dirtyProperties_iff.mp hentry
  have hkey := (h.keys entry.1).mpr ⟨m, hm, entry.2, hslot, hdirty⟩
  obtain ⟨value, hvalue⟩ := Record.mem_keys_iff.mp hkey
  have hget : i.get? entry.1 = some value := hvalue
  rw [Instance.mergedValue, hget]
  rfl

/-- Where incoming values and dirty bits go together, a merge prefers the incoming values. -/
theorem merged_get? {incoming : Instance} (h : ch.Tracks incoming.values incoming.dirty)
    (current : Instance) (property : String) :
    (ch.merged current incoming).get? property =
      (incoming.get? property).or (current.get? property) := by
  have hkeys : property ∈ (ch.editsOf incoming).map (·.property) ↔
      property ∈ incoming.values.keys := by
    rw [mem_map_property_editsOf_iff, h.keys]
  rw [Chain.merged_get?]
  by_cases hkey : property ∈ incoming.values.keys
  · obtain ⟨value, hvalue⟩ := Record.mem_keys_iff.mp hkey
    have hget : incoming.get? property = some value := hvalue
    rw [if_pos (hkeys.mpr hkey), Instance.mergedValue, hget]
    rfl
  · have hget : incoming.get? property = none := Record.get?_eq_none_iff.mpr hkey
    rw [if_neg (fun hmem => hkey (hkeys.mp hmem)), hget]
    rfl

end Tracks

end Chain

end EntityModels
