import EntityModels.Instance.Merge
import EntityModels.Proofs.Record

/-!
Edits of a builder. Setting properties and merging both come down to a list of edits, each of which
gives a property a value and marks its slot; a list of edits is described by the last value that it
gives each property and by the slots that it marks.
-/
namespace EntityModels

/-- A value for a property, with the slot of the property. -/
structure Edit where
  owner : String
  bit : Nat
  property : String
  value : Json

namespace Edit

/-- The value that the last edit of a property gives it. -/
def last? (property : String) : List Edit → Option Json
  | [] => none
  | e :: rest =>
    (last? property rest).or (if e.property = property then some e.value else none)

/-- Where the value of an edit depends on the property alone, the last edit is as good as any. -/
theorem last?_of_uniform {es : List Edit} {f : String → Json}
    (h : ∀ e ∈ es, e.value = f e.property) (property : String) :
    last? property es = if property ∈ es.map (·.property) then some (f property) else none := by
  induction es with
  | nil => rfl
  | cons e rest ih =>
    obtain ⟨he, hrest⟩ := List.forall_mem_cons.mp h
    rw [last?, ih hrest, List.map_cons]
    by_cases hmem : property ∈ rest.map (·.property)
    · rw [if_pos hmem, if_pos (List.mem_cons_of_mem _ hmem)]
      rfl
    · by_cases heq : e.property = property
      · rw [if_neg hmem, if_pos heq, if_pos (by simp [heq]), he, heq]
        rfl
      · have hne : property ≠ e.property := fun e' => heq e'.symm
        rw [if_neg hmem, if_neg heq, if_neg (by simp [hne, hmem])]
        rfl

end Edit

/-- The dirty bits under an owner. None if the record has no set for it. -/
def dirtyUnder (dirty : Record DirtySet) (owner : String) : DirtySet := (dirty.get? owner).getD ∅

theorem dirtyUnder_insert (dirty : Record DirtySet) (owner o : String) (bits : DirtySet) :
    dirtyUnder (dirty.insert owner bits) o = if o = owner then bits else dirtyUnder dirty o := by
  rw [dirtyUnder, Record.get?_insert]
  split <;> rfl

namespace Builder

variable {b : Builder} {es : List Edit}

/-- Marking a slot adds its bit to its class and changes no other. -/
theorem dirtyUnder_mark (b : Builder) (owner property : String) (bit : Nat) (value : Json)
    (o : String) (x : Nat) :
    (dirtyUnder (b.mark owner bit property value).dirty o).contains x = true ↔
      (dirtyUnder b.dirty o).contains x = true ∨ owner = o ∧ bit = x := by
  change (dirtyUnder (b.dirty.insert owner ((dirtyUnder b.dirty owner).insert bit)) o).contains x =
    true ↔ _
  rw [dirtyUnder_insert]
  by_cases h : o = owner
  · rw [if_pos h, DirtySet.contains_insert, Bool.or_eq_true, decide_eq_true_eq, h]
    constructor
    · intro hx
      rcases hx with hx | hx
      · exact Or.inr ⟨rfl, hx.symm⟩
      · exact Or.inl hx
    · intro hx
      rcases hx with hx | hx
      · exact Or.inr hx
      · exact Or.inl hx.2.symm
  · have hne : owner ≠ o := fun e => h e.symm
    simp [h, hne]

/-- Takes over edits in turn. -/
def edit (b : Builder) (es : List Edit) : Builder :=
  es.foldl (fun b e => b.mark e.owner e.bit e.property e.value) b

@[simp] theorem edit_nil (b : Builder) : b.edit [] = b := rfl

@[simp] theorem edit_cons (b : Builder) (e : Edit) (es : List Edit) :
    b.edit (e :: es) = (b.mark e.owner e.bit e.property e.value).edit es := rfl

theorem edit_append (b : Builder) (es es' : List Edit) :
    b.edit (es ++ es') = (b.edit es).edit es' := List.foldl_append

@[simp] theorem chain_edit (b : Builder) (es : List Edit) : (b.edit es).chain = b.chain := by
  induction es generalizing b with
  | nil => rfl
  | cons e es ih =>
    rw [edit_cons, ih]
    rfl

theorem values_edit (b : Builder) (es : List Edit) :
    (b.edit es).values = (es.map fun e => (e.property, e.value)).foldl
      (fun r pair => r.insert pair.1 pair.2) b.values := by
  induction es generalizing b with
  | nil => rfl
  | cons e es ih =>
    rw [edit_cons, ih]
    rfl

/-- A property has the value of its last edit, and without one the value it had before. -/
theorem get?_values_edit (b : Builder) (es : List Edit) (property : String) :
    (b.edit es).values.get? property = (Edit.last? property es).or (b.values.get? property) := by
  induction es generalizing b with
  | nil => rfl
  | cons e es ih =>
    rw [edit_cons, ih, Edit.last?, mark, Record.get?_insert, Option.or_assoc]
    by_cases h : e.property = property
    · rw [if_pos h, if_pos h.symm]
      rfl
    · have hne : property ≠ e.property := fun e' => h e'.symm
      rw [if_neg h, if_neg hne]
      rfl

/-- Properties that are edited for the first time come behind the others. -/
theorem keys_values_edit (b : Builder) {es : List Edit} (hd : (es.map (·.property)).Nodup) :
    (b.edit es).values.keys =
      b.values.keys ++ (es.map (·.property)).filter (· ∉ b.values.keys) := by
  have hfst : (es.map fun e => (e.property, e.value)).map (·.1) = es.map (·.property) := by
    rw [List.map_map]
    rfl
  rw [values_edit, Record.keys_foldl_insert _ (by rwa [hfst]), hfst]

/-- A bit is dirty after edits if it was before or one of them marks it. -/
theorem dirtyUnder_edit (b : Builder) (es : List Edit) (owner : String) (x : Nat) :
    (dirtyUnder (b.edit es).dirty owner).contains x = true ↔
      (dirtyUnder b.dirty owner).contains x = true ∨ ∃ e ∈ es, e.owner = owner ∧ e.bit = x := by
  induction es generalizing b with
  | nil => simp
  | cons e es ih =>
    rw [edit_cons, ih, dirtyUnder_mark]
    simp only [List.mem_cons, exists_eq_or_imp]
    exact or_assoc

theorem get?_dirty_edit_of_notMem {owner : String} (h : owner ∉ es.map (·.owner)) :
    (b.edit es).dirty.get? owner = b.dirty.get? owner := by
  induction es generalizing b with
  | nil => rfl
  | cons e es ih =>
    simp only [List.map_cons, List.mem_cons, not_or] at h
    rw [edit_cons, ih h.2, mark, Record.get?_insert, if_neg h.1]

/-- Edits of owners that are there keep the owners and their order. -/
theorem keys_dirty_edit (h : ∀ e ∈ es, e.owner ∈ b.dirty.keys) :
    (b.edit es).dirty.keys = b.dirty.keys := by
  induction es generalizing b with
  | nil => rfl
  | cons e es ih =>
    obtain ⟨he, hes⟩ := List.forall_mem_cons.mp h
    have hmark : (b.mark e.owner e.bit e.property e.value).dirty.keys = b.dirty.keys := by
      rw [mark, Record.keys_insert, if_pos he]
    rw [edit_cons, ih, hmark]
    intro x hx
    rw [hmark]
    exact hes x hx

end Builder

/-- The edits by which a merge takes over what is dirty on the incoming instance, the root's
first. -/
def Chain.editsOf (ch : Chain) (incoming : Instance) : List Edit :=
  ch.levels.flatMap fun m => (incoming.dirtyProperties m).map fun entry =>
    ⟨m.entity, entry.2, entry.1, incoming.mergedValue entry.1⟩

/-- An edit that uses the slot that the chain gives to its property. -/
def Chain.Slotted (ch : Chain) (e : Edit) : Prop :=
  ∃ m ∈ ch.levels, e.owner = m.entity ∧ m.modelClass.dirtyBits.get? e.property = some e.bit

/-- Merging one class makes one edit for each of its dirty properties. -/
theorem Builder.mergeLevel_eq_edit (incoming : Instance) (b : Builder) (m : Model) :
    mergeLevel incoming b m = b.edit ((incoming.dirtyProperties m).map fun entry =>
      ⟨m.entity, entry.2, entry.1, incoming.mergedValue entry.1⟩) := by
  rw [edit, List.foldl_map]
  rfl

/-- A merge is the list of edits that its levels make together. -/
theorem Builder.mergeLevels_eq_edit (incoming : Instance) (b : Builder) :
    b.mergeLevels incoming = b.edit (b.chain.editsOf incoming) := by
  have hfold : ∀ (ms : List Model) (b : Builder), ms.foldl (mergeLevel incoming) b =
      b.edit (ms.flatMap fun m => (incoming.dirtyProperties m).map fun entry =>
        ⟨m.entity, entry.2, entry.1, incoming.mergedValue entry.1⟩) := by
    intro ms
    induction ms with
    | nil => intro b; rfl
    | cons m ms ih =>
      intro b
      rw [List.foldl_cons, ih, List.flatMap_cons, edit_append, mergeLevel_eq_edit]
  exact hfold b.chain.levels b

/-- The dirty properties of a class are those whose bit is in the set of the class. -/
theorem Instance.mem_dirtyProperties_iff {i : Instance} {m : Model} {entry : String × Nat} :
    entry ∈ i.dirtyProperties m ↔ m.modelClass.dirtyBits.get? entry.1 = some entry.2 ∧
      (dirtyUnder i.dirty m.entity).contains entry.2 = true := by
  rw [Record.get?_eq_some_iff]
  exact List.mem_filter

namespace Chain

variable {ch : Chain} {incoming : Instance}

/-- A merge edits the properties that are dirty under a class of the chain. -/
theorem mem_editsOf_iff {e : Edit} :
    e ∈ ch.editsOf incoming ↔ ∃ m ∈ ch.levels,
      m.modelClass.dirtyBits.get? e.property = some e.bit ∧
      (dirtyUnder incoming.dirty m.entity).contains e.bit = true ∧
      e.owner = m.entity ∧ e.value = incoming.mergedValue e.property := by
  rw [editsOf, List.mem_flatMap]
  constructor
  · intro h
    obtain ⟨m, hm, he⟩ := h
    obtain ⟨entry, hentry, rfl⟩ := List.mem_map.mp he
    obtain ⟨hslot, hdirty⟩ := Instance.mem_dirtyProperties_iff.mp hentry
    exact ⟨m, hm, hslot, hdirty, rfl, rfl⟩
  · intro h
    obtain ⟨m, hm, hslot, hdirty, howner, hvalue⟩ := h
    refine ⟨m, hm, List.mem_map.mpr ⟨(e.property, e.bit), ?_, ?_⟩⟩
    · exact Instance.mem_dirtyProperties_iff.mpr ⟨hslot, hdirty⟩
    · rw [← howner, ← hvalue]

theorem Slotted.owner_mem {e : Edit} (h : ch.Slotted e) : e.owner ∈ ch.levels.map (·.entity) := by
  obtain ⟨m, hm, howner, _⟩ := h
  exact List.mem_map.mpr ⟨m, hm, howner.symm⟩

/-- Each edit of a merge uses the slot of its property. -/
theorem slotted_of_mem_editsOf {e : Edit} (he : e ∈ ch.editsOf incoming) :
    ch.Slotted e := by
  obtain ⟨m, hm, hslot, _, howner, _⟩ := mem_editsOf_iff.mp he
  exact ⟨m, hm, howner, hslot⟩

theorem editsOf_map_property (ch : Chain) (incoming : Instance) :
    (ch.editsOf incoming).map (·.property) =
      ch.levels.flatMap fun m => (incoming.dirtyProperties m).map (·.1) := by
  rw [editsOf, List.map_flatMap]
  simp only [List.map_map]
  rfl

end Chain

end EntityModels
