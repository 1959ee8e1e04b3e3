import EntityModels.Proofs.Compilation.Numbering
import EntityModels.Proofs.Instance.Edits
import Mathlib.Data.List.Flatten

/-!
What a merge does. A property whose bit is dirty on the incoming instance takes the incoming value,
every other key keeps the current one; the dirty bits of a class are united, as far as the class
knows them.
-/
namespace EntityModels

/-- Under distinct keys each pair is looked up as it was put. -/
theorem Record.get?_ofList {α : Type} {pairs : List (String × α)} (hd : (pairs.map (·.1)).Nodup)
    (k : String) : (ofList pairs).get? k = firstOf pairs k := by
  rw [get?, entries_ofList hd]
  rfl

namespace Builder

variable {ch : Chain} {c : Compilation}

/-- A builder for a chain with the values and dirty bits of an instance. -/
def seeded (ch : Chain) (i : Instance) : Builder :=
  { ofChain ch with values := i.values, dirty := (ofChain ch).dirty.insertAll i.dirty }

theorem new_eq_ok_iff {entity : String} {b : Builder} :
    new c entity = .ok b ↔ ∃ ch, c.chain entity = .ok ch ∧ b = ofChain ch := by
  rw [new]
  cases c.chain entity <;> simp [Functor.map, Except.map, eq_comm]

theorem ofInstance_eq_ok_iff {i : Instance} {b : Builder} :
    ofInstance c i = .ok b ↔ ∃ ch, c.chain i.entity = .ok ch ∧ b = seeded ch i := by
  rw [ofInstance, bind_eq_ok_iff]
  constructor
  · intro h
    obtain ⟨b', hb', hb⟩ := h
    obtain ⟨ch, hch, rfl⟩ := new_eq_ok_iff.mp hb'
    exact ⟨ch, hch, (Except.ok.inj hb).symm⟩
  · intro h
    obtain ⟨ch, hch, rfl⟩ := h
    exact ⟨ofChain ch, new_eq_ok_iff.mpr ⟨ch, hch, rfl⟩, rfl⟩

theorem keys_dirty_ofChain (hn : ch.Numbering) :
    (ofChain ch).dirty.keys = ch.levels.map (·.entity) := by
  have hfst : (ch.levels.map fun m => (m.entity, (∅ : DirtySet))).map (·.1) =
      ch.levels.map (·.entity) := by
    rw [List.map_map]
    rfl
  rw [ofChain, Record.keys_ofList (by rw [hfst]; exact hn.owners), hfst]

theorem dirtyUnder_ofChain (hn : ch.Numbering) (owner : String) :
    dirtyUnder (ofChain ch).dirty owner = ∅ := by
  rw [dirtyUnder]
  cases hget : (ofChain ch).dirty.get? owner with
  | none => rfl
  | some bits =>
    have hd : ((ch.levels.map fun m => (m.entity, (∅ : DirtySet))).map (·.1)).Nodup := by
      rw [List.map_map]
      exact hn.owners
    rw [ofChain, Record.get?_ofList hd, Record.firstOf_eq_some_iff hd] at hget
    obtain ⟨m, _, hm⟩ := List.mem_map.mp hget
    exact (Prod.mk.inj hm).2.symm

/-- Seeding keeps the dirty bits of the instance, also those of owners that are not on the chain. -/
theorem dirtyUnder_seeded (hn : ch.Numbering) (i : Instance) (owner : String) :
    dirtyUnder (seeded ch i).dirty owner = dirtyUnder i.dirty owner := by
  have hempty := dirtyUnder_ofChain hn owner
  rw [dirtyUnder] at hempty
  rw [seeded, dirtyUnder, Record.get?_insertAll, dirtyUnder]
  cases i.dirty.get? owner with
  | none => exact hempty
  | some bits => rfl

/-- A seeded builder has a set for each class of its chain, and then those for classes that its
chain does not know. -/
theorem keys_dirty_seeded (hn : ch.Numbering) (i : Instance) :
    (seeded ch i).dirty.keys = ch.levels.map (·.entity) ++
      i.dirty.keys.filter (· ∉ ch.levels.map (·.entity)) := by
  rw [seeded, Record.keys_insertAll, keys_dirty_ofChain hn]

theorem get?_dirty_seeded_of_notMem (hn : ch.Numbering) (i : Instance) {owner : String}
    (h : owner ∉ ch.levels.map (·.entity)) :
    (seeded ch i).dirty.get? owner = i.dirty.get? owner := by
  rw [← keys_dirty_ofChain hn] at h
  rw [seeded, Record.get?_insertAll, Record.get?_eq_none_iff.mpr h, Option.or_none]

end Builder

namespace Chain

variable {ch : Chain} {current incoming : Instance}

/-- The instance to which a merge along a chain leads. -/
def merged (ch : Chain) (current incoming : Instance) : Instance :=
  ((Builder.seeded ch current).edit (ch.editsOf incoming)).toInstance

/-- Two instances of one entity merge when the entity has a chain, whatever the reason given. -/
theorem merge_eq_ok {c : Compilation} {kind : InitKind} (h : c.chain current.entity = .ok ch)
    (hsame : current.entity = incoming.entity) (hkind : kind ≠ .default) :
    c.merge current incoming kind =
      .ok ⟨ch.merged current incoming, ch.mergeNotifications kind⟩ := by
  have hseed : Builder.ofInstance c current = .ok (Builder.seeded ch current) :=
    Builder.ofInstance_eq_ok_iff.mpr ⟨ch, h, rfl⟩
  rw [Compilation.merge, if_neg (fun hne => hne hsame), if_neg hkind]
  simp only [bind, Except.bind, pure, Except.pure, hseed]
  rw [Builder.mergeLevels_eq_edit]
  rfl

/-- A merge that succeeds has been made along the chain of the instances' entity. -/
theorem exists_of_merge {c : Compilation} {kind : InitKind} {out : Constructed}
    (h : c.merge current incoming kind = .ok out) :
    current.entity = incoming.entity ∧ kind ≠ .default ∧ ∃ ch,
      c.chain current.entity = .ok ch ∧
        out = ⟨ch.merged current incoming, ch.mergeNotifications kind⟩ := by
  have hrest := h
  rw [Compilation.merge] at hrest
  by_cases hsame : current.entity = incoming.entity
  · by_cases hkind : kind = .default
    · simp [hsame, hkind, throw, throwThe, MonadExceptOf.throw, bind, Except.bind] at hrest
    · rw [if_neg (fun hne => hne hsame), if_neg hkind] at hrest
      simp only [bind, Except.bind, pure, Except.pure] at hrest
      cases hb : Builder.ofInstance c current with
      | error fault => simp [hb] at hrest
      | ok b =>
        obtain ⟨ch, hch, _⟩ := Builder.ofInstance_eq_ok_iff.mp hb
        rw [merge_eq_ok hch hsame hkind] at h
        exact ⟨hsame, hkind, ch, hch, (Except.ok.inj h).symm⟩
  · simp [hsame, throw, throwThe, MonadExceptOf.throw, bind, Except.bind] at hrest

theorem eq_of_merge {c : Compilation} {kind : InitKind} {out : Constructed}
    (hch : c.chain current.entity = .ok ch) (h : c.merge current incoming kind = .ok out) :
    out = ⟨ch.merged current incoming, ch.mergeNotifications kind⟩ := by
  obtain ⟨_, _, ch', hch', rfl⟩ := exists_of_merge h
  rw [Except.ok.inj (hch'.symm.trans hch)]

/-- Nothing but the entities and the reason decides whether instances of an entity with a chain
merge. -/
theorem exists_merge_iff {c : Compilation} {kind : InitKind}
    (hch : c.chain current.entity = .ok ch) :
    (∃ out, c.merge current incoming kind = .ok out) ↔
      incoming.entity = current.entity ∧ kind ≠ .default := by
  constructor
  · rintro ⟨out, hout⟩
    obtain ⟨hsame, hkind, _⟩ := exists_of_merge hout
    exact ⟨hsame.symm, hkind⟩
  · rintro ⟨hsame, hkind⟩
    exact ⟨_, merge_eq_ok hch hsame.symm hkind⟩

theorem merged_entity (ch : Chain) (current incoming : Instance) :
    (ch.merged current incoming).entity = ch.entity := by
  rw [merged, Builder.toInstance, Builder.entity, Builder.chain_edit]
  rfl

/-- A merge edits no property twice, since a property is numbered by one class. -/
theorem editsOf_properties_nodup (hn : ch.Numbering) (incoming : Instance) :
    ((ch.editsOf incoming).map (·.property)).Nodup := by
  rw [editsOf_map_property]
  refine List.Nodup.sublist ?_ hn.names
  exact List.Sublist.flatMap_right _ fun m _ => List.filter_sublist.map _

/-- A merged property has the incoming value if it is edited and the current one otherwise. No level
can undo what one above it took over, since all take the value of the same instance. -/
theorem merged_get? (ch : Chain) (current incoming : Instance) (property : String) :
    (ch.merged current incoming).get? property =
      if property ∈ (ch.editsOf incoming).map (·.property) then
        some (incoming.mergedValue property)
      else current.get? property := by
  have huniform : ∀ e ∈ ch.editsOf incoming, e.value = incoming.mergedValue e.property := by
    intro e he
    obtain ⟨_, _, _, _, _, hvalue⟩ := mem_editsOf_iff.mp he
    exact hvalue
  have hvalues :=
    Builder.get?_values_edit (Builder.seeded ch current) (ch.editsOf incoming) property
  rw [Edit.last?_of_uniform huniform] at hvalues
  rw [merged, Instance.get?, Builder.toInstance, hvalues]
  split <;> rfl

theorem mem_map_property_editsOf_iff {property : String} :
    property ∈ (ch.editsOf incoming).map (·.property) ↔ ∃ m ∈ ch.levels, ∃ bit,
      m.modelClass.dirtyBits.get? property = some bit ∧
        (dirtyUnder incoming.dirty m.entity).contains bit = true := by
  rw [List.mem_map]
  constructor
  · intro h
    obtain ⟨e, he, rfl⟩ := h
    obtain ⟨m, hm, hslot, hdirty, _, _⟩ := mem_editsOf_iff.mp he
    exact ⟨m, hm, e.bit, hslot, hdirty⟩
  · intro h
    obtain ⟨m, hm, bit, hslot, hdirty⟩ := h
    exact ⟨⟨m.entity, bit, property, incoming.mergedValue property⟩,
      mem_editsOf_iff.mpr ⟨m, hm, hslot, hdirty, rfl, rfl⟩, rfl⟩

/-- An edit marks a bit of a class when the class has the bit and it is dirty on the instance. -/
theorem exists_edit_iff (hn : ch.Numbering) {m : Model} (hm : m ∈ ch.levels) {x : Nat} :
    (∃ e ∈ ch.editsOf incoming, e.owner = m.entity ∧ e.bit = x) ↔
      (dirtyUnder incoming.dirty m.entity).contains x = true ∧
        ∃ property, m.modelClass.dirtyBits.get? property = some x := by
  constructor
  · intro h
    obtain ⟨e, he, howner, rfl⟩ := h
    obtain ⟨m', hm', hslot, hdirty, howner', _⟩ := mem_editsOf_iff.mp he
    obtain rfl := hn.owner_inj hm' hm (howner'.symm.trans howner)
    exact ⟨hdirty, e.property, hslot⟩
  · intro h
    obtain ⟨hdirty, property, hslot⟩ := h
    exact ⟨⟨m.entity, x, property, incoming.mergedValue property⟩,
      mem_editsOf_iff.mpr ⟨m, hm, hslot, hdirty, rfl, rfl⟩, rfl, rfl⟩

theorem keys_dirty_merged (hn : ch.Numbering) (current incoming : Instance) :
    (ch.merged current incoming).dirty.keys = (Builder.seeded ch current).dirty.keys := by
  refine Builder.keys_dirty_edit fun e he => ?_
  rw [Builder.keys_dirty_seeded hn]
  exact List.mem_append_left _ (slotted_of_mem_editsOf he).owner_mem

theorem dirtyProperties_ascending (hn : ch.Numbering) (incoming : Instance) {m : Model}
    (hm : m ∈ ch.levels) : (incoming.dirtyProperties m).Pairwise fun a b => a.2 < b.2 := by
  have hall := List.pairwise_map.mp (hn.bits_pairwise hm)
  exact hall.filter _

/-- The bits of a class in the chain are united. -/
theorem merged_owned (hn : ch.Numbering) {m : Model} (hm : m ∈ ch.levels) :
    ∃ bits, (ch.merged current incoming).dirtyBits? m.entity = some bits ∧
      ∀ x, bits.contains x = true ↔
        (dirtyUnder current.dirty m.entity).contains x = true ∨
          (dirtyUnder incoming.dirty m.entity).contains x = true ∧
            ∃ property, m.modelClass.dirtyBits.get? property = some x := by
  have hmem : m.entity ∈ (ch.merged current incoming).dirty.keys := by
    rw [keys_dirty_merged hn, Builder.keys_dirty_seeded hn]
    exact List.mem_append_left _ (List.mem_map_of_mem hm)
  obtain ⟨bits, hbits⟩ := Record.mem_keys_iff.mp hmem
  refine ⟨bits, hbits, fun x => ?_⟩
  have hunder : dirtyUnder (ch.merged current incoming).dirty m.entity = bits := by
    rw [dirtyUnder, hbits]
    rfl
  rw [← hunder, ← exists_edit_iff hn hm, ← Builder.dirtyUnder_seeded hn current]
  exact Builder.dirtyUnder_edit _ _ _ _

/-- The bits of a class outside the chain are those of the current instance. -/
theorem merged_foreign (hn : ch.Numbering) {owner : String}
    (h : owner ∉ ch.levels.map (·.entity)) :
    (ch.merged current incoming).dirtyBits? owner = current.dirtyBits? owner := by
  have hnone : owner ∉ (ch.editsOf incoming).map (·.owner) := by
    intro hmem
    obtain ⟨e, he, rfl⟩ := List.mem_map.mp hmem
    exact h (slotted_of_mem_editsOf he).owner_mem
  exact (Builder.get?_dirty_edit_of_notMem hnone).trans
    (Builder.get?_dirty_seeded_of_notMem hn current h)

/-- What a merge along a chain makes of two instances. -/
structure MergesTo (ch : Chain) (current incoming merged : Instance) : Prop where
  entity : merged.entity = current.entity
  /-- A property that a class of the chain numbers with a bit that is dirty on the incoming instance
  takes the value there, or null without one. -/
  taken : ∀ property, (∃ m ∈ ch.levels, ∃ bit, m.modelClass.dirtyBits.get? property = some bit ∧
      (dirtyUnder incoming.dirty m.entity).contains bit = true) →
    merged.get? property = some ((incoming.get? property).getD .null)
  kept : ∀ property, (∀ m ∈ ch.levels, ∀ bit, m.modelClass.dirtyBits.get? property = some bit →
      (dirtyUnder incoming.dirty m.entity).contains bit = false) →
    merged.get? property = current.get? property
  /-- A class of the chain has the bits of both instances, of the incoming one those it knows. -/
  owned : ∀ m ∈ ch.levels, ∃ bits, merged.dirtyBits? m.entity = some bits ∧
    ∀ x, bits.contains x = true ↔
      (dirtyUnder current.dirty m.entity).contains x = true ∨
        (dirtyUnder incoming.dirty m.entity).contains x = true ∧
          ∃ property, m.modelClass.dirtyBits.get? property = some x
  foreign : ∀ owner, owner ∉ ch.levels.map (·.entity) →
    merged.dirtyBits? owner = current.dirtyBits? owner
  /-- New keys follow the current ones, those of the root first, then by bit. -/
  order : merged.values.keys = current.values.keys ++
    (ch.levels.flatMap fun m => (incoming.dirtyProperties m).map (·.1)).filter
      (· ∉ current.values.keys)
  ascending : ∀ m ∈ ch.levels, (incoming.dirtyProperties m).Pairwise fun a b => a.2 < b.2

/-- The merged instance is what a merge is to give. -/
theorem mergesTo_merged (hn : ch.Numbering) (hentity : ch.entity = current.entity) :
    ch.MergesTo current incoming (ch.merged current incoming) := by
  refine ⟨?_, ?_, ?_, ?_, ?_, ?_, fun m hm => dirtyProperties_ascending hn incoming hm⟩
  · rw [merged_entity, hentity]
  · intro property h
    rw [merged_get?, if_pos (mem_map_property_editsOf_iff.mpr h)]
    rfl
  · intro property h
    rw [merged_get?, if_neg]
    intro hmem
    obtain ⟨m, hm, bit, hslot, hdirty⟩ := mem_map_property_editsOf_iff.mp hmem
    rw [h m hm bit hslot] at hdirty
    exact Bool.false_ne_true hdirty
  · intro m hm
    exact merged_owned hn hm
  · intro owner h
    exact merged_foreign hn h
  · rw [← editsOf_map_property]
    exact Builder.keys_values_edit _ (editsOf_properties_nodup hn incoming)

end Chain

namespace Graph

/-- Two instances of an entity with a model merge into one instance whatever the reason given, and
what it is follows from the numbering of the chain alone. -/
theorem merge_mergesTo {g : Graph} {naming : Naming} {c : Compilation} {entity : String}
    {current incoming : Instance} (hc : g.compile naming = .ok c)
    (hentity : entity ∈ c.models.keys) (hcurrent : current.entity = entity)
    (hincoming : incoming.entity = entity) :
    ∃ ch merged, c.chain entity = .ok ch ∧ ch.MergesTo current incoming merged ∧
      ∀ kind, kind ≠ .default →
        c.merge current incoming kind = .ok ⟨merged, ch.mergeNotifications kind⟩ := by
  obtain ⟨ch, _, _, hch, _⟩ := chain_of_mem_keys hc hentity
  subst hcurrent
  refine ⟨ch, ch.merged current incoming, hch, ?_, ?_⟩
  · exact Chain.mergesTo_merged (numbering_of_chain hc hch) (chain_entity hc hch)
  · intro kind hkind
    exact Chain.merge_eq_ok hch hincoming.symm hkind

/-- A vault made elsewhere: its owner has a dirty bit but no value, and it brings a bit and a class
that are unknown here. -/
def strayVault : Instance where
  entity := "vault"
  values := .ofList [("pin", .nat 7), ("name", .string "stray")]
  dirty := .ofList [("secret_board", (∅ : DirtySet).insert 0),
    ("vault", ((∅ : DirtySet).insert 0).insert 5), ("safe", (∅ : DirtySet).insert 1)]

/-- A vault with a name. -/
def namedVault : Instance where
  entity := "vault"
  values := .ofList [("name", .string "mine")]
  dirty := .ofList [("board", (∅ : DirtySet).insert 0)]

example : ((boards.compile {}).toOption.bind fun c =>
    (c.merge namedVault strayVault .fromMerge).toOption.map (·.built.values.entries)) =
      some [("name", .string "mine"), ("owner", .null), ("pin", .nat 7)] := by
  decide +kernel

theorem merge_mergesTo_boards : ∃ c, boards.compile {} = .ok c ∧ "vault" ∈ c.models.keys ∧
    ∃ ch merged, c.chain "vault" = .ok ch ∧ ch.MergesTo namedVault strayVault merged ∧
      c.merge namedVault strayVault .fromMerge =
        .ok ⟨merged, ch.mergeNotifications .fromMerge⟩ := by
  obtain ⟨c, hc, hkeys, _⟩ := compile_boards
  have hmem : "vault" ∈ c.models.keys := by simp [hkeys]
  obtain ⟨ch, merged, hch, hmerged, hmerge⟩ :=
    @merge_mergesTo _ _ _ _ namedVault strayVault hc hmem rfl rfl
  exact ⟨c, hc, hmem, ch, merged, hch, hmerged, hmerge .fromMerge (by decide)⟩

end Graph

end EntityModels
