import EntityModels.Proofs.Compilation.Growth
import EntityModels.Proofs.Instance.Session

/-!
Instances after the growth of their graph. An instance made before marks only bits that its classes
had then, and these keep their meaning, so that old instances merge as they did.
-/
namespace EntityModels

theorem Builder.edit_withChain (b : Builder) (ch : Chain) (es : List Edit) :
    ({ b with chain := ch } : Builder).edit es = { b.edit es with chain := ch } := by
  induction es generalizing b with
  | nil => rfl
  | cons e es ih => exact ih (b.mark e.owner e.bit e.property e.value)

/-- Bits that a class has given out select the same properties after the class has been extended. -/
theorem Instance.dirtyProperties_extended {i : Instance} {m m' : Model} (h : m.ExtendedBy m')
    (hd : m'.modelClass.dirtyBits.values.Nodup)
    (hbits : ∀ x, (dirtyUnder i.dirty m.entity).contains x = true →
      ∃ property, m.modelClass.dirtyBits.get? property = some x) :
    i.dirtyProperties m' = i.dirtyProperties m := by
  obtain ⟨extra, hextra⟩ := h.dirtyBits
  have hfilter : ∀ m : Model, i.dirtyProperties m =
      m.modelClass.dirtyBits.entries.filter fun entry =>
        (dirtyUnder i.dirty m.entity).contains entry.2 := fun _ => rfl
  rw [Record.values, ← hextra, List.map_append] at hd
  have hfresh := (List.nodup_append.mp hd).2.2
  -- the bit of an added property belongs to no old one, so it is not dirty
  have hnone : extra.filter (fun entry => (dirtyUnder i.dirty m.entity).contains entry.2) = [] := by
    apply List.filter_eq_nil_iff.mpr
    intro entry hentry hdirty
    obtain ⟨property, hslot⟩ := hbits entry.2 hdirty
    have hold : (property, entry.2) ∈ m.modelClass.dirtyBits.entries :=
      Record.get?_eq_some_iff.mp hslot
    exact hfresh entry.2 (List.mem_map.mpr ⟨_, hold, rfl⟩) entry.2 (List.mem_map_of_mem hentry) rfl
  rw [hfilter m', hfilter m, h.entity, ← hextra, List.filter_append, hnone, List.append_nil]

namespace Chain

variable {ch ch' : Chain} {current incoming : Instance}

/-- An old instance makes the same edits in the grown chain: the bit of an added property is not
dirty in it. -/
theorem editsOf_extended (hext : List.Forall₂ Model.ExtendedBy ch.levels ch'.levels)
    (hn : ch'.Numbering) (h : ch.Tracks incoming.values incoming.dirty) :
    ch'.editsOf incoming = ch.editsOf incoming := by
  have hlevels : ch.levels.map (fun m => (incoming.dirtyProperties m).map fun entry =>
        Edit.mk m.entity entry.2 entry.1 (incoming.mergedValue entry.1)) =
      ch'.levels.map (fun m => (incoming.dirtyProperties m).map fun entry =>
        Edit.mk m.entity entry.2 entry.1 (incoming.mergedValue entry.1)) := by
    refine map_eq_map_of_forall₂ (forall₂_imp_of_mem hext ?_)
    intro m hm m' hm' hm''
    have hd : m'.modelClass.dirtyBits.values.Nodup := (hn.bits_pairwise hm').imp Nat.ne_of_lt
    rw [Instance.dirtyProperties_extended hm'' hd (h.bits m hm), hm''.entity]
  rw [editsOf, editsOf, List.flatMap_def, List.flatMap_def, hlevels]

/-- Seeding a builder looks at the classes of a chain only by name. -/
theorem seeded_extended (hext : List.Forall₂ Model.ExtendedBy ch.levels ch'.levels)
    (i : Instance) : Builder.seeded ch' i = { Builder.seeded ch i with chain := ch' } := by
  have howners : ch.levels.map (fun m => (m.entity, (∅ : DirtySet))) =
      ch'.levels.map (fun m => (m.entity, (∅ : DirtySet))) :=
    map_eq_map_of_forall₂ (hext.imp fun m m' h => by rw [h.entity])
  rw [Builder.seeded, Builder.seeded, Builder.ofChain, Builder.ofChain, howners]

/-- Instances made before the growth merge to what they merged to. -/
theorem merged_extended (hext : List.Forall₂ Model.ExtendedBy ch.levels ch'.levels)
    (hn : ch'.Numbering) (hentity : ch'.entity = ch.entity)
    (h : ch.Tracks incoming.values incoming.dirty) :
    ch'.merged current incoming = ch.merged current incoming := by
  rw [merged, merged, editsOf_extended hext hn h, seeded_extended hext, Builder.edit_withChain,
    Builder.toInstance, Builder.toInstance, Builder.entity, Builder.entity, Builder.chain_edit,
    hentity]
  rfl

/-- The calls after a merge depend on the entities and selectors of the classes only. -/
theorem mergeNotifications_extended (hext : List.Forall₂ Model.ExtendedBy ch.levels ch'.levels)
    (kind : InitKind) : ch'.mergeNotifications kind = ch.mergeNotifications kind := by
  have hnotifications : ∀ k,
      ch.levels.map (·.notification k) = ch'.levels.map (·.notification k) := by
    intro k
    refine map_eq_map_of_forall₂ (hext.imp fun m m' h => ?_)
    rw [Model.notification, Model.notification, h.entity, h.selector]
  have habove := hnotifications .fromSubmerge
  have hlast := hnotifications kind
  rw [levels, levels, List.map_append, List.map_append, List.map_singleton, List.map_singleton]
    at habove hlast
  rw [mergeNotifications, mergeNotifications, (List.append_singleton_inj.mp habove).1,
    (List.append_singleton_inj.mp hlast).2]

end Chain

namespace Graph

/-- When properties are appended to the entities of a graph, the classes of a chain keep the bits
that they have given out, and instances made before merge into the same instance, with the same
calls. -/
theorem merge_after_growth {g g' : Graph} {naming : Naming} {c c' : Compilation} {entity : String}
    (hg : g.GrowsTo g') (hapart : g.AppendsApart g') (hc : g.compile naming = .ok c)
    (hc' : g'.compile naming = .ok c') (h : entity ∈ c.models.keys) (h' : entity ∈ c'.models.keys) :
    ∃ ch ch', c.chain entity = .ok ch ∧ c'.chain entity = .ok ch' ∧
      List.Forall₂ Model.ExtendedBy ch.levels ch'.levels ∧
      ∀ a b, a.Reachable c entity → b.Reachable c entity → ∀ kind, kind ≠ .default →
        ∃ out, c.merge a b kind = .ok out ∧ c'.merge a b kind = .ok out := by
  obtain ⟨ch, ch', hch, hch', hext⟩ := chain_extendedBy hg hapart hc hc' h h'
  refine ⟨ch, ch', hch, hch', hext, ?_⟩
  intro a b ha hb kind hkind
  have hentity : ch'.entity = ch.entity := (chain_entity hc' hch').trans (chain_entity hc hch).symm
  have hmerged : ch'.merged a b = ch.merged a b :=
    Chain.merged_extended hext (numbering_of_chain hc' hch') hentity (hb.tracks hc hch)
  refine ⟨⟨ch.merged a b, ch.mergeNotifications kind⟩, ?_, ?_⟩
  · exact Chain.merge_eq_ok (ha.1 ▸ hch) (ha.1.trans hb.1.symm) hkind
  · rw [Chain.merge_eq_ok (ha.1 ▸ hch') (ha.1.trans hb.1.symm) hkind, hmerged,
      Chain.mergeNotifications_extended hext]

/-- The boards later on: all three generations have grown, two of them by a property of one name. -/
def grownBoards : Graph where
  entities := [
    { name := "audit", parent := some "journal" },
    { name := "vault", parent := some "secret_board"
      properties := [⟨"name", .text .plain, none⟩, ⟨"pin", .scalar .integer, none⟩,
        ⟨"note", .text .plain, none⟩, ⟨"cover", .text .uri, none⟩, ⟨"hint", .text .plain, none⟩] },
    { name := "board"
      properties := [⟨"name", .text .plain, none⟩, ⟨"url", .text .uri, none⟩,
        ⟨"cover", .text .uri, none⟩] },
    { name := "secret_board", parent := some "schemas/board.json"
      properties := [⟨"owner", .reference "record", none⟩, ⟨"since", .text .dateTime, none⟩] },
    { name := "journal", parent := some "record" },
    { name := "record"
      properties := [⟨"ids", .container .array (.scalar .integer), none⟩] }]
  sound := by decide +kernel

theorem merge_after_growth_boards : boards.GrowsTo grownBoards ∧ boards.AppendsApart grownBoards ∧
    ∃ c c' a b out, boards.compile {} = .ok c ∧ grownBoards.compile {} = .ok c' ∧
      "vault" ∈ c.models.keys ∧ "vault" ∈ c'.models.keys ∧
      a.Reachable c "vault" ∧ b.Reachable c "vault" ∧ InitKind.fromMerge ≠ .default ∧
      out.built.values.keys = ["name", "owner", "pin"] ∧
      c.merge a b .fromMerge = .ok out ∧ c'.merge a b .fromMerge = .ok out := by
  have hg : boards.GrowsTo grownBoards := by decide +kernel
  have hapart : boards.AppendsApart grownBoards := by decide +kernel
  obtain ⟨c, hc, hkeys, _⟩ := compile_boards
  have hmem : "vault" ∈ c.models.keys := by simp [hkeys]
  have hgrown : (grownBoards.compile {}).toOption.map (·.models.keys) =
      some ["vault", "board", "secret_board"] := by decide +kernel
  obtain ⟨c', hsome, hkeys'⟩ := Option.map_eq_some_iff.mp hgrown
  have hc' := toOption_eq_some_iff.mp hsome
  have hmem' : "vault" ∈ c'.models.keys := by simp [hkeys']
  obtain ⟨a, b, out, ha, hb, hout, hproperties⟩ := exists_vaults hc
  obtain ⟨_, _, _, _, _, hmerges⟩ := merge_after_growth hg hapart hc hc' hmem hmem'
  have hkind : InitKind.fromMerge ≠ .default := by decide
  obtain ⟨out', hmerge, hmerge'⟩ := hmerges a b ha hb .fromMerge hkind
  obtain rfl : out' = out := Except.ok.inj (hmerge.symm.trans hout)
  exact ⟨hg, hapart, c, c', a, b, out', hc, hc', hmem, hmem', ha, hb, hkind, hproperties, hmerge,
    hmerge'⟩

end Graph

end EntityModels
