import EntityModels.Proofs.Compilation.Numbering

/-!
Growth of a graph. When properties are appended to some of its entities, each class keeps the
numbers of its properties and gives the new ones the numbers after them, as long as no appended name
was already declared further down.
-/
namespace EntityModels

/-- The entity with properties appended. Only its name, its parent and the properties that it had
are kept. -/
structure Entity.GrowsTo (e e' : Entity) : Prop where
  name : e'.name = e.name
  parent : e'.parent = e.parent
  properties : e.properties <+: e'.properties

instance (e e' : Entity) : Decidable (e.GrowsTo e') :=
  decidable_of_iff (e'.name = e.name ∧ e'.parent = e.parent ∧ e.properties <+: e'.properties)
    ⟨fun h => ⟨h.1, h.2.1, h.2.2⟩, fun h => ⟨h.name, h.parent, h.properties⟩⟩

/-- The names of the properties that `e'` has after those of `e`. -/
def Entity.appendedNames (e e' : Entity) : List String :=
  (e'.properties.drop e.properties.length).map (·.name)

theorem Entity.GrowsTo.declaredNames_eq {e e' : Entity} (h : e.GrowsTo e') :
    e'.declaredNames = e.declaredNames ++ e.appendedNames e' := by
  have hsplit := List.prefix_iff_eq_append.mp h.properties
  rw [declaredNames, ← hsplit, List.map_append]
  rfl

namespace Lineage

/-- The ancestors of a lineage declare the same of the names that its entity declared before. -/
theorem mem_inherited_iff {as as' : List Entity} {name : String}
    (h : List.Forall₂ (fun a a' => a.GrowsTo a' ∧ name ∉ a.appendedNames a') as as') :
    name ∈ as'.flatMap Entity.declaredNames ↔ name ∈ as.flatMap Entity.declaredNames := by
  induction h with
  | nil => rfl
  | cons hhead _ ih =>
    obtain ⟨hgrows, hfresh⟩ := hhead
    simp only [List.flatMap_cons, List.mem_append, hgrows.declaredNames_eq, hfresh, or_false, ih]

/-- The own properties stay in front of the appended ones. -/
theorem ownProperties_prefix {l l' : Lineage} (hentity : l.entity.GrowsTo l'.entity)
    (hancestors : List.Forall₂ (fun a a' => a.GrowsTo a' ∧
      ∀ name ∈ l.entity.declaredNames, name ∉ a.appendedNames a') l.ancestors l'.ancestors) :
    l.ownProperties <+: l'.ownProperties := by
  obtain ⟨extra, hextra⟩ := hentity.properties
  -- what the entity did not inherit before it does not inherit now
  have hkept : l.entity.properties.filter
        (fun p => p.name ∉ l'.ancestors.flatMap Entity.declaredNames) = l.ownProperties := by
    apply List.filter_congr
    intro p hp
    have hdeclared : p.name ∈ l.entity.declaredNames := List.mem_map_of_mem hp
    have hinherited := mem_inherited_iff (hancestors.imp fun a a' h =>
      ⟨h.1, h.2 p.name hdeclared⟩)
    simp only [hinherited]
  refine ⟨extra.filter fun p => p.name ∉ l'.ancestors.flatMap Entity.declaredNames, ?_⟩
  rw [← hkept, ← List.filter_append, hextra]
  rfl

end Lineage

/-- Properties that stay in front keep their numbers. -/
theorem entries_assignDirtyBits_prefix {own own' : List Property} (h : own <+: own')
    (hd : (own'.map (·.name)).Nodup) :
    (assignDirtyBits own).entries <+: (assignDirtyBits own').entries := by
  obtain ⟨extra, rfl⟩ := h
  have hd' : (own.map (·.name)).Nodup := by
    rw [List.map_append] at hd
    exact hd.of_append_left
  rw [entries_assignDirtyBits hd, entries_assignDirtyBits hd', List.map_append, List.zipIdx_append]
  exact List.prefix_append _ _

namespace Graph

variable {g g' : Graph} {naming : Naming} {c c' : Compilation}

/-- The same entities in the same order, each with properties appended. -/
def GrowsTo (g g' : Graph) : Prop := List.Forall₂ Entity.GrowsTo g.entities g'.entities

instance (g g' : Graph) : Decidable (g.GrowsTo g') :=
  inferInstanceAs (Decidable (List.Forall₂ Entity.GrowsTo g.entities g'.entities))

/-- No name that is appended to an entity was declared by one of its descendants. -/
def AppendsApart (g g' : Graph) : Prop :=
  ∀ e ∈ g.entities, ∀ a ∈ (g.lineage e).ancestors, ∀ a' ∈ g'.entities, a'.name = a.name →
    ∀ name ∈ a.appendedNames a', name ∉ e.declaredNames

instance (g g' : Graph) : Decidable (g.AppendsApart g') :=
  inferInstanceAs (Decidable (∀ e ∈ g.entities, ∀ a ∈ (g.lineage e).ancestors, ∀ a' ∈ g'.entities,
    a'.name = a.name → ∀ name ∈ a.appendedNames a', name ∉ e.declaredNames))

/-- A grown graph has the same names, so both look-ups stop at the same place. -/
theorem get?_of_growsTo (hg : g.GrowsTo g') {name : String} {e : Entity}
    (h : g.get? name = some e) : ∃ e', g'.get? name = some e' ∧ e.GrowsTo e' := by
  rw [get?] at h ⊢
  rw [GrowsTo] at hg
  generalize g.entities = es at h hg
  generalize g'.entities = es' at hg
  induction hg with
  | nil => simp at h
  | @cons x x' es es' hgrows _ ih =>
    rw [List.find?_cons] at h ⊢
    rw [hgrows.name]
    cases hname : decide (x.name = name) with
    | true =>
      rw [hname] at h
      obtain rfl := Option.some.inj h
      exact ⟨x', rfl, hgrows⟩
    | false =>
      rw [hname] at h
      exact ih h

theorem parent?_of_growsTo (hg : g.GrowsTo g') {e e' p : Entity} (he : e.GrowsTo e')
    (h : g.parent? e = some p) : ∃ p', g'.parent? e' = some p' ∧ p.GrowsTo p' := by
  obtain ⟨reference, hparent, htarget⟩ := Option.bind_eq_some_iff.mp h
  obtain ⟨p', hp', hgrows⟩ := get?_of_growsTo hg htarget
  exact ⟨p', Option.bind_eq_some_iff.mpr ⟨reference, he.parent.trans hparent, hp'⟩, hgrows⟩

theorem Line.growsTo (hg : g.GrowsTo g') {e e' : Entity} {line : List Entity}
    (h : g.Line e line) (he : e.GrowsTo e') :
    ∃ line', g'.Line e' line' ∧ List.Forall₂ Entity.GrowsTo line line' := by
  induction h generalizing e' with
  | root hroot => exact ⟨[], .root (he.parent.trans hroot), .nil⟩
  | above hp _ ih =>
    obtain ⟨p', hp', hgrows⟩ := parent?_of_growsTo hg he hp
    obtain ⟨line', hline', hall⟩ := ih hgrows
    exact ⟨p' :: line', .above hp' hline', .cons hgrows hall⟩

/-- The ancestors of a grown entity are the grown ancestors, level by level. -/
theorem ancestors_of_growsTo (hg : g.GrowsTo g') {e e' : Entity} {as : List Entity}
    (h : g.ancestors e = .ok as) (he : e.GrowsTo e') :
    ∃ as', g'.ancestors e' = .ok as' ∧ List.Forall₂ Entity.GrowsTo as as' := by
  obtain ⟨hline, hd⟩ := ancestors_eq_ok_iff.mp h
  obtain ⟨line', hline', hall⟩ := hline.growsTo hg he
  have hall' : List.Forall₂ Entity.GrowsTo as line'.reverse := by
    rw [← List.forall₂_reverse_iff, List.reverse_reverse]
    exact hall
  refine ⟨line'.reverse, ancestors_eq_ok_iff.mpr ⟨?_, ?_⟩, hall'⟩
  · rwa [List.reverse_reverse]
  · have hnames : as.map (·.name) = line'.reverse.map (·.name) :=
      map_eq_map_of_forall₂ (hall'.imp fun _ _ hgrows => hgrows.name.symm)
    rw [he.name, ← hnames]
    exact hd

end Graph

/-- The same class with further properties numbered after the ones it has. -/
structure Model.ExtendedBy (m m' : Model) : Prop where
  entity : m'.entity = m.entity
  selector : m'.modelClass.hook.selector = m.modelClass.hook.selector
  dirtyBits : m.modelClass.dirtyBits.entries <+: m'.modelClass.dirtyBits.entries

namespace Graph

variable {g g' : Graph} {naming : Naming} {c c' : Compilation}

theorem root_name_of_growsTo {e e' : Entity} {as as' : List Entity} (he : e.GrowsTo e')
    (has : List.Forall₂ Entity.GrowsTo as as') :
    (Lineage.root ⟨as', e'⟩).name = (Lineage.root ⟨as, e⟩).name := by
  cases has with
  | nil => exact he.name
  | cons hroot _ => exact hroot.name

/-- An entity keeps its own properties and their bits in front, as long as nothing that it declares
has been appended to an ancestor. -/
theorem extendedBy_of_synthesize (hg : g.GrowsTo g') (hapart : g.AppendsApart g') {e e' : Entity}
    {as : List Entity} {m m' : Model} (he : e ∈ g.entities) (he' : e' ∈ g'.entities)
    (hgrows : e.GrowsTo e') (has : g.ancestors e = .ok as) (hm : g.synthesize naming e = .ok m)
    (hm' : g'.synthesize naming e' = .ok m') : m.ExtendedBy m' := by
  obtain ⟨as', has', hall⟩ := ancestors_of_growsTo hg has hgrows
  refine ⟨?_, ?_, ?_⟩
  · rw [model_entity_of_synthesize has hm, model_entity_of_synthesize has' hm', hgrows.name]
  · rw [Synthesis.model_hook ((synthesize_eq_ok_iff has).mp hm),
      Synthesis.model_hook ((synthesize_eq_ok_iff has').mp hm'), lineage_of_ancestors has,
      lineage_of_ancestors has', Synthesis.hook, Synthesis.hook, Synthesis.classOf,
      Synthesis.classOf, root_name_of_growsTo hgrows hall]
  · rw [dirtyBits_of_synthesize has hm, dirtyBits_of_synthesize has' hm']
    refine entries_assignDirtyBits_prefix ?_ (ownNames_nodup_of_mem he')
    rw [lineage_of_ancestors has, lineage_of_ancestors has']
    refine Lineage.ownProperties_prefix hgrows (forall₂_imp_of_mem hall ?_)
    intro a ha a' ha' hgrows'
    have hancestor : a ∈ (g.lineage e).ancestors := by rwa [lineage_of_ancestors has]
    refine ⟨hgrows', ?_⟩
    intro name hdeclared happended
    exact hapart e he a hancestor a' (ancestors_mem has' ha') hgrows'.name name happended hdeclared

/-- Where entities have grown, so have their models, level by level. -/
theorem modelsOf_extendedBy (hg : g.GrowsTo g') (hapart : g.AppendsApart g') (hs : g.ChainsSound)
    {es es' : List Entity} {ms ms' : List Model} (hes : ∀ e ∈ es, e ∈ g.entities)
    (hes' : ∀ e ∈ es', e ∈ g'.entities) (hgrows : List.Forall₂ Entity.GrowsTo es es')
    (h : g.ModelsOf naming es ms) (h' : g'.ModelsOf naming es' ms') :
    List.Forall₂ Model.ExtendedBy ms ms' := by
  induction hgrows generalizing ms ms' with
  | nil =>
    obtain rfl := modelsOf_nil_iff.mp h
    obtain rfl := modelsOf_nil_iff.mp h'
    exact .nil
  | @cons e e' es es' hhead _ ih =>
    obtain ⟨m, rest, rfl, hm, hrest⟩ := List.map_eq_cons_iff.mp h.symm
    obtain ⟨m', rest', rfl, hm', hrest'⟩ := List.map_eq_cons_iff.mp h'.symm
    obtain ⟨he, hes⟩ := List.forall_mem_cons.mp hes
    obtain ⟨he', hes'⟩ := List.forall_mem_cons.mp hes'
    obtain ⟨as, has⟩ := hs e he
    have hhead' := extendedBy_of_synthesize hg hapart he he' hhead has hm.symm hm'.symm
    exact .cons hhead' (ih hes hes' hrest.symm hrest'.symm)

/-- Level by level, the chain of an entity is extended by that of the grown entity. -/
theorem chain_extendedBy (hg : g.GrowsTo g') (hapart : g.AppendsApart g')
    (hc : g.compile naming = .ok c) (hc' : g'.compile naming = .ok c') {entity : String}
    (h : entity ∈ c.models.keys) (h' : entity ∈ c'.models.keys) :
    ∃ ch ch', c.chain entity = .ok ch ∧ c'.chain entity = .ok ch' ∧
      List.Forall₂ Model.ExtendedBy ch.levels ch'.levels := by
  obtain ⟨ch, e, as, hch, he, rfl, has, _, hlevels⟩ := chain_of_mem_keys hc h
  obtain ⟨ch', e', as', hch', he', hname, has', _, hlevels'⟩ := chain_of_mem_keys hc' h'
  refine ⟨ch, ch', hch, hch', ?_⟩
  -- the line of the grown entity is the old line with every entity grown
  obtain ⟨x, hx, hgrows⟩ := get?_of_growsTo hg (get?_eq_some_iff.mpr ⟨he, rfl⟩)
  obtain rfl : x = e' := Option.some.inj (hx.symm.trans (get?_eq_some_iff.mpr ⟨he', hname⟩))
  obtain ⟨xs, hxs, hall⟩ := ancestors_of_growsTo hg has hgrows
  obtain rfl : xs = as' := Except.ok.inj (hxs.symm.trans has')
  have hmem : ∀ a ∈ as ++ [e], a ∈ g.entities := fun a ha => lineage_mem he has ha
  have hmem' : ∀ a ∈ xs ++ [x], a ∈ g'.entities := fun a ha => lineage_mem he' has' ha
  exact modelsOf_extendedBy hg hapart (chainsSound_of_compile hc) hmem hmem'
    (List.rel_append hall (.cons hgrows .nil)) hlevels hlevels'

end Graph

end EntityModels
