import EntityModels.Proofs.Compilation.Chain
import Mathlib.Data.List.Pairwise

/-!
The numbering of properties along a chain. Each class numbers its own properties from zero, and a
name that several classes of a chain declare is numbered by the first of them only.
-/
namespace EntityModels

/-- No class stands twice on the chain, no name is numbered twice, and each class numbers its own
properties from zero in their order. -/
structure Chain.Numbering (ch : Chain) : Prop where
  owners : (ch.levels.map (·.entity)).Nodup
  names : (ch.levels.flatMap fun m => m.modelClass.dirtyBits.keys).Nodup
  bits : ∀ m ∈ ch.levels, m.modelClass.dirtyBits.values = List.range m.modelClass.dirtyBits.size

namespace Graph

variable {g : Graph} {naming : Naming} {c : Compilation}

theorem dirtyBits_of_synthesize {e : Entity} {as : List Entity} {m : Model}
    (has : g.ancestors e = .ok as) (hm : g.synthesize naming e = .ok m) :
    m.modelClass.dirtyBits = assignDirtyBits (g.lineage e).ownProperties :=
  Synthesis.model_dirtyBits ((synthesize_eq_ok_iff has).mp hm)

theorem keys_dirtyBits {e : Entity} {as : List Entity} {m : Model} (he : e ∈ g.entities)
    (has : g.ancestors e = .ok as) (hm : g.synthesize naming e = .ok m) :
    m.modelClass.dirtyBits.keys = (g.lineage e).ownNames := by
  rw [dirtyBits_of_synthesize has hm]
  exact keys_assignDirtyBits (ownNames_nodup_of_mem he)

/-- The bits of a class count from zero without a gap. -/
theorem values_dirtyBits {e : Entity} {as : List Entity} {m : Model} (he : e ∈ g.entities)
    (has : g.ancestors e = .ok as) (hm : g.synthesize naming e = .ok m) :
    m.modelClass.dirtyBits.values = List.range m.modelClass.dirtyBits.size := by
  have hsize : m.modelClass.dirtyBits.size = (g.lineage e).ownProperties.length := by
    rw [← Record.length_keys, keys_dirtyBits he has hm, Lineage.ownNames, List.length_map]
  rw [hsize, dirtyBits_of_synthesize has hm]
  exact values_assignDirtyBits (ownNames_nodup_of_mem he)

/-- Down a lineage no name is numbered again: it would be declared by an ancestor. -/
theorem numbered_names_nodup {e : Entity} {as : List Entity} {ms : List Model}
    (he : e ∈ g.entities) (has : g.ancestors e = .ok as)
    (h : g.ModelsOf naming (as ++ [e]) ms) :
    (ms.flatMap fun m => m.modelClass.dirtyBits.keys).Nodup := by
  induction as using List.reverseRecOn generalizing e ms with
  | nil =>
    obtain ⟨above, m, rfl, habove, hm⟩ := modelsOf_concat_iff.mp h
    obtain rfl := modelsOf_nil_iff.mp habove
    simpa using m.modelClass.dirtyBits.keys_nodup
  | append_singleton as p ih =>
    obtain ⟨above, m, rfl, habove, hm⟩ := modelsOf_concat_iff.mp h
    have hp : p ∈ g.entities := ancestors_mem has (by simp)
    have hrest := ih hp (ancestors_concat has).2 habove
    rw [List.flatMap_append, List.flatMap_singleton]
    refine List.Nodup.append hrest m.modelClass.dirtyBits.keys_nodup ?_
    intro name habove' hname
    obtain ⟨m', hm', hname'⟩ := List.mem_flatMap.mp habove'
    obtain ⟨a, ha, ham⟩ := habove.exists_of_mem hm'
    have hmem := ancestors_mem has ha
    obtain ⟨xs, _, _, hxs⟩ := ancestors_of_mem has ha
    rw [keys_dirtyBits hmem hxs ham] at hname'
    rw [keys_dirtyBits he has hm] at hname
    have hdeclared : name ∈ a.declaredNames := (Lineage.mem_ownNames_iff.mp hname').1
    have hnew := (Lineage.mem_ownNames_iff.mp hname).2
    rw [lineage_of_ancestors has] at hnew
    exact hnew a ha hdeclared

/-- Every chain of a compilation is numbered level by level, with no name twice. -/
theorem numbering_of_chain (hc : g.compile naming = .ok c) {name : String} {ch : Chain}
    (h : c.chain name = .ok ch) : ch.Numbering := by
  obtain ⟨ch', e, as, hch', he, rfl, has, _, hlevels⟩ :=
    chain_of_mem_keys hc (mem_keys_of_chain h)
  obtain rfl : ch' = ch := Except.ok.inj (hch'.symm.trans h)
  refine ⟨?_, numbered_names_nodup he has hlevels, ?_⟩
  · rw [levels_map_entity has hlevels]
    exact lineage_names_nodup has
  · intro m hm
    obtain ⟨x, xs, _, hmem, hxs, hxm⟩ :=
      hlevels.exists_lineage (chainsSound_of_compile hc) he has hm
    exact values_dirtyBits hmem hxs hxm

theorem chain_entity (hc : g.compile naming = .ok c) {name : String} {ch : Chain}
    (h : c.chain name = .ok ch) : ch.entity = name := by
  obtain ⟨ch', e, as, hch', he, rfl, has, _, hlevels⟩ :=
    chain_of_mem_keys hc (mem_keys_of_chain h)
  obtain rfl : ch' = ch := Except.ok.inj (hch'.symm.trans h)
  have hnames := levels_map_entity has hlevels
  rw [Chain.levels, List.map_append, List.map_singleton] at hnames
  exact (List.append_singleton_inj.mp hnames).2

end Graph

namespace Chain.Numbering

variable {ch : Chain} {m m' : Model} {name name' : String} {bit bit' : Nat}

/-- A name is numbered by one class of the chain only. -/
theorem level_unique (hn : ch.Numbering) (hm : m ∈ ch.levels) (hm' : m' ∈ ch.levels)
    (h : name ∈ m.modelClass.dirtyBits.keys) (h' : name ∈ m'.modelClass.dirtyBits.keys) :
    m = m' := by
  by_contra hne
  have hdisjoint := (List.nodup_flatMap.mp hn.names).2
  have hsymm : Std.Symm (Function.onFun List.Disjoint
      fun m : Model => m.modelClass.dirtyBits.keys) := ⟨fun _ _ hab _ hb ha => hab ha hb⟩
  exact hdisjoint.forall hm hm' hne h h'

/-- A class of the chain is known by its entity. -/
theorem owner_inj (hn : ch.Numbering) (hm : m ∈ ch.levels) (hm' : m' ∈ ch.levels)
    (h : m.entity = m'.entity) : m = m' :=
  List.inj_on_of_nodup_map hn.owners hm hm' h

theorem bits_pairwise (hn : ch.Numbering) (hm : m ∈ ch.levels) :
    m.modelClass.dirtyBits.values.Pairwise (· < ·) := by
  rw [hn.bits m hm]
  exact List.pairwise_lt_range

/-- A class gives no bit to two names. -/
theorem name_unique (hn : ch.Numbering) (hm : m ∈ ch.levels)
    (h : m.modelClass.dirtyBits.get? name = some bit)
    (h' : m.modelClass.dirtyBits.get? name' = some bit) : name = name' := by
  have hvalues : (m.modelClass.dirtyBits.entries.map (·.2)).Nodup :=
    (hn.bits_pairwise hm).imp Nat.ne_of_lt
  have hpair := List.inj_on_of_nodup_map hvalues (Record.get?_eq_some_iff.mp h)
    (Record.get?_eq_some_iff.mp h') rfl
  exact (Prod.mk.inj hpair).1

end Chain.Numbering

end EntityModels
