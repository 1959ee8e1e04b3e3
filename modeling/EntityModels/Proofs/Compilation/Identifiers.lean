import EntityModels.Proofs.Compilation.Numbering

/-!
Generated identifiers down a hierarchy. The check of an entity compares each of its properties with
the nearest ancestor that has the identifier only. That is enough, because in a compilation the
ancestors have passed the check as well, so no two of their names have one identifier.
-/
namespace EntityModels

/-- The names that some entities declare have one identifier only when they are one name. -/
def IdentifiersApart (es : List Entity) : Prop :=
  ∀ n ∈ es.flatMap Entity.declaredNames, ∀ n' ∈ es.flatMap Entity.declaredNames,
    Naming.propertyName n = Naming.propertyName n' → n = n'

namespace Lineage

variable {l : Lineage} {n n' : String}

theorem inherited?_isSome (hn : n ∈ l.ancestors.flatMap Entity.declaredNames) :
    (l.inherited? (Naming.propertyName n)).isSome := by
  obtain ⟨a, ha, hdeclared⟩ := List.mem_flatMap.mp hn
  have hmem : ⟨a.name, n, Naming.propertyName n⟩ ∈ l.inheritedNames.reverse := by
    rw [List.mem_reverse, inheritedNames, List.mem_flatMap]
    exact ⟨a, ha, List.mem_map_of_mem hdeclared⟩
  exact List.find?_isSome.mpr ⟨_, hmem, by simp⟩

/-- What is found under an identifier is a name of an ancestor with that identifier. -/
theorem inherited?_eq_some {generated : String} {found : InheritedName}
    (h : l.inherited? generated = some found) :
    found.name ∈ l.ancestors.flatMap Entity.declaredNames ∧
      Naming.propertyName found.name = generated := by
  have hmem := List.mem_reverse.mp (List.mem_of_find?_eq_some h)
  have hgenerated : found.generated = generated := by simpa using List.find?_some h
  obtain ⟨a, ha, hfound⟩ := List.mem_flatMap.mp hmem
  obtain ⟨name, hname, rfl⟩ := List.mem_map.mp hfound
  exact ⟨List.mem_flatMap.mpr ⟨a, ha, hname⟩, hgenerated⟩

/-- A name that does not collide with the nearest ancestor's is the name of every ancestor that has
its identifier, if the ancestors' own identifiers are apart. -/
theorem eq_of_collision?_eq_none (hcheck : l.collision? n = none)
    (hapart : IdentifiersApart l.ancestors)
    (hn' : n' ∈ l.ancestors.flatMap Entity.declaredNames)
    (heq : Naming.propertyName n = Naming.propertyName n') : n = n' := by
  obtain ⟨found, hfound⟩ := Option.isSome_iff_exists.mp (inherited?_isSome hn')
  obtain ⟨hdeclared, hgenerated⟩ := inherited?_eq_some hfound
  have hsame : found.name = n := by
    unfold collision? at hcheck
    rw [heq, hfound] at hcheck
    simpa using hcheck
  -- the one found may belong to another ancestor than `n'`, but it has the identifier of `n'`
  rw [← hsame]
  exact hapart _ hdeclared _ hn' hgenerated

/-- An entity that has passed its check joins ancestors whose identifiers are apart. -/
theorem identifiersApart_concat (hchecks : ∀ n ∈ l.entity.declaredNames, l.collision? n = none)
    (hown : (l.entity.declaredNames.map Naming.propertyName).Nodup)
    (hapart : IdentifiersApart l.ancestors) : IdentifiersApart (l.ancestors ++ [l.entity]) := by
  intro n hn n' hn' heq
  rw [List.flatMap_append, List.flatMap_singleton, List.mem_append] at hn hn'
  rcases hn with hn | hn
  · rcases hn' with hn' | hn'
    · exact hapart n hn n' hn' heq
    · exact (eq_of_collision?_eq_none (hchecks n' hn') hapart hn heq.symm).symm
  · rcases hn' with hn' | hn'
    · exact eq_of_collision?_eq_none (hchecks n hn) hapart hn' heq
    · exact List.inj_on_of_nodup_map hown hn hn' heq

end Lineage

namespace Graph

variable {g : Graph} {naming : Naming} {c : Compilation}

theorem identifiersApart_of_synthesizes {e : Entity} {as : List Entity} (he : e ∈ g.entities)
    (has : g.ancestors e = .ok as) (hsynthesizes : g.synthesizes naming e = true)
    (hapart : IdentifiersApart as) : IdentifiersApart (as ++ [e]) := by
  obtain ⟨m, hm⟩ := synthesizes_iff.mp hsynthesizes
  have hmodel := (synthesize_eq_ok_iff has).mp hm
  rw [lineage_of_ancestors has] at hmodel
  exact Lineage.identifiersApart_concat (l := ⟨as, e⟩) (Synthesis.model_ok hmodel).apart
    (propertyNames_nodup he) hapart

/-- Down the lineage of an entity that compiles, one identifier is one name. -/
theorem identifiersApart_of_compiles {e : Entity} {as : List Entity} (he : e ∈ g.entities)
    (has : g.ancestors e = .ok as) (hcompiles : g.compiles naming e = true) :
    IdentifiersApart (as ++ [e]) := by
  have hsynthesizes := ((compiles_iff has).mp hcompiles).1
  refine identifiersApart_of_synthesizes he has hsynthesizes ?_
  -- from the root down: each level has passed its check against the levels above it
  induction as using List.reverseRecOn generalizing e with
  | nil => simp [IdentifiersApart]
  | append_singleton as p ih =>
    have hp : p ∈ as ++ [p] := by simp
    have hpmem := ancestors_mem has hp
    have hpas := (ancestors_concat has).2
    have hpcompiles := compiles_of_mem has hcompiles hp
    have hpsynthesizes := ((compiles_iff hpas).mp hpcompiles).1
    exact identifiersApart_of_synthesizes hpmem hpas hpsynthesizes
      (ih hpmem hpas hpcompiles hpsynthesizes)

/-- A model gives each own property the identifier of its name. -/
theorem properties_map_propertyName {e : Entity} {as : List Entity} {m : Model}
    (he : e ∈ g.entities) (has : g.ancestors e = .ok as) (hm : g.synthesize naming e = .ok m) :
    m.properties.map (·.propertyName) =
      m.modelClass.ownProperties.map fun p => Naming.propertyName p.name := by
  rw [Synthesis.model_ownProperties ((synthesize_eq_ok_iff has).mp hm)]
  have haligned := forall₂_properties he hm
  exact (map_eq_map_of_forall₂ (haligned.imp fun p pm h => h.propertyName.symm)).symm

/-- The own properties are the numbered names. -/
theorem ownProperties_map_name {e : Entity} {as : List Entity} {m : Model}
    (he : e ∈ g.entities) (has : g.ancestors e = .ok as) (hm : g.synthesize naming e = .ok m) :
    m.modelClass.ownProperties.map (·.name) = m.modelClass.dirtyBits.keys := by
  rw [Synthesis.model_ownProperties ((synthesize_eq_ok_iff has).mp hm), keys_dirtyBits he has hm]
  rfl

/-- Down the chain of a compiled entity the own properties have different identifiers. -/
theorem ownProperties_propertyNames_nodup (hs : g.ChainsSound) {e : Entity}
    {as : List Entity} {ms : List Model} (he : e ∈ g.entities) (has : g.ancestors e = .ok as)
    (hcompiles : g.compiles naming e = true) (h : g.ModelsOf naming (as ++ [e]) ms) :
    (ms.flatMap fun m =>
      m.modelClass.ownProperties.map fun p => Naming.propertyName p.name).Nodup := by
  have hnumbered : ∀ m ∈ ms, m.modelClass.ownProperties.map (·.name) =
        m.modelClass.dirtyBits.keys ∧
      ∀ n ∈ m.modelClass.dirtyBits.keys, n ∈ (as ++ [e]).flatMap Entity.declaredNames := by
    intro m hm
    obtain ⟨x, xs, hx, hmem, hxs, hxm⟩ := h.exists_lineage hs he has hm
    refine ⟨ownProperties_map_name hmem hxs hxm, fun n hn => ?_⟩
    rw [keys_dirtyBits hmem hxs hxm] at hn
    exact List.mem_flatMap.mpr ⟨x, hx, (Lineage.mem_ownNames_iff.mp hn).1⟩
  have heq : (ms.flatMap fun m =>
        m.modelClass.ownProperties.map fun p => Naming.propertyName p.name) =
      (ms.flatMap fun m => m.modelClass.dirtyBits.keys).map Naming.propertyName := by
    rw [List.map_flatMap]
    refine List.flatMap_congr fun m hm => ?_
    rw [← (hnumbered m hm).1, List.map_map]
    rfl
  have hdeclared : ∀ n ∈ ms.flatMap fun m => m.modelClass.dirtyBits.keys,
      n ∈ (as ++ [e]).flatMap Entity.declaredNames := by
    intro n hn
    obtain ⟨m, hm, hkey⟩ := List.mem_flatMap.mp hn
    exact (hnumbered m hm).2 n hkey
  have hapart := identifiersApart_of_compiles he has hcompiles
  rw [heq]
  exact (numbered_names_nodup he has h).map_on fun n hn n' hn' =>
    hapart n (hdeclared n hn) n' (hdeclared n' hn')

/-- Over the whole hierarchy of an entity with a model, redeclared names included, different names
have different identifiers, so no two own properties of its chain are given the same one. -/
theorem identifiers_apart (hc : g.compile naming = .ok c) {e : Entity} (he : e ∈ g.entities)
    (hmodel : e.name ∈ c.models.keys) :
    ∃ as ch, g.ancestors e = .ok as ∧ c.chain e.name = .ok ch ∧ IdentifiersApart (as ++ [e]) ∧
      (∀ m ∈ ch.levels, m.properties.map (·.propertyName) =
        m.modelClass.ownProperties.map fun p => Naming.propertyName p.name) ∧
      (ch.levels.flatMap fun m => m.properties.map (·.propertyName)).Nodup := by
  obtain ⟨ch, e', as, hch, he', hname, has, hcompiles, hlevels⟩ := chain_of_mem_keys hc hmodel
  obtain rfl := eq_of_name_eq he' he hname
  have hs := chainsSound_of_compile hc
  have hown : ∀ m ∈ ch.levels, m.properties.map (·.propertyName) =
      m.modelClass.ownProperties.map fun p => Naming.propertyName p.name := by
    intro m hm
    obtain ⟨x, xs, _, hmem, hxs, hxm⟩ := hlevels.exists_lineage hs he has hm
    exact properties_map_propertyName hmem hxs hxm
  refine ⟨as, ch, has, hch, identifiersApart_of_compiles he has hcompiles, hown, ?_⟩
  rw [List.flatMap_congr hown]
  exact ownProperties_propertyNames_nodup hs he has hcompiles hlevels

theorem identifiers_apart_boards : ∃ c e as ch, boards.compile {} = .ok c ∧
    boards.get? "vault" = some e ∧ boards.ancestors e = .ok as ∧ c.chain "vault" = .ok ch ∧
    IdentifiersApart (as ++ [e]) ∧
    (ch.levels.flatMap fun m => m.properties.map (·.propertyName)).Nodup := by
  obtain ⟨c, hc, hkeys, _⟩ := compile_boards
  have hfound : (boards.get? "vault").isSome = true := by decide +kernel
  obtain ⟨e, he⟩ := Option.isSome_iff_exists.mp hfound
  obtain ⟨hmem, hname⟩ := get?_eq_some_iff.mp he
  obtain ⟨as, ch, has, hch, hapart, _, hnodup⟩ :=
    identifiers_apart hc hmem (by rw [hname, hkeys]; simp)
  rw [hname] at hch
  exact ⟨c, e, as, ch, hc, he, has, hch, hapart, hnodup⟩

end Graph

end EntityModels
