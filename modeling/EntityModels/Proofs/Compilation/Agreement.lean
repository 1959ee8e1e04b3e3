import EntityModels.Proofs.Compilation.Partition
import EntityModels.Proofs.Target.Coercion
import EntityModels.Proofs.Target.Unresolved

/-!
What a graph contributes to one of its entities: the targets of the references of the entity and of
its ancestors, and nothing else. In two graphs that resolve these alike the entity has the same
ancestors, the same model or fault, and the same place in a compilation.
-/
namespace EntityModels

/-- The references that an entity follows: to its parent, in its properties, those that it declares
again included, and in the shape of the values under undeclared keys. -/
def Entity.references (e : Entity) : List String :=
  e.parent.toList ++ e.properties.filterMap (·.variant.target?) ++
    (e.additional.bind Variant.target?).toList

theorem Entity.mem_references_iff {e : Entity} {reference : String} :
    reference ∈ e.references ↔ e.parent = some reference ∨
      (∃ p ∈ e.properties, p.variant.Mentions reference) ∨
        ∃ v, e.additional = some v ∧ v.Mentions reference := by
  simp [references, Option.bind_eq_some_iff, Variant.target?_eq_some_iff]

namespace Graph

variable {g g' : Graph} {naming : Naming} {e : Entity}

/-- The two graphs resolve alike what the entities of the first one refer to. -/
def AgreesWith (g g' : Graph) : Prop :=
  ∀ e ∈ g.entities, ∀ reference ∈ e.references, g'.target? reference = g.target? reference

/-- The climb meets the same entities in both graphs: the next one on the way up is again one of the
first graph. -/
theorem climb_of_agreesWith (h : g.AgreesWith g') {start cursor : Entity} {met : List Entity}
    (hcursor : cursor ∈ g.entities) : g'.climb start met cursor = g.climb start met cursor := by
  fun_induction climb g start met cursor with
  | case1 met cursor hnone => exact climb_of_parent_eq_none hnone
  | case2 met cursor reference hparent hnone =>
    have htarget := h cursor hcursor reference (Entity.mem_references_iff.mpr (.inl hparent))
    rw [climb_of_parent_eq_some hparent, htarget, hnone]
  | case3 met cursor reference hparent p hfound hagain =>
    have htarget := h cursor hcursor reference (Entity.mem_references_iff.mpr (.inl hparent))
    rw [climb_of_parent_eq_some hparent, htarget, hfound]
    exact if_pos hagain
  | case4 met cursor reference hparent p hfound hagain ih =>
    have htarget := h cursor hcursor reference (Entity.mem_references_iff.mpr (.inl hparent))
    rw [climb_of_parent_eq_some hparent, htarget, hfound, ← ih (target?_mem hfound)]
    exact if_neg hagain

theorem ancestors_of_agreesWith (h : g.AgreesWith g') (he : e ∈ g.entities) :
    g'.ancestors e = g.ancestors e :=
  climb_of_agreesWith h he

theorem lineage_of_agreesWith (h : g.AgreesWith g') (he : e ∈ g.entities) :
    g'.lineage e = g.lineage e := by
  rw [lineage, lineage, ancestors_of_agreesWith h he]

end Graph

/-- A shape is lowered through the reference in it and nothing else of the graph. -/
theorem TargetType.ofVariant_congr {g g' : Graph} {naming : Naming} {v : Variant}
    (h : ∀ t, v.Mentions t → g'.target? t = g.target? t) :
    ofVariant g' naming v = ofVariant g naming v := by
  induction v with
  | scalar | text | untyped => rfl
  | container kind element ih =>
    rw [ofVariant, ofVariant, ih fun t ht => h t (.element ht)]
  | reference target =>
    rw [ofVariant, ofVariant, ofReference, ofReference, h target .reference]

namespace Synthesis

variable {s s' : Synthesis} {l : Lineage}

/-- Two syntheses that lower the shapes of an entity alike give it the same model or fault. -/
theorem model_congr (hnaming : s'.naming = s.naming)
    (hproperties : ∀ p ∈ l.entity.properties, s'.typeOf p.variant = s.typeOf p.variant)
    (hadditional : ∀ v, l.entity.additional = some v →
      s'.typeOf (.container .map v) = s.typeOf (.container .map v)) :
    s'.model l = s.model l := by
  -- the rule of a shape is that of its type
  have hcoercion : ∀ v, s'.typeOf v = s.typeOf v → s'.coercionOf v = s.coercionOf v := by
    intro v hv
    rw [coercionOf, coercionOf, CoercionRule.ofVariant_eq_coercion,
      CoercionRule.ofVariant_eq_coercion]
    exact congrArg TargetType.coercion hv
  have hclass : s'.classOf = s.classOf := by
    funext e
    rw [classOf, classOf, hnaming]
  have hrecord : s'.propertyModelOf = s.propertyModelOf := by
    funext entity p bit type coercion
    rw [propertyModelOf, propertyModelOf, hclass]
  have hmodels : s'.propertyModels l = s.propertyModels l := by
    rw [propertyModels, propertyModels]
    apply mapM_congr_of_mem
    rintro ⟨p, bit⟩ hpair
    have hp : p ∈ l.entity.properties := (List.mem_filter.mp (List.of_mem_zip hpair).1).1
    dsimp only
    rw [propertyModel, propertyModel, hproperties _ hp, hcoercion _ (hproperties _ hp), hrecord]
  have hvalue : s'.additionalModel l.entity = s.additionalModel l.entity := by
    rw [additionalModel, additionalModel]
    cases hv : l.entity.additional with
    | none => rfl
    | some v =>
      dsimp only
      rw [valueModel, valueModel, hadditional v hv, hcoercion _ (hadditional v hv)]
  have hlink : s'.parentLink = s.parentLink := by
    funext parent
    rw [parentLink, parentLink, hclass]
  have hmodel : s'.modelOf l = s.modelOf l := by
    funext properties additional
    rw [modelOf, modelOf, modelClass, modelClass, hook, hook, hlink, hclass]
  rw [model, model, hmodels, hvalue, hmodel]

end Synthesis

namespace Graph

variable {g g' : Graph} {naming : Naming} {e : Entity}

/-- An entity has the same model or the same fault in both graphs. -/
theorem outcome_of_agreesWith (h : g.AgreesWith g') (he : e ∈ g.entities) :
    g'.outcome naming e = g.outcome naming e := by
  rw [outcome, outcome, lineage_of_agreesWith h he]
  congr 1
  refine Synthesis.model_congr rfl ?_ ?_
  · intro p hp
    refine TargetType.ofVariant_congr fun t ht => h e he t ?_
    exact Entity.mem_references_iff.mpr (.inr (.inl ⟨p, hp, ht⟩))
  · intro v hv
    refine TargetType.ofVariant_congr fun t ht => h e he t ?_
    cases ht with
    | element ht => exact Entity.mem_references_iff.mpr (.inr (.inr ⟨v, hv, ht⟩))

theorem synthesize_of_agreesWith (h : g.AgreesWith g') (he : e ∈ g.entities) :
    g'.synthesize naming e = g.synthesize naming e := by
  have hancestors := ancestors_of_agreesWith h he
  cases has : g.ancestors e with
  | error fault =>
    rw [synthesize, synthesize, hancestors, has]
  | ok as =>
    have houtcome : g'.outcome naming e = g.outcome naming e := outcome_of_agreesWith h he
    rw [synthesize_of_ancestors has, synthesize_of_ancestors (hancestors.trans has)]
    exact congrArg (fun o => o.result.mapError CompileFault.entity) houtcome

theorem hasFailedAncestor_of_agreesWith (h : g.AgreesWith g') (hs : g.ChainsSound)
    (he : e ∈ g.entities) : g'.hasFailedAncestor naming e = g.hasFailedAncestor naming e := by
  obtain ⟨as, has⟩ := hs e he
  rw [hasFailedAncestor, hasFailedAncestor, lineage_of_agreesWith h he, lineage_of_ancestors has,
    Bool.eq_iff_iff, List.any_eq_true, List.any_eq_true]
  refine exists_congr fun a => and_congr_right fun ha => ?_
  rw [synthesizes, synthesizes, synthesize_of_agreesWith h (ancestors_mem has ha)]

theorem compiles_of_agreesWith (h : g.AgreesWith g') (hs : g.ChainsSound) (he : e ∈ g.entities) :
    g'.compiles naming e = g.compiles naming e := by
  rw [compiles, compiles, hasFailedAncestor_of_agreesWith h hs he, synthesizes, synthesizes,
    synthesize_of_agreesWith h he]

theorem isOrphaned_of_agreesWith (h : g.AgreesWith g') (hs : g.ChainsSound)
    (he : e ∈ g.entities) : g'.isOrphaned naming e = g.isOrphaned naming e := by
  rw [isOrphaned, isOrphaned, hasFailedAncestor_of_agreesWith h hs he, synthesizes, synthesizes,
    synthesize_of_agreesWith h he]

/-- Two compilations give the entities of both graphs the same faults and models. -/
structure SameOutcome (g g' : Graph) (naming : Naming) (e : Entity) : Prop where
  fault : (g'.outcome naming e).fault? = (g.outcome naming e).fault?
  inherited : (g'.outcome naming e).inheritedFault? (g'.failedNames naming) =
    (g.outcome naming e).inheritedFault? (g.failedNames naming)
  model : (g'.outcome naming e).model? (g'.failedNames naming) =
    (g.outcome naming e).model? (g.failedNames naming)

/-- In graphs that agree, an entity of both has the same place in the two compilations. -/
theorem sameOutcome_of_agreesWith (h : g.AgreesWith g') (hs : g.ChainsSound)
    (hs' : g'.ChainsSound) (he : e ∈ g.entities) (he' : e ∈ g'.entities) :
    g.SameOutcome g' naming e := by
  obtain ⟨as, has⟩ := hs e he
  have has' : g'.ancestors e = .ok as := (ancestors_of_agreesWith h he).trans has
  refine ⟨?_, ?_, ?_⟩
  · rw [outcome_of_agreesWith h he]
  · rw [inheritedFault?_outcome hs has, inheritedFault?_outcome hs' has',
      isOrphaned_of_agreesWith h hs he]
  · apply Option.ext
    intro entry
    rw [model?_outcome_eq_some_iff hs he, model?_outcome_eq_some_iff hs' he',
      compiles_of_agreesWith h hs he, synthesize_of_agreesWith h he]

end Graph

end EntityModels
