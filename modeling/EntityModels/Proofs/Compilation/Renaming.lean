import EntityModels.Proofs.Compilation.Diagnostics
import EntityModels.Proofs.Compilation.Types
import EntityModels.Proofs.Model.Renaming

/-!
Compilation under a prefix of the class names. Which entities fail, and with what, is decided
without looking at a class, and so are the warnings. So a run under a prefix stops where the run
without one does, and otherwise its result is that of the run without one, with the prefix in front
of every name that is made from a class.
-/
namespace EntityModels

variable {g : Graph} {front : String}

/-- An outcome with the prefix in front of the names in its model. -/
def Outcome.prefixed (g : Graph) (front : String) (o : Outcome) : Outcome :=
  { o with result := o.result.map (·.prefixed g front) }

namespace Outcome

variable {o : Outcome}

theorem fault?_prefixed : (o.prefixed g front).fault? = o.fault? := by
  unfold prefixed fault?
  cases o.result <;> rfl

theorem inheritedFault?_prefixed (failed : List String) :
    (o.prefixed g front).inheritedFault? failed = o.inheritedFault? failed := by
  unfold prefixed inheritedFault?
  cases o.result <;> rfl

/-- A prefix changes no key, and every model under it is the prefixed model. -/
theorem model?_prefixed (failed : List String) :
    (o.prefixed g front).model? failed =
      (o.model? failed).map fun entry => (entry.1, entry.2.prefixed g front) := by
  unfold prefixed model?
  cases o.result with
  | error fault => rfl
  | ok m =>
    dsimp only [Except.map]
    split <;> rfl

end Outcome

/-- The result of a run with a prefix in front of the classes of its models. -/
def Compilation.prefixed (g : Graph) (front : String) (c : Compilation) : Compilation :=
  { c with
    naming := ⟨some front⟩
    models := c.models.map (·.prefixed g front) }

/-- The failed entities are the same under a prefix, so they fail the same others. -/
theorem Compilation.ofOutcomes_prefixed (g : Graph) (front : String) (outcomes : List Outcome) :
    ofOutcomes ⟨some front⟩ (outcomes.map (·.prefixed g front)) =
      (ofOutcomes {} outcomes).prefixed g front := by
  have hfaults : (outcomes.map (·.prefixed g front)).filterMap Outcome.fault? =
      outcomes.filterMap Outcome.fault? := by
    rw [List.filterMap_map]
    exact List.filterMap_congr fun o _ => Outcome.fault?_prefixed
  have hinherited : ∀ failed,
      (outcomes.map (·.prefixed g front)).filterMap (Outcome.inheritedFault? failed) =
        outcomes.filterMap (Outcome.inheritedFault? failed) := by
    intro failed
    rw [List.filterMap_map]
    exact List.filterMap_congr fun o _ => Outcome.inheritedFault?_prefixed failed
  have hmodels : ∀ failed,
      (outcomes.map (·.prefixed g front)).filterMap (Outcome.model? failed) =
        (outcomes.filterMap (Outcome.model? failed)).map
          fun entry => (entry.1, entry.2.prefixed g front) := by
    intro failed
    rw [List.filterMap_map, List.map_filterMap]
    exact List.filterMap_congr fun o _ => Outcome.model?_prefixed failed
  simp only [ofOutcomes, prefixed, hfaults, hinherited, hmodels, Record.ofList_map,
    Record.values_map, List.flatMap_map]
  rfl

namespace Graph

/-- A graph compiles under a prefix to its prefixed compilation, or stops with the same fault. -/
theorem compile_prefixed (g : Graph) (front : String) :
    g.compile ⟨some front⟩ = (g.compile {}).map (·.prefixed g front) := by
  rw [compile, compile]
  cases g.lineages with
  | error fault => rfl
  | ok ls =>
    have houtcomes : (ls.map fun l => (⟨l, Synthesis.model ⟨g, ⟨some front⟩⟩ l⟩ : Outcome)) =
        (ls.map fun l => (⟨l, Synthesis.model ⟨g, {}⟩ l⟩ : Outcome)).map
          (·.prefixed g front) := by
      rw [List.map_map]
      refine List.map_congr_left fun l _ => ?_
      rw [Synthesis.model_prefixed]
      rfl
    have hresult := Compilation.ofOutcomes_prefixed g front
      (ls.map fun l => ⟨l, Synthesis.model ⟨g, {}⟩ l⟩)
    rw [← houtcomes] at hresult
    exact congrArg Except.ok hresult

/-- A construction whose target is not in the graph has no class name. -/
theorem className_of_unresolved {naming : Naming} {e : Entity} {m : Model} (he : e ∈ g.entities)
    (hm : g.synthesize naming e = .ok m) {type : TargetType} {typeName : String}
    {rule : CoercionRule} (h : m.Types type typeName rule) {target className : String}
    (hleaf : rule.leaf = .construct target className) (hnone : g.target? target = none) :
    className = "" := by
  obtain ⟨v, rfl, _, _⟩ := exists_variant_of_types he hm h
  rcases ((agrees_of_types he hm h).1.construct target className).mp hleaf with hmodel | hmissing
  · -- the class in a type is that of an entity, and its name resolves
    have hoccurs := TargetType.occurs_leaf (TargetType.ofVariant g naming v)
    rw [hmodel] at hoccurs
    obtain ⟨e', he', rfl, _⟩ := exists_of_occurs_model hoccurs
    rw [target?_name he'] at hnone
    exact absurd hnone (Option.some_ne_none e')
  · exact hmissing.2

/-- What a prefix of the class names changes in a run: the names that are made from classes, and of
them not the missing one of a construction whose target is not in the graph. -/
structure PrefixRenames (g : Graph) (front : String) : Prop where
  renamed : g.compile ⟨some front⟩ = (g.compile {}).map (·.prefixed g front)
  unresolved : ∀ naming c, g.compile naming = .ok c → ∀ m ∈ c.models.values,
    ∀ type typeName rule, m.Types type typeName rule → ∀ target className,
      rule.leaf = .construct target className → g.resolve target = .error ⟨target⟩ →
        className = ""

/-- A prefix renames what is made from classes, and nothing else, in every graph. -/
theorem prefix_renames (g : Graph) (front : String) : g.PrefixRenames front := by
  refine ⟨compile_prefixed g front, ?_⟩
  intro naming c hc m hmem type typeName rule htypes target className hleaf hresolve
  obtain ⟨e, he, _, _, hm⟩ := exists_of_mem_values hc hmem
  exact className_of_unresolved he hm htypes hleaf (resolve_eq_error_iff.mp hresolve).1

/-- In an album the class of the owner gets the prefix. The cover and the tags are without a
class. -/
example : ((albums.compile ⟨some "PI"⟩).toOption.bind (·.model? "album")).map
    (fun m => (m.modelClass.className, m.modelClass.forwardReferences,
      m.properties.map (·.coercion))) =
    some ("PIAlbum", ["PIUser"], [.construct "schemas/image.json" "", .construct "user" "PIUser",
      .elementwise .array (.elementwise .map (.construct "#tag" ""))]) := by
  decide +kernel

end Graph

end EntityModels
