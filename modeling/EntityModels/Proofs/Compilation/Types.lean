import EntityModels.Proofs.Compilation.Chain
import EntityModels.Proofs.Target.Unresolved

/-!
The types in the models of a compilation, with their spellings and their coercion rules. Each comes
from a shape that is lowered and compiled against one graph, so type and rule agree, and no
primitive is left inside a container.
-/
namespace EntityModels

/-- Where a model has types, each with its spelling and the rule for its values: at its properties,
and for the values under undeclared keys. -/
inductive Model.Types (m : Model) : TargetType → String → CoercionRule → Prop
  | property {pm : PropertyModel} (h : pm ∈ m.properties) : Types m pm.type pm.typeName pm.coercion
  | value {vm : ValueModel} (h : m.additional = some vm) : Types m vm.type vm.typeName vm.coercion

namespace Graph

variable {g : Graph} {naming : Naming} {c : Compilation} {m : Model} {type : TargetType}
  {typeName : String} {rule : CoercionRule}

/-- Type, spelling and rule belong to one shape. -/
theorem exists_variant_of_types {e : Entity} (he : e ∈ g.entities)
    (hm : g.synthesize naming e = .ok m) (h : m.Types type typeName rule) :
    ∃ v, type = .ofVariant g naming v ∧ typeName = type.spelling ∧
      CoercionRule.ofVariant g naming v = .ok rule := by
  cases h with
  | property hpm =>
    obtain ⟨p, _, hdescribes⟩ := exists_of_forall₂_right (forall₂_properties he hm) hpm
    exact ⟨p.variant, hdescribes.type, hdescribes.typeName, hdescribes.coercion⟩
  | value hvm =>
    have hadditional := (Synthesis.model_ok (model_of_synthesize hm)).additional
    rw [hvm] at hadditional
    obtain ⟨v, _, htype, hname, hrule⟩ := Synthesis.exists_of_additionalModel_some hadditional
    exact ⟨.container .map v, htype, hname, hrule⟩

/-- A class in a lowered type is that of an entity of the graph. -/
theorem exists_of_occurs_model {v : Variant} {entity className : String}
    (h : TargetType.Occurs (.model entity className) (.ofVariant g naming v)) :
    ∃ e ∈ g.entities, e.name = entity ∧ className = naming.className e.name := by
  obtain ⟨_, e, _, htarget, rfl, rfl⟩ := occurs_model_ofVariant_iff.mp h
  exact ⟨e, target?_mem htarget, rfl, rfl⟩

/-- Every rule in a model agrees with its type, and no type in a model nests a primitive. -/
theorem agrees_of_types {e : Entity} (he : e ∈ g.entities) (hm : g.synthesize naming e = .ok m)
    (h : m.Types type typeName rule) : rule.Agrees type ∧ ¬type.NestsPrimitive := by
  obtain ⟨v, rfl, _, hrule⟩ := exists_variant_of_types he hm h
  rw [CoercionRule.ofVariant_eq_coercion] at hrule
  refine ⟨TargetType.agrees_of_coercion hrule, fun hnests => ?_⟩
  obtain ⟨fault, hfault⟩ := TargetType.coercion_eq_error_iff.mpr hnests
  simp [hfault] at hrule

/-- The two readings of a shape, as a type and as a coercion rule, agree. -/
structure CoercionAgrees (g : Graph) (naming : Naming) : Prop where
  fails : ∀ v, (∃ fault, CoercionRule.ofVariant g naming v = .error fault) ↔
    (TargetType.ofVariant g naming v).NestsPrimitive
  agrees : ∀ v rule, CoercionRule.ofVariant g naming v = .ok rule →
    rule.Agrees (TargetType.ofVariant g naming v)
  /-- The type alone decides the rule or the fault, even in another graph and under another
  naming. -/
  decided : ∀ g' naming' v v',
    TargetType.ofVariant g naming v = TargetType.ofVariant g' naming' v' →
      CoercionRule.ofVariant g naming v = CoercionRule.ofVariant g' naming' v'
  models : ∀ c, g.compile naming = .ok c → ∀ m ∈ c.models.values,
    ∀ type typeName rule, m.Types type typeName rule → rule.Agrees type ∧ ¬type.NestsPrimitive

/-- Types and rules agree in every graph, under every naming. -/
theorem coercion_agrees (g : Graph) (naming : Naming) : g.CoercionAgrees naming := by
  refine ⟨fun v => ?_, fun v rule hrule => ?_, fun g' naming' v v' heq => ?_, ?_⟩
  · rw [CoercionRule.ofVariant_eq_coercion]
    exact TargetType.coercion_eq_error_iff
  · rw [CoercionRule.ofVariant_eq_coercion] at hrule
    exact TargetType.agrees_of_coercion hrule
  · rw [CoercionRule.ofVariant_eq_coercion, CoercionRule.ofVariant_eq_coercion, heq]
  · intro c hc m hmem type typeName rule h
    obtain ⟨e, he, _, _, hm⟩ := exists_of_mem_values hc hmem
    exact agrees_of_types he hm h

/-- Two spellings of one board have one rule, in as many containers as their type. A map of lists of
integers has none. -/
theorem coercion_agrees_boards :
    CoercionRule.ofVariant boards {} (.container .map (.container .array (.reference "#board"))) =
      CoercionRule.ofVariant boards {}
        (.container .map (.container .array (.reference "schemas/board.json"))) ∧
    (∃ rule, CoercionRule.ofVariant boards {}
        (.container .map (.container .array (.reference "#board"))) = .ok rule ∧
      rule.leaf = .construct "board" "Board" ∧ rule.containers = [.map, .array]) ∧
    ∃ fault, CoercionRule.ofVariant boards {}
      (.container .map (.container .array (.scalar .integer))) = .error fault := by
  have hagrees := coercion_agrees boards {}
  have htype : TargetType.ofVariant boards {}
      (.container .map (.container .array (.reference "#board"))) =
        .container .map (.container .array (.model "board" "Board")) := by
    decide +kernel
  refine ⟨hagrees.decided _ _ _ _ (by decide +kernel), ?_, ?_⟩
  · have hview : (CoercionRule.ofVariant boards {}
        (.container .map (.container .array (.reference "#board")))).toOption.isSome = true := by
      decide +kernel
    obtain ⟨rule, hrule⟩ := Option.isSome_iff_exists.mp hview
    have hok := toOption_eq_some_iff.mp hrule
    have hboth := hagrees.agrees _ _ hok
    rw [htype] at hboth
    refine ⟨rule, hok, (hboth.construct "board" "Board").mpr (.inl rfl), ?_⟩
    exact hboth.containers (.inr (.inr (.inl ⟨"board", "Board", rfl⟩)))
  · refine (hagrees.fails _).mpr ⟨.array, .primitive .integer, .integer, ?_, .here⟩
    exact .element .here

end Graph

end EntityModels
