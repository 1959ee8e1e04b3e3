import EntityModels.Model.Synthesis
import EntityModels.Proofs.Except
import EntityModels.Proofs.Target.Renaming
import Mathlib.Data.String.Basic

/-!
A model under a prefix of the class names. `prefixed` puts the prefix in front of every name in a
model that is made from a class and leaves all the rest alone. The synthesis under a prefix gives
the model of the synthesis without one, prefixed, or the same fault.
-/
namespace EntityModels

variable {g : Graph} {front : String}

def ParentLink.prefixed (front : String) (link : ParentLink) : ParentLink :=
  { link with
    className := front ++ link.className
    builderClassName := front ++ link.builderClassName }

def Hook.prefixed (front : String) (hook : Hook) : Hook :=
  { hook with
    protocolName := front ++ hook.protocolName
    selector := front ++ hook.selector }

def ModelClass.prefixed (front : String) (described : ModelClass) : ModelClass :=
  { described with
    className := front ++ described.className
    builderClassName := front ++ described.builderClassName
    dirtyPropertiesName := front ++ described.dirtyPropertiesName
    fileName := front ++ described.fileName
    parent := described.parent.map (·.prefixed front)
    forwardReferences := described.forwardReferences.map (front ++ ·)
    hook := described.hook.prefixed front }

/-- The spelling of the type is that of the prefixed type. -/
def PropertyModel.prefixed (g : Graph) (front : String) (pm : PropertyModel) : PropertyModel :=
  { pm with
    type := pm.type.prefixed front
    typeName := (pm.type.prefixed front).spelling
    coercion := pm.coercion.prefixed g front
    dirtyOptionName := front ++ pm.dirtyOptionName }

def ValueModel.prefixed (g : Graph) (front : String) (vm : ValueModel) : ValueModel :=
  { vm with
    type := vm.type.prefixed front
    typeName := (vm.type.prefixed front).spelling
    coercion := vm.coercion.prefixed g front }

def Model.prefixed (g : Graph) (front : String) (m : Model) : Model :=
  { m with
    modelClass := m.modelClass.prefixed front
    properties := m.properties.map (·.prefixed g front)
    additional := m.additional.map (·.prefixed g front) }

/-- What is in front of both of two texts does not matter to their order. -/
theorem append_lt_append_iff {text text' : String} :
    front ++ text < front ++ text' ↔ text < text' := by
  have hmono : StrictMono (front ++ ·) := by
    intro a b hlt
    rw [String.lt_iff_toList_lt] at hlt ⊢
    simp only [String.toList_append]
    exact List.append_left_lt hlt
  exact hmono.lt_iff_lt

theorem insertSorted_prefixed (text : String) (texts : List String) :
    insertSorted (front ++ text) (texts.map (front ++ ·)) =
      (insertSorted text texts).map (front ++ ·) := by
  induction texts with
  | nil => rfl
  | cons first rest ih =>
    simp only [insertSorted, List.map_cons, append_lt_append_iff, String.append_right_inj, ih]
    split
    · rfl
    · split <;> rfl

/-- Prefixed texts are sorted as they are without the prefix. -/
theorem sortDistinct_prefixed (texts : List String) :
    sortDistinct (texts.map (front ++ ·)) = (sortDistinct texts).map (front ++ ·) := by
  induction texts with
  | nil => rfl
  | cons first rest ih =>
    rw [sortDistinct, List.map_cons, List.foldr_cons, ← sortDistinct, ih, insertSorted_prefixed]
    rfl

namespace Synthesis

theorem typeOf_prefixed (v : Variant) :
    typeOf ⟨g, ⟨some front⟩⟩ v = (typeOf ⟨g, {}⟩ v).prefixed front :=
  TargetType.ofVariant_prefixed

theorem coercionOf_prefixed (v : Variant) :
    coercionOf ⟨g, ⟨some front⟩⟩ v = (coercionOf ⟨g, {}⟩ v).map (·.prefixed g front) :=
  CoercionRule.ofVariant_prefixed

theorem classOf_prefixed (e : Entity) :
    classOf ⟨g, ⟨some front⟩⟩ e = front ++ classOf ⟨g, {}⟩ e :=
  Naming.className_prefixed front e.name

/-- How a property is declared depends on no name. -/
theorem declarationOf_prefixed (type : TargetType) :
    declarationOf (type.prefixed front) = declarationOf type := by
  rw [declarationOf, declarationOf, TargetType.ownership_prefixed, TargetType.isPointer_prefixed]

/-- A reference that does not resolve is reported as it is written, whatever the prefix. -/
theorem diagnosticsOf_prefixed (entity site : String) (type : TargetType) :
    diagnosticsOf entity site (type.prefixed front) = diagnosticsOf entity site type := by
  rw [diagnosticsOf, diagnosticsOf, TargetType.unresolvedTargets_prefixed]

theorem propertyModelOf_prefixed (e : Entity) (p : Property) (bit : Nat) (type : TargetType)
    (rule : CoercionRule) :
    propertyModelOf ⟨g, ⟨some front⟩⟩ e p bit (type.prefixed front) (rule.prefixed g front) =
      (propertyModelOf ⟨g, {}⟩ e p bit type rule).prefixed g front := by
  simp only [propertyModelOf, PropertyModel.prefixed, classOf_prefixed, declarationOf_prefixed,
    TargetType.ownership_prefixed, Naming.dirtyOptionName, String.append_assoc]

theorem propertyModel_prefixed (e : Entity) (p : Property) (bit : Nat) :
    propertyModel ⟨g, ⟨some front⟩⟩ e p bit =
      (propertyModel ⟨g, {}⟩ e p bit).map (·.prefixed g front) := by
  rw [propertyModel, propertyModel, coercionOf_prefixed, typeOf_prefixed]
  cases coercionOf ⟨g, {}⟩ p.variant with
  | error fault => rfl
  | ok rule => exact congrArg Except.ok (propertyModelOf_prefixed e p bit _ rule)

theorem propertyModels_prefixed (l : Lineage) :
    propertyModels ⟨g, ⟨some front⟩⟩ l =
      (propertyModels ⟨g, {}⟩ l).map (List.map (·.prefixed g front)) := by
  rw [propertyModels, propertyModels, ← mapM_map_eq]
  exact mapM_congr_of_mem fun (p, bit) _ => propertyModel_prefixed l.entity p bit

theorem valueModelOf_prefixed (type : TargetType) (rule : CoercionRule) :
    valueModelOf (type.prefixed front) (rule.prefixed g front) =
      (valueModelOf type rule).prefixed g front := by
  simp only [valueModelOf, ValueModel.prefixed, TargetType.ownership_prefixed]

theorem valueModel_prefixed (e : Entity) (v : Variant) :
    valueModel ⟨g, ⟨some front⟩⟩ e v = (valueModel ⟨g, {}⟩ e v).map (·.prefixed g front) := by
  rw [valueModel, valueModel, coercionOf_prefixed, typeOf_prefixed]
  cases coercionOf ⟨g, {}⟩ (.container .map v) with
  | error fault => rfl
  | ok rule => exact congrArg Except.ok (valueModelOf_prefixed _ rule)

theorem additionalModel_prefixed (e : Entity) :
    additionalModel ⟨g, ⟨some front⟩⟩ e =
      (additionalModel ⟨g, {}⟩ e).map (Option.map (·.prefixed g front)) := by
  rw [additionalModel, additionalModel]
  cases e.additional with
  | none => rfl
  | some v =>
    dsimp only
    rw [valueModel_prefixed]
    cases valueModel ⟨g, {}⟩ e v <;> rfl

theorem parentLink_prefixed (parent : Entity) :
    parentLink ⟨g, ⟨some front⟩⟩ parent = (parentLink ⟨g, {}⟩ parent).prefixed front := by
  simp only [parentLink, ParentLink.prefixed, classOf_prefixed, Naming.builderClassName,
    String.append_assoc]

theorem hook_prefixed (l : Lineage) :
    hook ⟨g, ⟨some front⟩⟩ l = (hook ⟨g, {}⟩ l).prefixed front := by
  simp only [hook, Hook.prefixed, classOf_prefixed, Naming.protocolName, Naming.initializeSelector,
    String.append_assoc]

/-- The class that leaves itself out under the prefix is the one that does so without it. -/
theorem forwardReferences_prefixed (className : String) (properties : List PropertyModel) :
    forwardReferences (front ++ className) (properties.map (·.prefixed g front)) =
      (forwardReferences className properties).map (front ++ ·) := by
  have hmentioned : (properties.map (·.prefixed g front)).flatMap (·.type.classNames) =
      (properties.flatMap (·.type.classNames)).map (front ++ ·) := by
    simp only [List.flatMap_map, List.map_flatMap, PropertyModel.prefixed,
      TargetType.classNames_prefixed]
  have hself : ∀ name, front ++ name ≠ front ++ className ↔ name ≠ className :=
    fun name => not_congr (String.append_right_inj front)
  simp only [forwardReferences, hmentioned, List.filter_map, Function.comp_def, hself,
    sortDistinct_prefixed]

theorem containerNames_prefixed (kind : ContainerKind) (own : List Property)
    (properties : List PropertyModel) :
    containerNames kind own (properties.map (·.prefixed g front)) =
      containerNames kind own properties := by
  rw [containerNames, containerNames, List.zip_map_left, List.filterMap_map]
  rfl

/-- Each name of a class is generated from that of the class, so the prefix comes first in all of
them. -/
theorem modelClass_prefixed (l : Lineage) (properties : List PropertyModel) :
    modelClass ⟨g, ⟨some front⟩⟩ l (properties.map (·.prefixed g front)) =
      (modelClass ⟨g, {}⟩ l properties).prefixed front := by
  have hparent : l.parent?.map (parentLink ⟨g, ⟨some front⟩⟩) =
      (l.parent?.map (parentLink ⟨g, {}⟩)).map (·.prefixed front) := by
    rw [Option.map_map]
    exact congrArg (l.parent?.map ·) (funext parentLink_prefixed)
  have hnames : (properties.map (·.prefixed g front)).map (·.propertyName) =
      properties.map (·.propertyName) := by
    rw [List.map_map]
    rfl
  simp only [modelClass, ModelClass.prefixed, classOf_prefixed, hparent, hook_prefixed, hnames,
    containerNames_prefixed, forwardReferences_prefixed, Naming.builderClassName,
    Naming.dirtyPropertiesName, Naming.headerFileName, String.append_assoc]

theorem modelOf_prefixed (l : Lineage) (properties : List PropertyModel)
    (additional : Option ValueModel) :
    modelOf ⟨g, ⟨some front⟩⟩ l (properties.map (·.prefixed g front))
        (additional.map (·.prefixed g front)) =
      (modelOf ⟨g, {}⟩ l properties additional).prefixed g front := by
  have hproperties : (properties.map (·.prefixed g front)).flatMap
      (fun pm => diagnosticsOf l.entity.name pm.name pm.type) =
      properties.flatMap fun pm => diagnosticsOf l.entity.name pm.name pm.type := by
    simp only [List.flatMap_map, PropertyModel.prefixed, diagnosticsOf_prefixed]
  have hadditional : (additional.map (·.prefixed g front)).toList.flatMap
      (fun vm => diagnosticsOf l.entity.name additionalName vm.type) =
      additional.toList.flatMap fun vm =>
        diagnosticsOf l.entity.name additionalName vm.type := by
    simp only [Option.toList_map, List.flatMap_map, ValueModel.prefixed, diagnosticsOf_prefixed]
  simp only [modelOf, Model.prefixed, modelClass_prefixed, hproperties, hadditional]

/-- A lineage has the prefixed model, or the same fault. -/
theorem model_prefixed (l : Lineage) :
    model ⟨g, ⟨some front⟩⟩ l = (model ⟨g, {}⟩ l).map (·.prefixed g front) := by
  rw [model, model, propertyModels_prefixed, additionalModel_prefixed]
  cases l.entity.declaredNames.findSome? l.collision? with
  | some fault => rfl
  | none =>
    cases propertyModels ⟨g, {}⟩ l with
    | error fault => rfl
    | ok properties =>
      cases additionalModel ⟨g, {}⟩ l.entity with
      | error fault => rfl
      | ok additional => exact congrArg Except.ok (modelOf_prefixed l properties additional)

end Synthesis

end EntityModels
