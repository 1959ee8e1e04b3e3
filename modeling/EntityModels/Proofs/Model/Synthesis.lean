import EntityModels.Model.Synthesis
import EntityModels.Proofs.Except
import EntityModels.Proofs.Graph.Ancestry
import EntityModels.Proofs.Lists
import EntityModels.Proofs.Record

/-!
What a synthesis gives: the class it describes, the entity that its faults name, and the numbering
of the own properties.
-/
namespace EntityModels

namespace EntityFault

/-- A fault that an entity has on its own: in one of its containers, or with an inherited name. -/
def OwnOf (entity : String) (fault : EntityFault) : Prop :=
  (∃ property element, fault = .containerElement entity property element) ∨
    ∃ property ancestor inherited, fault = .inheritedCollision entity property ancestor inherited

theorem OwnOf.entity_eq {entity : String} {fault : EntityFault} (h : fault.OwnOf entity) :
    fault.entity = entity := by
  rcases h with ⟨_, _, rfl⟩ | ⟨_, _, _, rfl⟩
  · rfl
  · rfl

end EntityFault

namespace Lineage

/-- The names of the own properties in order. -/
def ownNames (l : Lineage) : List String := l.ownProperties.map (·.name)

theorem ownNames_eq (l : Lineage) :
    l.ownNames = l.entity.declaredNames.filter
      (· ∉ l.ancestors.flatMap Entity.declaredNames) := by
  rw [Entity.declaredNames, List.filter_map]
  rfl

theorem mem_ownNames_iff {l : Lineage} {n : String} :
    n ∈ l.ownNames ↔
      n ∈ l.entity.declaredNames ∧ ∀ a ∈ l.ancestors, n ∉ a.declaredNames := by
  simp [ownNames_eq]

theorem mem_ownProperties_iff {l : Lineage} {p : Property} :
    p ∈ l.ownProperties ↔
      p ∈ l.entity.properties ∧ ∀ a ∈ l.ancestors, p.name ∉ a.declaredNames := by
  simp [ownProperties, List.mem_filter]

theorem ownNames_nodup {l : Lineage} (h : l.entity.declaredNames.Nodup) : l.ownNames.Nodup := by
  rw [ownNames_eq]
  exact h.filter _

/-- A collision is a fault of the entity whose property it is. -/
theorem collision?_own {l : Lineage} {name : String} {fault : EntityFault}
    (h : l.collision? name = some fault) : fault.OwnOf l.entity.name := by
  unfold collision? at h
  split at h
  · simp at h
  · split at h
    · simp at h
    · exact .inr ⟨_, _, _, (Option.some.inj h).symm⟩

end Lineage

/-- Properties under distinct names are numbered in order. -/
theorem entries_assignDirtyBits {own : List Property} (h : (own.map (·.name)).Nodup) :
    (assignDirtyBits own).entries = (own.map (·.name)).zipIdx :=
  Record.entries_ofList (by simpa using h)

theorem keys_assignDirtyBits {own : List Property} (h : (own.map (·.name)).Nodup) :
    (assignDirtyBits own).keys = own.map (·.name) := by
  rw [Record.keys, entries_assignDirtyBits h, List.zipIdx_map_fst]

theorem values_assignDirtyBits {own : List Property} (h : (own.map (·.name)).Nodup) :
    (assignDirtyBits own).values = List.range own.length := by
  rw [Record.values, entries_assignDirtyBits h, List.zipIdx_map_snd, List.length_map,
    List.range_eq_range']

/-- The bits of at most `2 ^ 32` own properties fit into 32 bits. -/
theorem toNat_ofNat_of_mem_assignDirtyBits {own : List Property}
    (h : (own.map (·.name)).Nodup) (hsize : own.length ≤ UInt32.size) {bit : Nat}
    (hbit : bit ∈ (assignDirtyBits own).values) : (UInt32.ofNat bit).toNat = bit := by
  rw [values_assignDirtyBits h, List.mem_range] at hbit
  exact UInt32.toNat_ofNat_of_lt' (Nat.lt_of_lt_of_le hbit hsize)

/-- Every property is paired with its place: no bit is missing, since no name is numbered twice. -/
theorem zip_values_assignDirtyBits {own : List Property} (h : (own.map (·.name)).Nodup) :
    own.zip (assignDirtyBits own).values = own.zipIdx := by
  rw [values_assignDirtyBits h, List.zipIdx_eq_zip_range', List.range_eq_range']

namespace Synthesis

variable {s : Synthesis} {l : Lineage}

/-- What a model that is synthesized for a lineage holds. -/
structure Describes (s : Synthesis) (l : Lineage) (m : Model) : Prop where
  apart : ∀ n ∈ l.entity.declaredNames, l.collision? n = none
  properties : s.propertyModels l = .ok m.properties
  additional : s.additionalModel l.entity = .ok m.additional
  modelClass : m.modelClass = s.modelClass l m.properties
  diagnostics : m.diagnostics =
    m.properties.flatMap (fun p => diagnosticsOf l.entity.name p.name p.type) ++
      m.additional.toList.flatMap fun v => diagnosticsOf l.entity.name additionalName v.type

/-- A synthesis that succeeds has passed every check, and its model describes the entity. -/
theorem model_ok {m : Model} (h : s.model l = .ok m) : s.Describes l m := by
  unfold model at h
  split at h
  · simp [throw, throwThe, MonadExceptOf.throw, bind, Except.bind] at h
  · rename_i hfound
    have hnone := Option.eq_none_iff_forall_not_mem.mpr hfound
    rw [bind_eq_ok_iff] at h
    obtain ⟨properties, hproperties, h⟩ := h
    rw [bind_eq_ok_iff] at h
    obtain ⟨additional, hadditional, h⟩ := h
    obtain rfl := Except.ok.inj h
    exact ⟨List.findSome?_eq_none_iff.mp hnone, hproperties, hadditional, rfl, rfl⟩

theorem model_entity {m : Model} (h : s.model l = .ok m) : m.entity = l.entity.name := by
  rw [Model.entity, (model_ok h).modelClass]
  rfl

theorem model_parent {m : Model} (h : s.model l = .ok m) :
    m.modelClass.parent = l.parent?.map s.parentLink := by
  rw [(model_ok h).modelClass]
  rfl

theorem model_ownProperties {m : Model} (h : s.model l = .ok m) :
    m.modelClass.ownProperties = l.ownProperties := by
  rw [(model_ok h).modelClass]
  rfl

theorem model_dirtyBits {m : Model} (h : s.model l = .ok m) :
    m.modelClass.dirtyBits = assignDirtyBits l.ownProperties := by
  rw [(model_ok h).modelClass]
  rfl

theorem model_hook {m : Model} (h : s.model l = .ok m) : m.modelClass.hook = s.hook l := by
  rw [(model_ok h).modelClass]
  rfl

theorem model_propertyNames {m : Model} (h : s.model l = .ok m) :
    m.modelClass.propertyNames = m.properties.map (·.propertyName) := by
  rw [(model_ok h).modelClass]
  rfl

theorem model_forwardReferences {m : Model} (h : s.model l = .ok m) :
    m.modelClass.forwardReferences = forwardReferences m.modelClass.className m.properties := by
  rw [(model_ok h).modelClass]
  rfl

/-- What the model of an own property holds besides its bit and its declaration. -/
structure DescribesProperty (s : Synthesis) (entity : Entity) (p : Property)
    (pm : PropertyModel) : Prop where
  name : pm.name = p.name
  propertyName : pm.propertyName = Naming.propertyName p.name
  description : pm.description = p.description
  type : pm.type = s.typeOf p.variant
  typeName : pm.typeName = pm.type.spelling
  coercion : s.coercionOf p.variant = .ok pm.coercion
  dirtyOptionName : pm.dirtyOptionName = Naming.dirtyOptionName (s.classOf entity) p.name

theorem propertyModel_ok {entity : Entity} {p : Property} {bit : Nat} {pm : PropertyModel}
    (h : s.propertyModel entity p bit = .ok pm) : s.DescribesProperty entity p pm := by
  unfold propertyModel at h
  split at h
  · simp at h
  · rename_i rule hrule
    obtain rfl := Except.ok.inj h
    exact ⟨rfl, rfl, rfl, rfl, rfl, hrule, rfl⟩

theorem dirtyBit_of_propertyModel {entity : Entity} {p : Property} {bit : Nat}
    {pm : PropertyModel} (h : s.propertyModel entity p bit = .ok pm) : pm.dirtyBit = bit := by
  unfold propertyModel at h
  split at h
  · simp at h
  · obtain rfl := Except.ok.inj h
    rfl

/-- Under distinct names the own properties are gone through together with their places. -/
theorem propertyModels_eq_mapM (hd : l.ownNames.Nodup) :
    s.propertyModels l =
      l.ownProperties.zipIdx.mapM fun (p, i) => s.propertyModel l.entity p i := by
  rw [propertyModels, zip_values_assignDirtyBits hd]

/-- The models of the own properties are made one by one, each with the place of its property. -/
theorem forall₂_zipIdx {m : Model} (h : s.model l = .ok m) (hd : l.ownNames.Nodup) :
    List.Forall₂ (fun (pair : Property × Nat) pm =>
        s.propertyModel l.entity pair.1 pair.2 = .ok pm)
      l.ownProperties.zipIdx m.properties := by
  have hrun := (model_ok h).properties
  rw [propertyModels_eq_mapM hd] at hrun
  exact mapM_eq_ok_iff_forall₂.mp hrun

/-- The models of the own properties stand in the order of the properties, one for each. -/
theorem forall₂_properties {m : Model} (h : s.model l = .ok m) (hd : l.ownNames.Nodup) :
    List.Forall₂ (s.DescribesProperty l.entity) l.ownProperties m.properties := by
  rw [← List.zipIdx_map_fst 0 l.ownProperties, List.forall₂_map_left_iff]
  exact (forall₂_zipIdx h hd).imp fun _ _ hpm => propertyModel_ok hpm

/-- The model of a property fails exactly where the rule of its shape does. -/
theorem propertyModel_eq_error_iff {entity : Entity} {p : Property} {bit : Nat}
    {fault : EntityFault} :
    s.propertyModel entity p bit = .error fault ↔ ∃ element,
      s.coercionOf p.variant = .error element ∧
        fault = .containerElement entity.name p.name element := by
  unfold propertyModel
  cases s.coercionOf p.variant <;> simp [eq_comm]

theorem valueModel_eq_error_iff {entity : Entity} {v : Variant} {fault : EntityFault} :
    s.valueModel entity v = .error fault ↔ ∃ element,
      s.coercionOf (.container .map v) = .error element ∧
        fault = .containerElement entity.name additionalName element := by
  unfold valueModel
  cases hrule : s.coercionOf (.container .map v) <;> simp [hrule, eq_comm]

/-- The undeclared keys fail an entity that has a shape for them, exactly where the rule of the map
of that shape fails. -/
theorem additionalModel_eq_error_iff {entity : Entity} {fault : EntityFault} :
    s.additionalModel entity = .error fault ↔ ∃ v element, entity.additional = some v ∧
      s.coercionOf (.container .map v) = .error element ∧
        fault = .containerElement entity.name additionalName element := by
  unfold additionalModel
  cases entity.additional with
  | none => simp
  | some v =>
    change (s.valueModel entity v).map some = .error fault ↔ _
    rw [map_eq_error_iff, valueModel_eq_error_iff]
    simp

/-- The model of the values under undeclared keys describes the map of their shape. -/
theorem valueModel_ok {entity : Entity} {v : Variant} {vm : ValueModel}
    (h : s.valueModel entity v = .ok vm) : vm.type = s.typeOf (.container .map v) ∧
      vm.typeName = vm.type.spelling ∧ s.coercionOf (.container .map v) = .ok vm.coercion := by
  unfold valueModel at h
  cases hrule : s.coercionOf (.container .map v) with
  | error element => simp [hrule] at h
  | ok rule =>
    simp only [hrule, Except.ok.injEq] at h
    obtain rfl := h
    exact ⟨rfl, rfl, rfl⟩

/-- There is a model for the undeclared keys when there is a shape for their values. -/
theorem additionalModel_eq_ok_iff {entity : Entity} {additional : Option ValueModel} :
    s.additionalModel entity = .ok additional ↔
      (entity.additional = none ∧ additional = none) ∨
        ∃ v vm, entity.additional = some v ∧ s.valueModel entity v = .ok vm ∧
          additional = some vm := by
  unfold additionalModel
  cases entity.additional with
  | none => simp [eq_comm]
  | some v =>
    cases hvm : s.valueModel entity v <;> simp [Functor.map, Except.map, hvm, eq_comm]

/-- The type of the values under undeclared keys is that of the map of their shape. -/
theorem additionalModel_ok {entity : Entity} {additional : Option ValueModel}
    (h : s.additionalModel entity = .ok additional) :
    additional.map (·.type) = entity.additional.map fun v => s.typeOf (.container .map v) := by
  rcases additionalModel_eq_ok_iff.mp h with ⟨hnone, rfl⟩ | ⟨v, vm, hv, hvm, rfl⟩
  · rw [hnone]
    rfl
  · obtain ⟨htype, _⟩ := valueModel_ok hvm
    rw [hv, Option.map_some, Option.map_some, htype]

theorem exists_of_additionalModel_some {entity : Entity} {vm : ValueModel}
    (h : s.additionalModel entity = .ok (some vm)) :
    ∃ v, entity.additional = some v ∧ vm.type = s.typeOf (.container .map v) ∧
      vm.typeName = vm.type.spelling ∧ s.coercionOf (.container .map v) = .ok vm.coercion := by
  rcases additionalModel_eq_ok_iff.mp h with ⟨_, hnone⟩ | ⟨v, vm', hv, hvm, hsome⟩
  · simp at hnone
  · obtain rfl := Option.some.inj hsome
    exact ⟨v, hv, valueModel_ok hvm⟩

/-- The three checks of a synthesis, one after the other. -/
theorem model_eq_error_iff_checks {fault : EntityFault} :
    s.model l = .error fault ↔
      l.entity.declaredNames.findSome? l.collision? = some fault ∨
      l.entity.declaredNames.findSome? l.collision? = none ∧
        (s.propertyModels l = .error fault ∨
          (∃ properties, s.propertyModels l = .ok properties) ∧
            s.additionalModel l.entity = .error fault) := by
  unfold model
  cases l.entity.declaredNames.findSome? l.collision? with
  | some collision => simp [throw, throwThe, MonadExceptOf.throw, bind, Except.bind]
  | none =>
    cases s.propertyModels l with
    | error fault => simp [bind, Except.bind]
    | ok properties =>
      cases s.additionalModel l.entity <;> simp [bind, Except.bind, pure, Except.pure]

/-- A synthesis fails with a fault that its entity has on its own. -/
theorem model_error {fault : EntityFault} (h : s.model l = .error fault) :
    fault.OwnOf l.entity.name := by
  rcases model_eq_error_iff_checks.mp h with hfound | ⟨_, hproperties | ⟨_, hadditional⟩⟩
  · obtain ⟨name, _, hcollision⟩ := List.exists_of_findSome?_eq_some hfound
    exact Lineage.collision?_own hcollision
  · obtain ⟨_, _, _, _, _, hproperty⟩ := mapM_eq_error_iff.mp hproperties
    obtain ⟨element, _, hfault⟩ := propertyModel_eq_error_iff.mp hproperty
    exact .inl ⟨_, element, hfault⟩
  · obtain ⟨_, element, _, _, hfault⟩ := additionalModel_eq_error_iff.mp hadditional
    exact .inl ⟨_, element, hfault⟩

end Synthesis

namespace Graph

variable {g : Graph} {naming : Naming}

/-- When the ancestors are found, all that can fail is the synthesis of the entity itself. -/
theorem synthesize_of_ancestors {e : Entity} {as : List Entity} (h : g.ancestors e = .ok as) :
    g.synthesize naming e =
      (Synthesis.model ⟨g, naming⟩ (g.lineage e)).mapError .entity := by
  rw [lineage_of_ancestors h, synthesize, h]
  dsimp only
  cases Synthesis.model ⟨g, naming⟩ ⟨as, e⟩ <;> rfl

theorem synthesize_eq_ok_iff {e : Entity} {as : List Entity} (h : g.ancestors e = .ok as)
    {m : Model} :
    g.synthesize naming e = .ok m ↔ Synthesis.model ⟨g, naming⟩ (g.lineage e) = .ok m := by
  rw [synthesize_of_ancestors h]
  cases Synthesis.model ⟨g, naming⟩ (g.lineage e) <;> simp [Except.mapError]

/-- An entity with a model has its ancestors found. -/
theorem exists_ancestors_of_synthesize {e : Entity} {m : Model}
    (hm : g.synthesize naming e = .ok m) : ∃ as, g.ancestors e = .ok as := by
  unfold synthesize at hm
  split at hm
  · simp at hm
  · exact ⟨_, ‹_›⟩

theorem model_of_synthesize {e : Entity} {m : Model} (hm : g.synthesize naming e = .ok m) :
    Synthesis.model ⟨g, naming⟩ (g.lineage e) = .ok m := by
  obtain ⟨as, has⟩ := exists_ancestors_of_synthesize hm
  exact (synthesize_eq_ok_iff has).mp hm

theorem classNames_of_synthesize {e : Entity} {m : Model}
    (hm : g.synthesize naming e = .ok m) :
    m.modelClass.className = naming.className e.name ∧
      m.modelClass.builderClassName = Naming.builderClassName (naming.className e.name) := by
  rw [(Synthesis.model_ok (model_of_synthesize hm)).modelClass]
  exact ⟨rfl, rfl⟩

/-- In a graph the own names of an entity are distinct. -/
theorem ownNames_nodup_of_mem {e : Entity} (he : e ∈ g.entities) : (g.lineage e).ownNames.Nodup :=
  Lineage.ownNames_nodup (declaredNames_nodup he)

/-- The property models of an entity of the graph describe its own properties, one after the
other. -/
theorem forall₂_properties {e : Entity} {m : Model} (he : e ∈ g.entities)
    (hm : g.synthesize naming e = .ok m) :
    List.Forall₂ (Synthesis.DescribesProperty ⟨g, naming⟩ e) (g.lineage e).ownProperties
      m.properties := by
  exact Synthesis.forall₂_properties (model_of_synthesize hm) (ownNames_nodup_of_mem he)

end Graph

end EntityModels
