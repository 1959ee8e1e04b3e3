import EntityModels.Proofs.Model.Synthesis

/-!
The lists of a model side by side: its own properties, their models, the generated names and the
dirty bits. They are made from one another by pairing, which loses items where a name is there
twice. In a graph it is not, and every place of the lists is about one property,
`Graph.alignment_exact`.
-/
namespace EntityModels

/-- The kind of a container type, with a declared element or without. -/
def TargetType.containerKind? : TargetType → Option ContainerKind
  | .untyped kind => some kind
  | .container kind _ => some kind
  | _ => none

/-- A shape and its type are containers of the same kind, or neither is one. -/
theorem TargetType.containerKind?_ofVariant (g : Graph) (naming : Naming) (v : Variant) :
    (ofVariant g naming v).containerKind? = v.containerKind? := by
  cases v with
  | scalar | untyped | container => rfl
  | text format => cases format <;> rfl
  | reference target =>
    unfold ofVariant ofReference
    cases g.target? target <;> rfl

namespace Synthesis

variable {s : Synthesis} {l : Lineage} {m : Model}

/-- Beside their models, the properties that are containers of a kind have the generated names of
the models with such a type. -/
theorem containerNames_eq {entity : Entity} {own : List Property} {properties : List PropertyModel}
    (h : List.Forall₂ (s.DescribesProperty entity) own properties) (kind : ContainerKind) :
    containerNames kind own properties =
      (properties.filter fun pm => pm.type.containerKind? = some kind).map (·.propertyName) := by
  unfold containerNames
  induction h with
  | nil => rfl
  | @cons p pm own properties hp _ ih =>
    have hkind : pm.type.containerKind? = p.variant.containerKind? := by
      rw [hp.type, typeOf, TargetType.containerKind?_ofVariant]
    rw [List.zip_cons_cons, List.filterMap_cons, List.filter_cons, ih, hkind]
    by_cases hcontainer : p.variant.containerKind? = some kind
    · simp [hcontainer]
    · simp [hcontainer]

/-- What the lists of a model hold at a place: a property, its model, its name and its bit. -/
structure AlignedAt (s : Synthesis) (m : Model) (i : Nat) (p : Property) (pm : PropertyModel) :
    Prop where
  property : m.modelClass.ownProperties[i]? = some p
  model : m.properties[i]? = some pm
  name : pm.name = p.name
  /-- The bit of the property is its place, by position and by name. -/
  bit : pm.dirtyBit = i
  entry : m.modelClass.dirtyBits.entries[i]? = some (p.name, i)
  found : m.modelClass.dirtyBits.get? p.name = some i
  propertyName : m.modelClass.propertyNames[i]? = some pm.propertyName
  generated : pm.propertyName = Naming.propertyName p.name
  type : pm.type = .ofVariant s.graph s.naming p.variant
  coercion : CoercionRule.ofVariant s.graph s.naming p.variant = .ok pm.coercion
  description : pm.description = p.description

/-- At every place of the own properties the other lists are about the property there. -/
theorem exists_alignedAt (h : s.model l = .ok m) (hd : l.ownNames.Nodup) {i : Nat} {p : Property}
    (hp : l.ownProperties[i]? = some p) : ∃ pm, s.AlignedAt m i p pm := by
  have hpair : l.ownProperties.zipIdx[i]? = some (p, i) := by
    rw [List.getElem?_zipIdx, hp, Option.map_some, Nat.zero_add]
  have hentry : m.modelClass.dirtyBits.entries[i]? = some (p.name, i) := by
    rw [model_dirtyBits h, entries_assignDirtyBits hd, List.getElem?_zipIdx, List.getElem?_map, hp,
      Option.map_some, Option.map_some, Nat.zero_add]
  obtain ⟨pm, hpm, hmodel⟩ := exists_getElem?_of_forall₂ (forall₂_zipIdx h hd) hpair
  have hdescribes := propertyModel_ok hmodel
  refine ⟨pm, ?_, hpm, hdescribes.name, dirtyBit_of_propertyModel hmodel, hentry, ?_, ?_,
    hdescribes.propertyName, hdescribes.type, hdescribes.coercion, hdescribes.description⟩
  · rw [model_ownProperties h, hp]
  · exact Record.get?_eq_some_iff.mpr (List.mem_of_getElem? hentry)
  · rw [model_propertyNames h, List.getElem?_map, hpm, Option.map_some]

end Synthesis

namespace Graph

variable {g : Graph} {naming : Naming} {e : Entity} {as : List Entity} {m : Model}

/-- How the lists of a model go together, for an entity with the ancestors `as`. -/
structure AlignmentExact (g : Graph) (naming : Naming) (e : Entity) (as : List Entity) (m : Model) :
    Prop where
  own : m.modelClass.ownProperties =
    e.properties.filter fun p => ∀ a ∈ as, p.name ∉ a.declaredNames
  /-- Nothing is lost or left over in pairing the lists. -/
  models : m.properties.length = m.modelClass.ownProperties.length
  names : m.modelClass.propertyNames.length = m.modelClass.ownProperties.length
  bits : m.modelClass.dirtyBits.size = m.modelClass.ownProperties.length
  aligned : ∀ i < m.modelClass.ownProperties.length,
    ∃ p pm, Synthesis.AlignedAt ⟨g, naming⟩ m i p pm
  arrays : m.modelClass.arrayPropertyNames =
    (m.properties.filter fun pm => pm.type.containerKind? = some .array).map (·.propertyName)
  dictionaries : m.modelClass.dictionaryPropertyNames =
    (m.properties.filter fun pm => pm.type.containerKind? = some .map).map (·.propertyName)

/-- Every model of an entity of the graph lines up with its own properties. -/
theorem alignment_exact (he : e ∈ g.entities) (hm : g.synthesize naming e = .ok m) :
    ∃ as, g.ancestors e = .ok as ∧ g.AlignmentExact naming e as m := by
  obtain ⟨as, has⟩ := exists_ancestors_of_synthesize hm
  have hmodel := model_of_synthesize hm
  have hd := ownNames_nodup_of_mem he
  have hdescribe := forall₂_properties he hm
  have hown := Synthesis.model_ownProperties hmodel
  have hclass := (Synthesis.model_ok hmodel).modelClass
  have hcontainers := Synthesis.containerNames_eq hdescribe
  refine ⟨as, has, ?_, ?_, ?_, ?_, ?_, ?_, ?_⟩
  · rw [hown, lineage_of_ancestors has, Lineage.ownProperties]
    apply List.filter_congr
    intro p _
    simp
  · rw [hown, hdescribe.length_eq]
  · rw [hown, Synthesis.model_propertyNames hmodel, List.length_map, hdescribe.length_eq]
  · rw [hown, Synthesis.model_dirtyBits hmodel, Record.size, entries_assignDirtyBits hd,
      List.length_zipIdx, List.length_map]
  · intro i hi
    rw [hown] at hi
    obtain ⟨pm, haligned⟩ := Synthesis.exists_alignedAt hmodel hd (List.getElem?_eq_getElem hi)
    exact ⟨_, pm, haligned⟩
  · rw [hclass]
    exact hcontainers .array
  · rw [hclass]
    exact hcontainers .map

/-- A concert declares a property of every recording again, between its own ones. -/
def recordings : Graph where
  entities := [
    { name := "recording"
      properties := [⟨"title", .text .plain, none⟩,
        ⟨"genres", .container .array (.text .plain), none⟩] },
    { name := "concert", parent := some "#recording"
      properties := [⟨"held_on", .text .dateTime, none⟩, ⟨"genres", .untyped .array, none⟩,
        ⟨"set_list", .container .array (.reference "recording"), none⟩,
        ⟨"seats", .untyped .map, some "by row"⟩] }]
  sound := by decide +kernel

theorem alignment_exact_recordings : ∃ e ∈ recordings.entities, ∃ m,
    recordings.synthesize {} e = .ok m ∧
      m.modelClass.dirtyBits.entries = [("held_on", 0), ("set_list", 1), ("seats", 2)] ∧
      m.modelClass.arrayPropertyNames = ["setList"] ∧
      m.modelClass.dictionaryPropertyNames = ["seats"] ∧
      ∃ as, recordings.ancestors e = .ok as ∧ recordings.AlignmentExact {} e as m := by
  have he : recordings.entities[1] ∈ recordings.entities := List.getElem_mem _
  have hview : (recordings.synthesize {} recordings.entities[1]).toOption.map (fun m =>
      (m.modelClass.dirtyBits.entries, m.modelClass.arrayPropertyNames,
        m.modelClass.dictionaryPropertyNames)) =
      some ([("held_on", 0), ("set_list", 1), ("seats", 2)], ["setList"], ["seats"]) := by
    decide +kernel
  obtain ⟨m, hm, hparts⟩ := exists_ok_of_view hview
  obtain ⟨hbits, hlists⟩ := Prod.mk.inj hparts
  obtain ⟨harrays, hdictionaries⟩ := Prod.mk.inj hlists
  exact ⟨_, he, m, hm, hbits, harrays, hdictionaries, alignment_exact he hm⟩

end Graph

end EntityModels
