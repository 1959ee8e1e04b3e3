import EntityModels.Proofs.Model.Synthesis
import EntityModels.Proofs.Target.Nesting

/-!
When the synthesis of an entity fails, and why. Three things are looked at in turn: the declared
names against those of the ancestors, the shapes of the own properties, and the shape of the values
under undeclared keys. The fault is the first one that is found, `Graph.failure_exact`.
-/
namespace EntityModels

/-- A container in a shape has a scalar as its direct element. -/
inductive Variant.HoldsBare (fault : ElementFault) : Variant → Prop
  | here : HoldsBare fault (.container fault.container (.scalar fault.scalar))
  | element {kind : ContainerKind} {element : Variant} :
    HoldsBare fault element → HoldsBare fault (.container kind element)

/-- The scalar that is found in a container is the element of the innermost one. -/
theorem Variant.bareElement?_eq_some_iff_holdsBare {v : Variant} {fault : ElementFault} :
    v.bareElement? = some fault ↔ v.HoldsBare fault := by
  constructor
  · intro h
    induction v with
    | scalar | text | untyped | reference =>
      obtain ⟨hkind, hleaf⟩ := bareElement?_eq_some_iff.mp h
      simp [containers, leaf?] at hkind hleaf
    | container kind element ih =>
      -- a scalar element is the fault, and anything else hands on the fault inside it
      cases hscalar : element.isScalar with
      | false =>
        rw [bareElement?_container hscalar] at h
        exact .element (ih h)
      | true =>
        obtain ⟨bare, rfl⟩ : ∃ bare, element = .scalar bare := by
          cases element <;> simp [isScalar] at hscalar ⊢
        obtain rfl : ⟨kind, bare⟩ = fault := Option.some.inj h
        exact .here
  · intro h
    induction h with
    | here => rfl
    | element hinner ih =>
      rw [bareElement?_container, ih]
      cases hinner <;> rfl

namespace Lineage

variable {l : Lineage} {generated name : String} {a : Entity} {fault : EntityFault}

/-- A name that the nearest of the ancestors with a generated identifier declares for it. -/
structure NearestDeclares (l : Lineage) (generated : String) (a : Entity) (name : String) :
    Prop where
  /-- The ancestors stand with the root first, so the nearer ones come after `a`. -/
  nearest : ∃ above below, l.ancestors = above ++ a :: below ∧
    ∀ b ∈ below, ∀ n ∈ b.declaredNames, Naming.propertyName n ≠ generated
  declared : name ∈ a.declaredNames
  identifier : Naming.propertyName name = generated

/-- A property has the identifier of one of another name, at the nearest ancestor that has the
identifier. -/
def Collides (l : Lineage) (name : String) (a : Entity) (inherited : String) : Prop :=
  l.NearestDeclares (Naming.propertyName name) a inherited ∧ inherited ≠ name

/-- The search for an inherited identifier goes from the nearest ancestor up. -/
theorem inherited?_eq_findSome? (l : Lineage) (generated : String) :
    l.inherited? generated = l.ancestors.reverse.findSome? fun a =>
      (a.declaredNames.reverse.find? fun n => Naming.propertyName n = generated).map
        fun n => ⟨a.name, n, Naming.propertyName n⟩ := by
  rw [inherited?, inheritedNames, List.reverse_flatMap, List.find?_flatMap]
  simp only [Function.comp_def, ← List.map_reverse, List.find?_map]

/-- In an entity whose identifiers are apart there is one name to be found for an identifier. -/
theorem find?_declaredNames_eq_some_iff
    (hd : (a.declaredNames.map Naming.propertyName).Nodup) :
    (a.declaredNames.reverse.find? fun n => Naming.propertyName n = generated) = some name ↔
      name ∈ a.declaredNames ∧ Naming.propertyName name = generated := by
  have hreverse : (a.declaredNames.reverse.map Naming.propertyName).Nodup := by
    rw [List.map_reverse]
    exact List.nodup_reverse.mpr hd
  rw [find?_eq_some_iff_of_nodup hreverse, List.mem_reverse]

/-- The inherited property with an identifier is that of the nearest ancestor to declare one. -/
theorem inherited?_eq_some_iff
    (hd : ∀ a ∈ l.ancestors, (a.declaredNames.map Naming.propertyName).Nodup)
    {found : InheritedName} :
    l.inherited? generated = some found ↔
      ∃ a n, l.NearestDeclares generated a n ∧ found = ⟨a.name, n, generated⟩ := by
  rw [inherited?_eq_findSome?, List.findSome?_eq_some_iff]
  constructor
  · rintro ⟨below, a, above, hsplit, hfound, hbelow⟩
    obtain ⟨n, hn, rfl⟩ := Option.map_eq_some_iff.mp hfound
    have hancestors : l.ancestors = above.reverse ++ a :: below.reverse := by
      rw [← List.reverse_reverse l.ancestors, hsplit]
      simp
    have ha : a ∈ l.ancestors := by simp [hancestors]
    obtain ⟨hdeclared, hidentifier⟩ := (find?_declaredNames_eq_some_iff (hd a ha)).mp hn
    refine ⟨a, n, ⟨⟨above.reverse, below.reverse, hancestors, ?_⟩, hdeclared, hidentifier⟩, ?_⟩
    · -- nothing was found further down, where the search has been first
      intro b hb n' hn'
      have hnone := Option.map_eq_none_iff.mp (hbelow b (List.mem_reverse.mp hb))
      simpa using List.find?_eq_none.mp hnone n' (List.mem_reverse.mpr hn')
    · rw [hidentifier]
  · rintro ⟨a, n, ⟨⟨above, below, hancestors, hbelow⟩, hdeclared, hidentifier⟩, rfl⟩
    have ha : a ∈ l.ancestors := by simp [hancestors]
    have hn := (find?_declaredNames_eq_some_iff (hd a ha)).mpr ⟨hdeclared, hidentifier⟩
    refine ⟨below.reverse, a, above.reverse, by simp [hancestors], ?_, ?_⟩
    · rw [hn, Option.map_some, hidentifier]
    · intro b hb
      rw [Option.map_eq_none_iff, List.find?_eq_none]
      intro n' hn'
      simpa using hbelow b (List.mem_reverse.mp hb) n' (List.mem_reverse.mp hn')

/-- A name collides exactly with an inherited property of its identifier and another name. -/
theorem collision?_eq_some_iff
    (hd : ∀ a ∈ l.ancestors, (a.declaredNames.map Naming.propertyName).Nodup) :
    l.collision? name = some fault ↔ ∃ a inherited, l.Collides name a inherited ∧
      fault = .inheritedCollision l.entity.name name a.name inherited := by
  unfold collision?
  constructor
  · intro h
    split at h
    · simp at h
    · rename_i found hfound
      obtain ⟨a, n, hnearest, rfl⟩ := (inherited?_eq_some_iff hd).mp hfound
      split at h
      · simp at h
      · rename_i hne
        exact ⟨a, n, ⟨hnearest, hne⟩, (Option.some.inj h).symm⟩
  · rintro ⟨a, n, ⟨hnearest, hne⟩, rfl⟩
    rw [(inherited?_eq_some_iff hd).mpr ⟨a, n, hnearest, rfl⟩]
    exact if_neg hne

theorem collision?_eq_none_iff
    (hd : ∀ a ∈ l.ancestors, (a.declaredNames.map Naming.propertyName).Nodup) :
    l.collision? name = none ↔ ¬∃ a inherited, l.Collides name a inherited := by
  rw [Option.eq_none_iff_forall_ne_some]
  constructor
  · rintro hnone ⟨a, n, hcollides⟩
    exact hnone _ ((collision?_eq_some_iff hd).mpr ⟨a, n, hcollides, rfl⟩)
  · intro hfree fault hsome
    obtain ⟨a, n, hcollides, _⟩ := (collision?_eq_some_iff hd).mp hsome
    exact hfree ⟨a, n, hcollides⟩

/-- The first declared property that collides gives the fault of the check of the names. -/
theorem firstCollision_eq_some_iff
    (hd : ∀ a ∈ l.ancestors, (a.declaredNames.map Naming.propertyName).Nodup) :
    l.entity.declaredNames.findSome? l.collision? = some fault ↔ ∃ p a inherited,
      FirstOf (fun p => ∃ a n, l.Collides p.name a n) l.entity.properties p ∧
        l.Collides p.name a inherited ∧
          fault = .inheritedCollision l.entity.name p.name a.name inherited := by
  rw [Entity.declaredNames, List.findSome?_map, List.findSome?_eq_some_iff]
  constructor
  · rintro ⟨before, p, after, hsplit, hfault, hbefore⟩
    obtain ⟨a, n, hcollides, rfl⟩ := (collision?_eq_some_iff hd).mp hfault
    have hfree : ∀ q ∈ before, ¬∃ a n, l.Collides q.name a n := fun q hq =>
      (collision?_eq_none_iff hd).mp (hbefore q hq)
    exact ⟨p, a, n, ⟨before, after, hsplit, hfree, a, n, hcollides⟩, hcollides, rfl⟩
  · rintro ⟨p, a, n, ⟨before, after, hsplit, hfree, _⟩, hcollides, rfl⟩
    refine ⟨before, p, after, hsplit, (collision?_eq_some_iff hd).mpr ⟨a, n, hcollides, rfl⟩, ?_⟩
    intro q hq
    exact (collision?_eq_none_iff hd).mpr (hfree q hq)

theorem firstCollision_eq_none_iff
    (hd : ∀ a ∈ l.ancestors, (a.declaredNames.map Naming.propertyName).Nodup) :
    l.entity.declaredNames.findSome? l.collision? = none ↔
      ¬∃ p ∈ l.entity.properties, ∃ a n, l.Collides p.name a n := by
  rw [List.findSome?_eq_none_iff, Entity.declaredNames]
  simp only [List.forall_mem_map, collision?_eq_none_iff hd, not_exists, not_and]

/-- What an entity fails with: the fault of the first declared property that collides, or else of
the first own property with a scalar in a container, or else of the values under undeclared keys. -/
inductive FailsWith (l : Lineage) : EntityFault → Prop
  | collision {p : Property} {a : Entity} {inherited : String}
    (hfirst : FirstOf (fun p => ∃ a n, l.Collides p.name a n) l.entity.properties p)
    (hcollides : l.Collides p.name a inherited) :
    FailsWith l (.inheritedCollision l.entity.name p.name a.name inherited)
  | property {p : Property} {element : ElementFault}
    (hnames : ¬∃ p ∈ l.entity.properties, ∃ a n, l.Collides p.name a n)
    (hfirst : FirstOf (fun p => ∃ bare, p.variant.HoldsBare bare) l.ownProperties p)
    (hbare : p.variant.HoldsBare element) :
    FailsWith l (.containerElement l.entity.name p.name element)
  | additional {v : Variant} {element : ElementFault}
    (hnames : ¬∃ p ∈ l.entity.properties, ∃ a n, l.Collides p.name a n)
    (hown : ¬∃ p ∈ l.ownProperties, ∃ bare, p.variant.HoldsBare bare)
    (hadditional : l.entity.additional = some v)
    (hbare : (Variant.container .map v).HoldsBare element) :
    FailsWith l (.containerElement l.entity.name Synthesis.additionalName element)

end Lineage

namespace Synthesis

variable {s : Synthesis} {l : Lineage} {entity : Entity} {fault : EntityFault}

theorem coercionOf_eq_error_iff {v : Variant} {element : ElementFault} :
    s.coercionOf v = .error element ↔ v.HoldsBare element := by
  rw [coercionOf, CoercionRule.ofVariant_eq_error_iff, Variant.bareElement?_eq_some_iff_holdsBare]

theorem exists_propertyModel_eq_error_iff {p : Property} {bit : Nat} :
    (∃ fault, s.propertyModel entity p bit = .error fault) ↔
      ∃ bare, p.variant.HoldsBare bare := by
  constructor
  · rintro ⟨fault, h⟩
    obtain ⟨bare, hrule, _⟩ := propertyModel_eq_error_iff.mp h
    exact ⟨bare, coercionOf_eq_error_iff.mp hrule⟩
  · rintro ⟨bare, hbare⟩
    exact ⟨_, propertyModel_eq_error_iff.mpr ⟨bare, coercionOf_eq_error_iff.mpr hbare, rfl⟩⟩

/-- The own properties fail with the first of them that holds a bare scalar. The places change
nothing about which one that is. -/
theorem propertyModels_eq_error_iff (hd : l.ownNames.Nodup) :
    s.propertyModels l = .error fault ↔ ∃ p element,
      FirstOf (fun p => ∃ bare, p.variant.HoldsBare bare) l.ownProperties p ∧
        p.variant.HoldsBare element ∧
          fault = .containerElement l.entity.name p.name element := by
  have hfirst : ∀ p, FirstOf (fun p => ∃ bare, p.variant.HoldsBare bare) l.ownProperties p ↔
      ∃ pair : Property × Nat, FirstOf (fun pair => ∃ bare, pair.1.variant.HoldsBare bare)
        l.ownProperties.zipIdx pair ∧ pair.1 = p := by
    intro p
    conv_lhs => rw [← List.zipIdx_map_fst 0 l.ownProperties]
    exact firstOf_map_iff
  rw [propertyModels_eq_mapM hd, mapM_eq_error_iff, firstFault_iff_firstOf]
  simp only [exists_propertyModel_eq_error_iff, hfirst]
  simp only [propertyModel_eq_error_iff, coercionOf_eq_error_iff]
  constructor
  · rintro ⟨pair, hpair, element, hbare, rfl⟩
    exact ⟨pair.1, element, ⟨pair, hpair, rfl⟩, hbare, rfl⟩
  · rintro ⟨_, element, ⟨pair, hpair, rfl⟩, hbare, rfl⟩
    exact ⟨pair, hpair, element, hbare, rfl⟩

theorem exists_propertyModels_eq_ok_iff (hd : l.ownNames.Nodup) :
    (∃ properties, s.propertyModels l = .ok properties) ↔
      ¬∃ p ∈ l.ownProperties, ∃ bare, p.variant.HoldsBare bare := by
  rw [← exists_firstOf_iff]
  constructor
  · rintro ⟨properties, hok⟩ ⟨p, hfirst⟩
    obtain ⟨element, hbare⟩ := hfirst.holds
    have herror := (propertyModels_eq_error_iff (s := s) hd).mpr ⟨p, element, hfirst, hbare, rfl⟩
    simp [hok] at herror
  · intro hfree
    cases hrun : s.propertyModels l with
    | ok properties => exact ⟨properties, rfl⟩
    | error fault =>
      obtain ⟨p, _, hfirst, _⟩ := (propertyModels_eq_error_iff hd).mp hrun
      exact absurd ⟨p, hfirst⟩ hfree

/-- A synthesis fails with the first fault in the order of its checks. -/
theorem model_eq_error_iff (hd : l.ownNames.Nodup)
    (hancestors : ∀ a ∈ l.ancestors, (a.declaredNames.map Naming.propertyName).Nodup) :
    s.model l = .error fault ↔ l.FailsWith fault := by
  rw [model_eq_error_iff_checks, Lineage.firstCollision_eq_some_iff hancestors,
    Lineage.firstCollision_eq_none_iff hancestors, propertyModels_eq_error_iff hd,
    exists_propertyModels_eq_ok_iff hd, additionalModel_eq_error_iff]
  simp only [coercionOf_eq_error_iff]
  constructor
  · rintro (⟨p, a, n, hfirst, hcollides, rfl⟩ | ⟨hnames, hrest⟩)
    · exact .collision hfirst hcollides
    · rcases hrest with ⟨p, element, hfirst, hbare, rfl⟩ | ⟨hown, v, element, hv, hbare, rfl⟩
      · exact .property hnames hfirst hbare
      · exact .additional hnames hown hv hbare
  · intro h
    cases h with
    | collision hfirst hcollides => exact .inl ⟨_, _, _, hfirst, hcollides, rfl⟩
    | property hnames hfirst hbare => exact .inr ⟨hnames, .inl ⟨_, _, hfirst, hbare, rfl⟩⟩
    | additional hnames hown hv hbare =>
      exact .inr ⟨hnames, .inr ⟨hown, _, _, hv, hbare, rfl⟩⟩

end Synthesis

/-- An entity fails as soon as one of the three things is there. -/
theorem Lineage.exists_failsWith_iff {l : Lineage} :
    (∃ fault, l.FailsWith fault) ↔
      (∃ p ∈ l.entity.properties, ∃ a n, l.Collides p.name a n) ∨
      (∃ p ∈ l.ownProperties, ∃ bare, p.variant.HoldsBare bare) ∨
      ∃ v bare, l.entity.additional = some v ∧ (Variant.container .map v).HoldsBare bare := by
  constructor
  · rintro ⟨fault, h⟩
    cases h with
    | collision hfirst _ => exact .inl (exists_firstOf_iff.mp ⟨_, hfirst⟩)
    | property _ hfirst _ => exact .inr (.inl (exists_firstOf_iff.mp ⟨_, hfirst⟩))
    | additional _ _ hv hbare => exact .inr (.inr ⟨_, _, hv, hbare⟩)
  · intro h
    by_cases hnames : ∃ p ∈ l.entity.properties, ∃ a n, l.Collides p.name a n
    · obtain ⟨p, hfirst⟩ := exists_firstOf_iff.mpr hnames
      obtain ⟨a, n, hcollides⟩ := hfirst.holds
      exact ⟨_, .collision hfirst hcollides⟩
    · by_cases hown : ∃ p ∈ l.ownProperties, ∃ bare, p.variant.HoldsBare bare
      · obtain ⟨p, hfirst⟩ := exists_firstOf_iff.mpr hown
        obtain ⟨bare, hbare⟩ := hfirst.holds
        exact ⟨_, .property hnames hfirst hbare⟩
      · obtain ⟨v, bare, hv, hbare⟩ := (h.resolve_left hnames).resolve_left hown
        exact ⟨_, .additional hnames hown hv hbare⟩

namespace Graph

variable {g : Graph} {naming : Naming} {e : Entity} {as : List Entity}

/-- With its ancestors found, an entity fails with a fault of its own. -/
theorem synthesize_eq_error_iff (he : e ∈ g.entities) (has : g.ancestors e = .ok as)
    {fault : CompileFault} :
    g.synthesize naming e = .error fault ↔
      ∃ own, fault = .entity own ∧ Lineage.FailsWith ⟨as, e⟩ own := by
  have hd := ownNames_nodup_of_mem he
  rw [lineage_of_ancestors has] at hd
  have hancestors : ∀ a ∈ as, (a.declaredNames.map Naming.propertyName).Nodup := fun a ha =>
    propertyNames_nodup (ancestors_mem has ha)
  simp only [synthesize_of_ancestors has, lineage_of_ancestors has,
    ← Synthesis.model_eq_error_iff (s := ⟨g, naming⟩) (l := ⟨as, e⟩) hd hancestors]
  cases Synthesis.model ⟨g, naming⟩ ⟨as, e⟩ <;> simp [Except.mapError, eq_comm]

/-- When and why an entity whose ancestors are found fails. -/
structure FailureExact (g : Graph) (naming : Naming) (e : Entity) (as : List Entity) : Prop where
  /-- Redeclared properties are looked at for their names, but not for their shapes. -/
  fails : (∃ fault, g.synthesize naming e = .error fault) ↔
    (∃ p ∈ e.properties, ∃ a inherited, Lineage.Collides ⟨as, e⟩ p.name a inherited) ∨
    (∃ p ∈ e.properties, (∀ a ∈ as, p.name ∉ a.declaredNames) ∧
      ∃ element, p.variant.HoldsBare element) ∨
    ∃ v element, e.additional = some v ∧ (Variant.container .map v).HoldsBare element
  why : ∀ fault, g.synthesize naming e = .error fault ↔
    ∃ own, fault = .entity own ∧ Lineage.FailsWith ⟨as, e⟩ own
  /-- The container that a fault names is the innermost one of the shape. -/
  innermost : ∀ (v : Variant) (element : ElementFault), v.HoldsBare element ↔
    v.containers.getLast? = some element.container ∧ v.leaf? = some (.scalar element.scalar)

/-- It is settled of every entity whose ancestors are found whether it fails, and with which
fault. -/
theorem failure_exact (he : e ∈ g.entities) (has : g.ancestors e = .ok as) :
    g.FailureExact naming e as := by
  refine ⟨?_, fun fault => synthesize_eq_error_iff he has, fun v element => ?_⟩
  · have hfails : (∃ fault, g.synthesize naming e = .error fault) ↔
        ∃ own, Lineage.FailsWith ⟨as, e⟩ own := by
      simp only [synthesize_eq_error_iff he has]
      exact ⟨fun ⟨_, own, _, h⟩ => ⟨own, h⟩, fun ⟨own, h⟩ => ⟨_, own, rfl, h⟩⟩
    rw [hfails, Lineage.exists_failsWith_iff]
    simp only [Lineage.mem_ownProperties_iff, and_assoc]
  · rw [← Variant.bareElement?_eq_some_iff_holdsBare, Variant.bareElement?_eq_some_iff]

/-- Letters, and parcels that declare a property of a letter again. A crate has the identifier of
that property under another name. A sack has a scalar in a redeclared property, in an own one and
under its undeclared keys. -/
def parcels : Graph where
  entities := [
    { name := "letter"
      properties := [⟨"image_url", .text .uri, none⟩, ⟨"tags", .text .plain, none⟩] },
    { name := "parcel", parent := some "letter"
      properties := [⟨"image_url", .text .plain, none⟩] },
    { name := "crate", parent := some "#parcel"
      properties := [⟨"sizes", .container .array (.scalar .integer), none⟩,
        ⟨"imageUrl", .text .uri, none⟩] },
    { name := "sack", parent := some "schemas/letter.json"
      properties := [⟨"tags", .container .array (.scalar .boolean), none⟩,
        ⟨"weights", .container .map (.container .array (.scalar .number)), none⟩]
      additional := some (.scalar .integer) }]
  sound := by decide +kernel

/-- The crate fails with its name before its sizes, and the parcel is blamed instead of the
letter. -/
theorem failure_exact_parcels : ∃ e ∈ parcels.entities, ∃ as, parcels.ancestors e = .ok as ∧
    parcels.synthesize {} e =
      .error (.entity (.inheritedCollision "crate" "imageUrl" "parcel" "image_url")) ∧
    Lineage.FailsWith ⟨as, e⟩ (.inheritedCollision "crate" "imageUrl" "parcel" "image_url") := by
  have he : parcels.entities[2] ∈ parcels.entities := List.getElem_mem _
  have has : parcels.ancestors parcels.entities[2] =
      .ok [parcels.entities[0], parcels.entities[1]] := by
    decide +kernel
  have hview : (parcels.synthesize {} parcels.entities[2]).map (fun _ => ()) =
      .error (.entity (.inheritedCollision "crate" "imageUrl" "parcel" "image_url")) := by
    decide +kernel
  have hfails := map_eq_error_iff.mp hview
  obtain ⟨own, hown, hwhy⟩ := ((failure_exact he has).why _).mp hfails
  obtain rfl := CompileFault.entity.inj hown
  exact ⟨_, he, _, has, hfails, hwhy⟩

end Graph

end EntityModels
