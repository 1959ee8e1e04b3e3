import EntityModels.Proofs.Graph.Spelling
import EntityModels.Proofs.Model.Synthesis
import EntityModels.Proofs.Target.Unresolved
import Mathlib.Data.String.Basic

/-!
The forward references of a class: the classes in the types of its properties, each once, without
the class itself. They are computed from the names of classes, and come out as the classes of the
other entities to which an own property refers, `Graph.forwardReferences_exact`.
-/
namespace EntityModels

variable {text : String} {texts : List String}

theorem mem_insertSorted {other : String} :
    text ∈ insertSorted other texts ↔ text = other ∨ text ∈ texts := by
  induction texts with
  | nil => simp [insertSorted]
  | cons first rest ih =>
    unfold insertSorted
    split
    · exact List.mem_cons
    · split
      · -- the text is there already
        rename_i heq
        rw [List.mem_cons, heq, or_self_left]
      · rw [List.mem_cons, ih, List.mem_cons, or_left_comm]

theorem mem_sortDistinct : text ∈ sortDistinct texts ↔ text ∈ texts := by
  induction texts with
  | nil => rfl
  | cons first rest ih =>
    rw [sortDistinct, List.foldr_cons, mem_insertSorted, ← sortDistinct, ih, List.mem_cons]

/-- A text stays in the order of the others, and is not put in twice. -/
theorem pairwise_insertSorted (h : texts.Pairwise (· < ·)) :
    (insertSorted text texts).Pairwise (· < ·) := by
  induction texts with
  | nil => exact List.pairwise_singleton _ _
  | cons first rest ih =>
    obtain ⟨hfirst, hrest⟩ := List.pairwise_cons.mp h
    unfold insertSorted
    split
    · rename_i hlt
      refine .cons ?_ h
      intro t ht
      rcases List.mem_cons.mp ht with rfl | ht
      · exact hlt
      · exact lt_trans hlt (hfirst t ht)
    · split
      · exact h
      · rename_i hnlt hne
        refine .cons ?_ (ih hrest)
        intro t ht
        rcases mem_insertSorted.mp ht with rfl | ht
        · exact lt_of_le_of_ne (not_lt.mp hnlt) (Ne.symm hne)
        · exact hfirst t ht

/-- The sorted texts ascend, so none is there twice. -/
theorem pairwise_sortDistinct : (sortDistinct texts).Pairwise (· < ·) := by
  induction texts with
  | nil => exact .nil
  | cons first rest ih => exact pairwise_insertSorted ih

/-- The class names of a type are those of the models in it, however deep. -/
theorem TargetType.mem_classNames_iff {type : TargetType} {className : String} :
    className ∈ type.classNames ↔ ∃ entity, Occurs (.model entity className) type := by
  induction type with
  | container kind element ih =>
    exact ih.trans (exists_congr fun entity => (occurs_container_iff (by simp)).symm)
  | model entity name =>
    refine List.mem_singleton.trans ⟨fun h => ⟨entity, h ▸ .here⟩, fun h => ?_⟩
    obtain ⟨_, h⟩ := h
    cases h
    rfl
  | primitive | string | url | date | untyped | unresolved =>
    refine iff_of_false List.not_mem_nil ?_
    rintro ⟨_, h⟩
    cases h

namespace Synthesis

variable {s : Synthesis} {l : Lineage} {m : Model}

/-- The forward references are the classes in the types of the own properties, without the class
itself. -/
theorem mem_forwardReferences_iff (h : s.model l = .ok m) {name : String} :
    name ∈ m.modelClass.forwardReferences ↔ name ≠ m.modelClass.className ∧
      ∃ pm ∈ m.properties, ∃ entity, TargetType.Occurs (.model entity name) pm.type := by
  rw [model_forwardReferences h, forwardReferences, mem_sortDistinct, List.mem_filter,
    List.mem_flatMap, and_comm, decide_eq_true_iff]
  simp only [TargetType.mem_classNames_iff]

end Synthesis

namespace Graph

variable {g : Graph} {naming : Naming} {e y : Entity} {as : List Entity} {m : Model}

/-- An own property has a reference to an entity in it, inside any number of containers. -/
def RefersTo (g : Graph) (l : Lineage) (y : Entity) : Prop :=
  ∃ p ∈ l.entity.properties, (∀ a ∈ l.ancestors, p.name ∉ a.declaredNames) ∧
    ∃ reference, p.variant.Mentions reference ∧ g.resolve reference = .ok y

theorem refersTo_iff {l : Lineage} : g.RefersTo l y ↔
    ∃ p ∈ l.ownProperties, ∃ reference, p.variant.Mentions reference ∧
      g.target? reference = some y := by
  simp only [RefersTo, Lineage.mem_ownProperties_iff, resolve_eq_ok_iff, and_assoc]

theorem RefersTo.mem {l : Lineage} (h : g.RefersTo l y) : y ∈ g.entities := by
  obtain ⟨_, _, _, _, htarget⟩ := refersTo_iff.mp h
  exact target?_mem htarget

/-- The classes in the types of a model are those of the entities to which its own properties
refer. -/
theorem exists_occurs_model_iff (he : e ∈ g.entities) (has : g.ancestors e = .ok as)
    (hm : g.synthesize naming e = .ok m) {className : String} :
    (∃ pm ∈ m.properties, ∃ entity, TargetType.Occurs (.model entity className) pm.type) ↔
      ∃ y, g.RefersTo ⟨as, e⟩ y ∧ className = naming.className y.name := by
  have hmodels := forall₂_properties he hm
  rw [lineage_of_ancestors has] at hmodels
  simp only [refersTo_iff]
  constructor
  · rintro ⟨pm, hpm, entity, hoccurs⟩
    obtain ⟨p, hp, hdescribes⟩ := exists_of_forall₂_right hmodels hpm
    rw [hdescribes.type] at hoccurs
    obtain ⟨t, y, hmentions, htarget, _, hclass⟩ := occurs_model_ofVariant_iff.mp hoccurs
    exact ⟨y, ⟨p, hp, t, hmentions, htarget⟩, hclass⟩
  · rintro ⟨y, ⟨p, hp, t, hmentions, htarget⟩, hclass⟩
    obtain ⟨pm, hpm, hdescribes⟩ := exists_of_forall₂_left hmodels hp
    refine ⟨pm, hpm, y.name, ?_⟩
    rw [hdescribes.type]
    exact occurs_model_ofVariant_iff.mpr ⟨t, y, hmentions, htarget, rfl, hclass⟩

/-- The class of an entity is a forward reference when another one refers to the entity. -/
theorem className_mem_forwardReferences_iff (he : e ∈ g.entities) (has : g.ancestors e = .ok as)
    (hm : g.synthesize naming e = .ok m) (hy : y ∈ g.entities) :
    naming.className y.name ∈ m.modelClass.forwardReferences ↔
      y ≠ e ∧ g.RefersTo ⟨as, e⟩ y := by
  have hmodel := model_of_synthesize hm
  obtain ⟨hown, _⟩ := classNames_of_synthesize hm
  have hself : naming.className y.name ≠ m.modelClass.className ↔ y ≠ e := by
    rw [hown, not_iff_not]
    constructor
    · exact eq_of_className_eq hy he
    · rintro rfl
      rfl
  rw [Synthesis.mem_forwardReferences_iff hmodel, hself, exists_occurs_model_iff he has hm]
  refine and_congr_right fun _ => ⟨?_, fun hrefers => ⟨y, hrefers, rfl⟩⟩
  rintro ⟨z, hrefers, hclass⟩
  rwa [eq_of_className_eq hy hrefers.mem hclass]

/-- The forward references are the classes of the other entities to which an own property refers. -/
theorem mem_forwardReferences_iff (he : e ∈ g.entities) (has : g.ancestors e = .ok as)
    (hm : g.synthesize naming e = .ok m) {className : String} :
    className ∈ m.modelClass.forwardReferences ↔ ∃ y ∈ g.entities, y ≠ e ∧
      g.RefersTo ⟨as, e⟩ y ∧ className = naming.className y.name := by
  constructor
  · intro h
    obtain ⟨_, hoccurs⟩ := (Synthesis.mem_forwardReferences_iff (model_of_synthesize hm)).mp h
    obtain ⟨y, hrefers, rfl⟩ := (exists_occurs_model_iff he has hm).mp hoccurs
    obtain ⟨hne, _⟩ := (className_mem_forwardReferences_iff he has hm hrefers.mem).mp h
    exact ⟨y, hrefers.mem, hne, hrefers, rfl⟩
  · rintro ⟨y, hy, hne, hrefers, rfl⟩
    exact (className_mem_forwardReferences_iff he has hm hy).mpr ⟨hne, hrefers⟩

/-- Without forward references there is nothing to refer to but the entity itself. -/
theorem forwardReferences_eq_nil_iff (he : e ∈ g.entities) (has : g.ancestors e = .ok as)
    (hm : g.synthesize naming e = .ok m) :
    m.modelClass.forwardReferences = [] ↔ ∀ y, g.RefersTo ⟨as, e⟩ y → y = e := by
  rw [List.eq_nil_iff_forall_not_mem]
  constructor
  · intro hnone y hrefers
    by_contra hne
    have hmem := (className_mem_forwardReferences_iff he has hm hrefers.mem).mpr ⟨hne, hrefers⟩
    exact hnone _ hmem
  · intro hself className hmem
    obtain ⟨y, _, hne, hrefers, _⟩ := (mem_forwardReferences_iff he has hm).mp hmem
    exact hne (hself y hrefers)

/-- An entity refers to no other exactly when each reference in its own properties leads nowhere or
to itself. -/
theorem forall_refersTo_eq_iff {l : Lineage} : (∀ y, g.RefersTo l y → y = l.entity) ↔
    ∀ p ∈ l.entity.properties, (∀ a ∈ l.ancestors, p.name ∉ a.declaredNames) →
      ∀ reference, p.variant.Mentions reference →
        g.resolve reference = .error ⟨reference⟩ ∨ g.resolve reference = .ok l.entity := by
  constructor
  · intro hself p hp hown reference hmentions
    cases hresolve : g.resolve reference with
    | error fault => exact .inl (by rw [(resolve_eq_error_iff.mp hresolve).2])
    | ok y =>
      have hrefers : g.RefersTo l y := ⟨p, hp, hown, reference, hmentions, hresolve⟩
      exact .inr (by rw [hself y hrefers])
  · rintro hall y ⟨p, hp, hown, reference, hmentions, hresolve⟩
    rcases hall p hp hown reference hmentions with hfails | hself
    · simp [hresolve] at hfails
    · exact Except.ok.inj (hresolve.symm.trans hself)

/-- Which classes are the forward references of an entity with the ancestors `as`. -/
structure ForwardReferencesExact (g : Graph) (naming : Naming) (e : Entity) (as : List Entity)
    (m : Model) : Prop where
  /-- Every class once, in the order of the texts. -/
  sorted : m.modelClass.forwardReferences.Pairwise (· < ·)
  classes : ∀ className, className ∈ m.modelClass.forwardReferences ↔
    ∃ y ∈ g.entities, y ≠ e ∧ g.RefersTo ⟨as, e⟩ y ∧ className = naming.className y.name
  /-- Entity by entity, since no two of them have one class. -/
  entities : ∀ y ∈ g.entities, naming.className y.name ∈ m.modelClass.forwardReferences ↔
    y ≠ e ∧ g.RefersTo ⟨as, e⟩ y
  own : m.modelClass.className ∉ m.modelClass.forwardReferences
  parent : ∀ reference p, e.parent = some reference → g.resolve reference = .ok p →
    (naming.className p.name ∈ m.modelClass.forwardReferences ↔ g.RefersTo ⟨as, e⟩ p)
  /-- The spelling of a reference does not matter. -/
  spelled : ∀ y ∈ g.entities, y ≠ e → ∀ p ∈ e.properties, (∀ a ∈ as, p.name ∉ a.declaredNames) →
    ∀ reference, p.variant.Mentions reference → Reference.Spells y.name reference →
      naming.className y.name ∈ m.modelClass.forwardReferences
  empty : m.modelClass.forwardReferences = [] ↔
    ∀ p ∈ e.properties, (∀ a ∈ as, p.name ∉ a.declaredNames) →
      ∀ reference, p.variant.Mentions reference →
        g.resolve reference = .error ⟨reference⟩ ∨ g.resolve reference = .ok e

/-- The forward references of a model are exact for its entity. -/
theorem forwardReferences_exact (he : e ∈ g.entities) (hm : g.synthesize naming e = .ok m) :
    ∃ as, g.ancestors e = .ok as ∧ g.ForwardReferencesExact naming e as m := by
  obtain ⟨as, has⟩ := exists_ancestors_of_synthesize hm
  have hmodel := model_of_synthesize hm
  have hentities : ∀ y ∈ g.entities,
      naming.className y.name ∈ m.modelClass.forwardReferences ↔
        y ≠ e ∧ g.RefersTo ⟨as, e⟩ y := by
    intro y hy
    exact className_mem_forwardReferences_iff he has hm hy
  refine ⟨as, has, ?_, ?_, hentities, ?_, ?_, ?_, ?_⟩
  · rw [Synthesis.model_forwardReferences hmodel]
    exact pairwise_sortDistinct
  · intro className
    exact mem_forwardReferences_iff he has hm
  · intro h
    exact ((Synthesis.mem_forwardReferences_iff hmodel).mp h).1 rfl
  · intro reference p hparent hresolve
    have htarget := resolve_eq_ok_iff.mp hresolve
    rw [hentities p (target?_mem htarget)]
    exact and_iff_right (parent_ne_self has hparent htarget)
  · intro y hy hne p hp hown reference hmentions hspells
    have hresolve := resolve_eq_ok_iff.mpr (target?_eq_some_iff.mpr ⟨hy, hspells⟩)
    exact (hentities y hy).mpr ⟨hne, p, hp, hown, reference, hmentions, hresolve⟩
  · calc
      m.modelClass.forwardReferences = []
          ↔ ∀ y, g.RefersTo ⟨as, e⟩ y → y = e := forwardReferences_eq_nil_iff he has hm
      _ ↔ _ := forall_refersTo_eq_iff

/-- A villa refers to its parent, to itself, out of the graph, and to a gardener only where a
property is declared again and under its undeclared keys. A cabin refers to nothing. -/
def houses : Graph where
  entities := [
    { name := "villa", parent := some "#house"
      properties := [
        ⟨"annexes", .container .map (.container .array (.reference "schemas/house.json")), none⟩,
        ⟨"owner", .reference "gardener", none⟩,
        ⟨"copies", .container .array (.reference "villa.json"), none⟩,
        ⟨"pool", .reference "#pool", none⟩]
      additional := some (.reference "gardener") },
    { name := "house", properties := [⟨"owner", .reference "person", none⟩] },
    { name := "cabin", parent := some "house" },
    { name := "gardener" }]
  sound := by decide +kernel

theorem forwardReferences_exact_houses : ∃ e ∈ houses.entities, ∃ m,
    houses.synthesize {} e = .ok m ∧ m.modelClass.forwardReferences = ["House"] ∧
      ∃ as, houses.ancestors e = .ok as ∧ houses.ForwardReferencesExact {} e as m := by
  have he : houses.entities[0] ∈ houses.entities := List.getElem_mem _
  have hview : (houses.synthesize {} houses.entities[0]).toOption.map
      (·.modelClass.forwardReferences) = some ["House"] := by
    decide +kernel
  obtain ⟨m, hm, hforward⟩ := exists_ok_of_view hview
  exact ⟨_, he, m, hm, hforward, forwardReferences_exact he hm⟩

end Graph

end EntityModels
