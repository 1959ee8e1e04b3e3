import EntityModels.Proofs.Model.Synthesis
import EntityModels.Proofs.Target.Spelling

/-!
What the spelling of a type says about a property. Whether a property is a pointer and who owns its
value follow from the type, and not from what the spelling hides, so properties whose types are
spelled alike are declared alike, `TargetType.spelling_exact`. They may belong to models of two
graphs, or of one graph under two namings.
-/
namespace EntityModels

namespace PropertyModel

variable {p q : PropertyModel}

/-- The property belongs to a model that a synthesis gives, for an entity in the graph or outside
it. -/
def Synthesized (p : PropertyModel) : Prop :=
  ∃ (g : Graph) (naming : Naming) (e : Entity) (m : Model),
    g.synthesize naming e = .ok m ∧ p ∈ m.properties

/-- What the model of a property takes from its type. -/
structure FollowsType (p : PropertyModel) : Prop where
  typeName : p.typeName = p.type.spelling
  ownership : p.ownership = p.type.ownership
  declaration : p.declaration = Synthesis.declarationOf p.type

theorem followsType_of_propertyModel {s : Synthesis} {entity : Entity} {source : Property}
    {bit : Nat} (h : s.propertyModel entity source bit = .ok p) : p.FollowsType := by
  unfold Synthesis.propertyModel at h
  split at h
  · simp at h
  · obtain rfl := Except.ok.inj h
    exact ⟨rfl, rfl, rfl⟩

theorem Synthesized.followsType (h : p.Synthesized) : p.FollowsType := by
  obtain ⟨g, naming, e, m, hm, hp⟩ := h
  have hrun := (Synthesis.model_ok (Graph.model_of_synthesize hm)).properties
  obtain ⟨_, _, hmodel⟩ := exists_of_forall₂_right (mapM_eq_ok_iff_forall₂.mp hrun) hp
  exact followsType_of_propertyModel hmodel

/-- The types of two properties differ only in what a spelling does not show, and the properties are
declared in one way. -/
structure DeclaredAlike (p q : PropertyModel) : Prop where
  type : p.type.anonymous = q.type.anonymous
  ownership : p.ownership = q.ownership
  isPointer : p.declaration.isPointer = q.declaration.isPointer
  declaration : p.declaration = q.declaration

/-- Types that are the same up to what a spelling hides declare their properties alike. -/
theorem declaredAlike_of_anonymous_eq (hp : p.FollowsType) (hq : q.FollowsType)
    (h : p.type.anonymous = q.type.anonymous) : p.DeclaredAlike q := by
  have hownership : p.type.ownership = q.type.ownership := by
    rw [← TargetType.ownership_anonymous p.type, h, TargetType.ownership_anonymous]
  have hpointer : p.type.isPointer = q.type.isPointer := by
    rw [← TargetType.isPointer_anonymous p.type, h, TargetType.isPointer_anonymous]
  have hdeclaration : p.declaration = q.declaration := by
    rw [hp.declaration, hq.declaration, Synthesis.declarationOf, Synthesis.declarationOf,
      hownership, hpointer]
  refine ⟨h, ?_, congrArg Declaration.isPointer hdeclaration, hdeclaration⟩
  rw [hp.ownership, hq.ownership, hownership]

end PropertyModel

namespace TargetType

/-- What the spellings of two types say about the types, and about properties with these types. -/
structure SpellingExact (s t : TargetType) : Prop where
  types : s.spelling = t.spelling ↔ s.anonymous = t.anonymous
  /-- The properties may be of two models, from two graphs. -/
  properties : ∀ p q : PropertyModel, p.Synthesized → q.Synthesized → p.type = s → q.type = t →
    p.typeName = q.typeName → p.DeclaredAlike q

/-- Two legible types have one spelling when they differ in the hidden parts only, and then their
properties are declared alike. -/
theorem spelling_exact {s t : TargetType} (hs : s.Legible) (ht : t.Legible) :
    SpellingExact s t := by
  refine ⟨spelling_eq_iff hs ht, fun p q hp hq hptype hqtype hname => ?_⟩
  subst hptype hqtype
  rw [hp.followsType.typeName, hq.followsType.typeName] at hname
  exact PropertyModel.declaredAlike_of_anonymous_eq hp.followsType hq.followsType
    (anonymous_eq_of_spelling_eq hs ht hname)

end TargetType

namespace Graph

theorem exists_synthesized_of_types {g : Graph} {naming : Naming} {e : Entity}
    {types : List TargetType} {type : TargetType}
    (h : (g.synthesize naming e).toOption.map (fun m => m.properties.map (·.type)) = some types)
    (htype : type ∈ types) : ∃ p : PropertyModel, p.Synthesized ∧ p.type = type := by
  obtain ⟨m, hm, rfl⟩ := exists_ok_of_view h
  obtain ⟨p, hp, rfl⟩ := List.mem_map.mp htype
  exact ⟨p, ⟨g, naming, e, m, hm, hp⟩, rfl⟩

/-- A harbour with two kinds of charts. With a prefix, the class of the one may have the name that
the class of the other has without. -/
def harbours : Graph where
  entities := [
    { name := "chart" },
    { name := "sea_chart" },
    { name := "harbour"
      properties := [⟨"depths", .container .map (.container .array (.reference "#chart")), none⟩,
        ⟨"routes", .container .map (.container .array (.reference "#sea_chart")), none⟩] }]
  sound := by decide +kernel

theorem spelling_exact_harbours : ∃ p q : PropertyModel, p.Synthesized ∧ q.Synthesized ∧
    p.type = .container .map (.container .array (.model "chart" "SeaChart")) ∧
    q.type = .container .map (.container .array (.model "sea_chart" "SeaChart")) ∧
    p.type.Legible ∧ q.type.Legible ∧ p.typeName = q.typeName ∧
    p.type.SpellingExact q.type ∧ p.DeclaredAlike q := by
  have hprefixed : (harbours.synthesize ⟨some "Sea"⟩ harbours.entities[2]).toOption.map
      (fun m => m.properties.map (·.type)) =
      some [.container .map (.container .array (.model "chart" "SeaChart")),
        .container .map (.container .array (.model "sea_chart" "SeaSeaChart"))] := by
    decide +kernel
  have hbare : (harbours.synthesize {} harbours.entities[2]).toOption.map
      (fun m => m.properties.map (·.type)) =
      some [.container .map (.container .array (.model "chart" "Chart")),
        .container .map (.container .array (.model "sea_chart" "SeaChart"))] := by
    decide +kernel
  obtain ⟨p, hp, hptype⟩ := exists_synthesized_of_types hprefixed List.mem_cons_self
  obtain ⟨q, hq, hqtype⟩ :=
    exists_synthesized_of_types hbare (List.mem_cons_of_mem _ List.mem_cons_self)
  have hplegible : p.type.Legible := by
    rw [hptype]
    decide
  have hqlegible : q.type.Legible := by
    rw [hqtype]
    decide
  have hname : p.typeName = q.typeName := by
    rw [hp.followsType.typeName, hq.followsType.typeName, hptype, hqtype]
    rfl
  have hexact := TargetType.spelling_exact hplegible hqlegible
  exact ⟨p, q, hp, hq, hptype, hqtype, hplegible, hqlegible, hname, hexact,
    hexact.properties p q hp hq rfl rfl hname⟩

end Graph

end EntityModels
