import EntityModels.Proofs.Target.Coercion

/-!
References in shapes and in the types to which they are lowered. A type has an unresolved target in
it exactly where the shape has a reference that the graph does not resolve, and a class exactly
where it has one to the entity of the class.
-/
namespace EntityModels

/-- A shape has a reference to `target` in it, inside any number of containers. -/
inductive Variant.Mentions (target : String) : Variant → Prop
  | reference : Mentions target (.reference target)
  | element {kind : ContainerKind} {element : Variant} :
    Mentions target element → Mentions target (.container kind element)

/-- A type has the unresolved `target` in it, inside any number of containers. -/
inductive TargetType.HasUnresolved (target : String) : TargetType → Prop
  | here : HasUnresolved target (.unresolved target)
  | element {kind : ContainerKind} {element : TargetType} :
    HasUnresolved target element → HasUnresolved target (.container kind element)

/-- A shape mentions at most one reference, however deep. -/
theorem Variant.target?_eq_some_iff {v : Variant} {t : String} :
    v.target? = some t ↔ v.Mentions t := by
  constructor
  · intro h
    induction v with
    | scalar | text | untyped => simp [target?] at h
    | container kind element ih => exact .element (ih (by simpa [target?] using h))
    | reference target =>
      obtain rfl : target = t := by simpa [target?] using h
      exact .reference
  · intro h
    induction h with
    | reference => rfl
    | element _ ih => simpa [target?] using ih

/-- The unresolved targets of a type are those in it, however deep. -/
theorem TargetType.mem_unresolvedTargets_iff {type : TargetType} {t : String} :
    t ∈ type.unresolvedTargets ↔ type.HasUnresolved t := by
  induction type with
  | primitive | string | url | date | untyped | model =>
    constructor
    · intro h
      simp [unresolvedTargets, leaf] at h
    · intro h
      cases h
  | container kind element ih =>
    refine ih.trans ⟨.element, fun h => ?_⟩
    cases h with
    | element h => exact h
  | unresolved target =>
    constructor
    · intro h
      obtain rfl : t = target := by simpa [unresolvedTargets, leaf] using h
      exact .here
    · intro h
      cases h
      simp [unresolvedTargets, leaf]

namespace Graph

variable {g : Graph} {naming : Naming} {v : Variant} {t : String}

/-- The reference in a shape, if it is not to an entity of the graph. -/
def missing? (g : Graph) (v : Variant) : Option String :=
  v.target?.filter fun target => (g.target? target).isNone

theorem missing?_eq_some_iff : g.missing? v = some t ↔ v.Mentions t ∧ g.target? t = none := by
  simp [missing?, Option.filter_eq_some_iff, Variant.target?_eq_some_iff]

/-- The unresolved targets of a lowered type are those of its shape. -/
theorem unresolvedTargets_ofVariant :
    (TargetType.ofVariant g naming v).unresolvedTargets = (g.missing? v).toList := by
  induction v with
  | scalar | untyped => rfl
  | text format => cases format <;> rfl
  | container kind element ih => exact ih
  | reference target =>
    cases htarget : g.target? target <;>
      simp [TargetType.ofVariant, TargetType.ofReference, TargetType.unresolvedTargets,
        TargetType.leaf, missing?, Variant.target?, Option.filter_some, htarget]

/-- A lowered type has an unresolved target where its shape mentions a reference that leads
nowhere. -/
theorem hasUnresolved_ofVariant_iff :
    (TargetType.ofVariant g naming v).HasUnresolved t ↔ v.Mentions t ∧ g.target? t = none := by
  rw [← TargetType.mem_unresolvedTargets_iff, unresolvedTargets_ofVariant, Option.mem_toList,
    missing?_eq_some_iff]

/-- A lowered type has a class in it where its shape mentions a reference to the entity. -/
theorem occurs_model_ofVariant_iff {entity className : String} :
    TargetType.Occurs (.model entity className) (.ofVariant g naming v) ↔
      ∃ t y, v.Mentions t ∧ g.target? t = some y ∧ entity = y.name ∧
        className = naming.className y.name := by
  constructor
  · intro h
    induction v with
    | scalar | untyped => cases h
    | text format => cases format <;> cases h
    | container kind element ih =>
      obtain ⟨t, y, hmentions, hy⟩ := ih ((TargetType.occurs_container_iff (by simp)).mp h)
      exact ⟨t, y, .element hmentions, hy⟩
    | reference target =>
      unfold TargetType.ofVariant TargetType.ofReference at h
      split at h
      · rename_i y htarget
        cases h
        exact ⟨target, y, .reference, htarget, rfl, rfl⟩
      · cases h
  · rintro ⟨t, y, hmentions, htarget, rfl, rfl⟩
    induction hmentions with
    | reference =>
      rw [TargetType.ofVariant, TargetType.ofReference, htarget]
      exact .here
    | element _ ih => exact .element ih

end Graph

end EntityModels
