import EntityModels.Proofs.Target.Coercion

/-!
Shapes as nestings: containers, the outermost first, around a leaf or around nothing. Whether a
shape needs work, why it is faulty and what its coercion rule is can be read off its containers and
its leaf, `CoercionRule.closed_form`.
-/
namespace EntityModels

/-- What can stand inside all containers of a shape. -/
inductive Leaf where
  | scalar (kind : ScalarKind)
  | text (format : TextFormat)
  | reference (target : String)
deriving DecidableEq, Repr

/-- The shape that is a leaf by itself. -/
def Leaf.toVariant : Leaf → Variant
  | .scalar kind => .scalar kind
  | .text format => .text format
  | .reference target => .reference target

namespace Variant

variable {v element : Variant} {kind : ContainerKind}

/-- The kinds of the containers around the leaf, the outermost first. -/
def containers : Variant → List ContainerKind
  | .untyped kind => [kind]
  | .container kind element => kind :: element.containers
  | _ => []

/-- What stands inside all containers; nothing does when the innermost one is untyped. -/
def leaf? : Variant → Option Leaf
  | .scalar kind => some (.scalar kind)
  | .text format => some (.text format)
  | .reference target => some (.reference target)
  | .untyped _ => none
  | .container _ element => element.leaf?

/-- The shape of containers around a leaf or around nothing. Nothing by itself is no shape. -/
def nest? (kinds : List ContainerKind) (leaf : Option Leaf) : Option Variant :=
  kinds.foldr (fun kind element => some (.ofElement kind element)) (leaf.map Leaf.toVariant)

/-- Whether the leaf of a shape is a text with a format or a reference. -/
def LeafNeedsWork (v : Variant) : Prop :=
  v.leaf? = some (.text .uri) ∨ v.leaf? = some (.text .dateTime) ∨
    ∃ target, v.leaf? = some (.reference target)

/-- The fault of a scalar leaf in a container, which names the innermost container. -/
def bareElement? (v : Variant) : Option ElementFault :=
  match v.containers.getLast?, v.leaf? with
  | some kind, some (.scalar bare) => some ⟨kind, bare⟩
  | _, _ => none

/-- A shape can be put together again from its containers and its leaf. -/
theorem nest?_containers (v : Variant) : nest? v.containers v.leaf? = some v := by
  induction v with
  | container kind element ih =>
    have hcons : nest? (container kind element).containers (container kind element).leaf? =
        some (.ofElement kind (nest? element.containers element.leaf?)) := rfl
    rw [hcons, ih]
    rfl
  | _ => rfl

/-- What is put together has the containers and the leaf of which it is made. -/
theorem spine_of_nest? {kinds : List ContainerKind} {leaf : Option Leaf}
    (h : nest? kinds leaf = some v) : v.containers = kinds ∧ v.leaf? = leaf := by
  induction kinds generalizing v with
  | nil =>
    obtain ⟨leaf, rfl, rfl⟩ := Option.map_eq_some_iff.mp h
    cases leaf <;> exact ⟨rfl, rfl⟩
  | cons kind kinds ih =>
    obtain rfl : Variant.ofElement kind (nest? kinds leaf) = v := Option.some.inj h
    cases hinner : nest? kinds leaf with
    | some element =>
      obtain ⟨hkinds, hleaf⟩ := ih hinner
      exact ⟨congrArg (kind :: ·) hkinds, hleaf⟩
    | none =>
      cases kinds with
      | nil => exact ⟨rfl, (Option.map_eq_none_iff.mp hinner).symm⟩
      | cons => simp [nest?] at hinner

/-- A shape is put together in one way. -/
theorem nest?_eq_some_iff {kinds : List ContainerKind} {leaf : Option Leaf} :
    nest? kinds leaf = some v ↔ v.containers = kinds ∧ v.leaf? = leaf := by
  refine ⟨spine_of_nest?, ?_⟩
  rintro ⟨rfl, rfl⟩
  exact nest?_containers v

theorem containers_ofVariant (g : Graph) (naming : Naming) (v : Variant) :
    (TargetType.ofVariant g naming v).containers = v.containers := by
  induction v with
  | container kind element ih => exact congrArg (kind :: ·) ih
  | text format => cases format <;> rfl
  | reference target =>
    unfold TargetType.ofVariant TargetType.ofReference
    cases g.target? target <;> rfl
  | _ => rfl

theorem bareElement?_container (h : element.isScalar = false) :
    (container kind element).bareElement? = element.bareElement? := by
  cases element with
  | scalar => simp [isScalar] at h
  | text | reference | untyped => rfl
  | container =>
    unfold bareElement?
    rw [containers, containers, List.getLast?_cons_cons]
    rfl

/-- A shape has the fault of its lowered type. -/
theorem bareElement?_ofVariant (g : Graph) (naming : Naming) (v : Variant) :
    (TargetType.ofVariant g naming v).bareElement? = v.bareElement? := by
  induction v with
  | scalar | untyped => rfl
  | text format => cases format <;> rfl
  | reference target =>
    unfold TargetType.ofVariant TargetType.ofReference
    cases g.target? target <;> rfl
  | container kind element ih =>
    rw [TargetType.ofVariant]
    cases hscalar : element.isScalar with
    | true =>
      obtain ⟨bare, rfl⟩ : ∃ bare, element = .scalar bare := by
        cases element <;> simp [isScalar] at hscalar ⊢
      rw [TargetType.ofVariant, TargetType.bareElement?, PrimitiveType.scalar_ofScalar]
      rfl
    | false =>
      have hprimitive := (isPrimitive_ofVariant g naming element).trans hscalar
      rw [TargetType.bareElement?_container hprimitive, ih, bareElement?_container hscalar]

/-- The work on a lowered type is that on its lowered leaf. -/
theorem work?_ofVariant (g : Graph) (naming : Naming) (v : Variant) :
    (TargetType.ofVariant g naming v).work? =
      v.leaf?.bind fun leaf => (TargetType.ofVariant g naming leaf.toVariant).work? := by
  induction v with
  | container kind element ih => exact ih
  | _ => rfl

theorem isSome_work?_ofVariant (g : Graph) (naming : Naming) (v : Variant) :
    (TargetType.ofVariant g naming v).work?.isSome ↔ v.LeafNeedsWork := by
  rw [work?_ofVariant]
  unfold LeafNeedsWork
  cases v.leaf? with
  | none => simp
  | some leaf =>
    cases leaf with
    | scalar kind => exact iff_of_false (by simp [Leaf.toVariant, TargetType.ofVariant,
        TargetType.work?, TargetType.leaf]) (by simp)
    | text format => cases format <;> simp [Leaf.toVariant, TargetType.ofVariant,
        TargetType.ofFormat, TargetType.work?, TargetType.leaf]
    | reference target =>
      refine iff_of_true ?_ (.inr (.inr ⟨target, rfl⟩))
      rw [Option.bind_some, Leaf.toVariant, TargetType.ofVariant, TargetType.ofReference]
      cases g.target? target <;> rfl

theorem cast?_ofVariant (g : Graph) (naming : Naming) (v : Variant) (cast : PrimitiveType) :
    (TargetType.ofVariant g naming v).cast? = some cast ↔
      ∃ kind, v.containers = [] ∧ v.leaf? = some (.scalar kind) ∧ cast = .ofScalar kind := by
  cases v with
  | scalar kind => simp [TargetType.ofVariant, TargetType.cast?, containers, leaf?, eq_comm]
  | text format => cases format <;> simp [TargetType.ofVariant, TargetType.ofFormat,
      TargetType.cast?, leaf?]
  | untyped | container => simp [TargetType.ofVariant, TargetType.cast?, containers]
  | reference target =>
    rw [TargetType.ofVariant, TargetType.ofReference]
    cases g.target? target <;> simp [TargetType.cast?, leaf?]

/-- The fault of a shape is a scalar leaf in its innermost container. -/
theorem bareElement?_eq_some_iff {fault : ElementFault} :
    v.bareElement? = some fault ↔
      v.containers.getLast? = some fault.container ∧ v.leaf? = some (.scalar fault.scalar) := by
  obtain ⟨kind, bare⟩ := fault
  unfold bareElement?
  split
  · rename_i hkind hleaf
    simp [hkind, hleaf]
  · rename_i hne
    refine iff_of_false (by simp) ?_
    rintro ⟨hkind, hleaf⟩
    exact hne kind bare hkind hleaf

theorem bareElement?_eq_none_iff :
    v.bareElement? = none ↔ v.containers = [] ∨ ∀ bare, v.leaf? ≠ some (.scalar bare) := by
  constructor
  · intro hnone
    by_cases hkinds : v.containers = []
    · exact .inl hkinds
    · refine .inr fun bare hleaf => ?_
      have hsome : v.bareElement? = some ⟨_, bare⟩ :=
        bareElement?_eq_some_iff.mpr ⟨List.getLast?_eq_some_getLast hkinds, hleaf⟩
      simp [hnone] at hsome
  · intro h
    refine Option.eq_none_iff_forall_ne_some.mpr fun fault hsome => ?_
    obtain ⟨hkind, hleaf⟩ := bareElement?_eq_some_iff.mp hsome
    rcases h with hkinds | hscalar
    · simp [hkinds] at hkind
    · exact hscalar _ hleaf

/-- The question whether a shape needs work has no answer exactly for a faulty one. -/
theorem needsTransform_eq_error_iff (g : Graph) (naming : Naming) {fault : ElementFault} :
    v.needsTransform = .error fault ↔ v.bareElement? = some fault := by
  rw [needsTransform_eq g naming, bareElement?_ofVariant]
  cases v.bareElement? <;> simp

/-- A shape without a fault needs work when its leaf does. -/
theorem needsTransform_eq_ok_iff (g : Graph) (naming : Naming) {needs : Bool} :
    v.needsTransform = .ok needs ↔
      v.bareElement? = none ∧ (needs = true ↔ v.LeafNeedsWork) := by
  rw [needsTransform_eq g naming, bareElement?_ofVariant, ← isSome_work?_ofVariant g naming,
    ← Bool.eq_iff_iff]
  cases v.bareElement? <;> simp [eq_comm]

end Variant

/-- A rule stands somewhere inside an element by element rule. -/
inductive CoercionRule.Inside (inner : CoercionRule) : CoercionRule → Prop
  | element {kind : ContainerKind} : Inside inner (.elementwise kind inner)
  | deeper {kind : ContainerKind} {element : CoercionRule} :
    Inside inner element → Inside inner (.elementwise kind element)

namespace CoercionRule

variable {g : Graph} {naming : Naming} {v : Variant}

/-- Work is never done by taking a value as it is. -/
theorem isDirect_of_work? {type : TargetType} {work : CoercionRule}
    (h : type.work? = some work) : work.isDirect = false := by
  cases work with
  | direct =>
    unfold TargetType.work? at h
    cases hleaf : type.leaf <;> simp [hleaf] at h
  | _ => rfl

/-- What stands inside element by element rules around some work is such a rule or that work. -/
theorem isDirect_of_inside {type : TargetType} {work inner : CoercionRule}
    (hwork : type.work? = some work) {kinds : List ContainerKind}
    (h : inner.Inside (kinds.foldr .elementwise work)) : inner.isDirect = false := by
  induction kinds with
  | nil =>
    have hcontainers := (TargetType.leaf_of_work? hwork).2
    cases h <;> simp [containers] at hcontainers
  | cons kind kinds ih =>
    cases h with
    | deeper h => exact ih h
    | element =>
      cases kinds with
      | nil => exact isDirect_of_work? hwork
      | cons => rfl

theorem ofVariant_eq_error_iff {fault : ElementFault} :
    ofVariant g naming v = .error fault ↔ v.bareElement? = some fault := by
  rw [ofVariant_eq_coercion, TargetType.coercion, Variant.bareElement?_ofVariant]
  cases v.bareElement? <;> cases (TargetType.ofVariant g naming v).work? <;> simp

/-- The rule of a shape is the work on its leaf, once for every container, or a cast. -/
theorem ofVariant_eq_ok_iff {rule : CoercionRule} :
    ofVariant g naming v = .ok rule ↔ v.bareElement? = none ∧
      rule = ((TargetType.ofVariant g naming v).work?.map (v.containers.foldr .elementwise)).getD
        (.direct (TargetType.ofVariant g naming v).cast?) := by
  rw [ofVariant_eq_coercion, TargetType.coercion_eq_ok_iff, Variant.bareElement?_ofVariant,
    Variant.containers_ofVariant]

/-- What the need for work and the coercion rule of a shape are, given its containers and its
leaf. -/
structure ClosedForm (g : Graph) (naming : Naming) (v : Variant) : Prop where
  /-- The shape is containers around a leaf or around nothing, in one way. -/
  nesting : ∀ kinds leaf, Variant.nest? kinds leaf = some v ↔
    v.containers = kinds ∧ v.leaf? = leaf
  /-- Both fail on a scalar in a container, and name the innermost one. -/
  needsFault : ∀ fault, v.needsTransform = .error fault ↔
    v.containers.getLast? = some fault.container ∧ v.leaf? = some (.scalar fault.scalar)
  ruleFault : ∀ fault, ofVariant g naming v = .error fault ↔
    v.containers.getLast? = some fault.container ∧ v.leaf? = some (.scalar fault.scalar)
  needs : ∀ needs, v.needsTransform = .ok needs ↔
    (v.containers = [] ∨ ∀ bare, v.leaf? ≠ some (.scalar bare)) ∧
      (needs = true ↔ v.LeafNeedsWork)
  direct : v.needsTransform = .ok false → ∃ cast, ofVariant g naming v = .ok (.direct cast) ∧
    ∀ primitive, cast = some primitive ↔
      ∃ kind, v.containers = [] ∧ v.leaf? = some (.scalar kind) ∧ primitive = .ofScalar kind
  /-- Where the leaf needs work, its rule stands inside one rule for every container. -/
  elementwise : v.needsTransform = .ok true → ∃ leaf work, v.leaf? = some leaf ∧
    ofVariant g naming leaf.toVariant = .ok work ∧
    ofVariant g naming v = .ok (v.containers.foldr .elementwise work)
  noDirectInside : ∀ rule inner, ofVariant g naming v = .ok rule → Inside inner rule →
    isDirect inner = false

/-- Faults, work and rules have a closed form in every graph, under every naming. -/
theorem closed_form (g : Graph) (naming : Naming) (v : Variant) : ClosedForm g naming v := by
  refine ⟨fun _ _ => Variant.nest?_eq_some_iff, fun _ => ?_, fun _ => ?_, fun _ => ?_, ?_, ?_, ?_⟩
  · rw [Variant.needsTransform_eq_error_iff g naming, Variant.bareElement?_eq_some_iff]
  · rw [ofVariant_eq_error_iff, Variant.bareElement?_eq_some_iff]
  · rw [Variant.needsTransform_eq_ok_iff g naming, Variant.bareElement?_eq_none_iff]
  · intro hneeds
    obtain ⟨hbare, hleaf⟩ := (Variant.needsTransform_eq_ok_iff g naming).mp hneeds
    have hwork : (TargetType.ofVariant g naming v).work? = none := by
      rw [← Option.not_isSome_iff_eq_none, Variant.isSome_work?_ofVariant, ← hleaf]
      simp
    refine ⟨_, ofVariant_eq_ok_iff.mpr ⟨hbare, ?_⟩, fun _ => Variant.cast?_ofVariant g naming v _⟩
    rw [hwork]
    rfl
  · intro hneeds
    obtain ⟨hbare, hleaf⟩ := (Variant.needsTransform_eq_ok_iff g naming).mp hneeds
    obtain ⟨work, hwork⟩ := Option.isSome_iff_exists.mp
      ((Variant.isSome_work?_ofVariant g naming v).mpr (hleaf.mp rfl))
    have hbind := hwork
    rw [Variant.work?_ofVariant] at hbind
    obtain ⟨leaf, hsome, hleafWork⟩ := Option.bind_eq_some_iff.mp hbind
    refine ⟨leaf, work, hsome, ofVariant_eq_ok_iff.mpr ⟨?_, ?_⟩,
      ofVariant_eq_ok_iff.mpr ⟨hbare, ?_⟩⟩
    · cases leaf <;> rfl
    · -- a leaf by itself has no containers around it
      rw [hleafWork]
      cases leaf <;> rfl
    · rw [hwork]
      rfl
  · intro rule inner hrule hinside
    obtain ⟨_, rfl⟩ := ofVariant_eq_ok_iff.mp hrule
    cases hwork : (TargetType.ofVariant g naming v).work? with
    | some work =>
      rw [hwork] at hinside
      exact isDirect_of_inside hwork hinside
    | none =>
      rw [hwork] at hinside
      cases hinside

end CoercionRule

end EntityModels
