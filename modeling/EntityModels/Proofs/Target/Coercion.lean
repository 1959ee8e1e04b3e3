import EntityModels.Target.Coercion

/-!
Coercion rules and the types to which shapes are lowered. The rule of a shape is decided by its
type: what is inside all containers says whether there is work to do, and if there is, every
container around it is worked on element by element. The two are computed from the shape apart from
each other, and here they are brought together in one equation,
`CoercionRule.ofVariant_eq_coercion`.
-/
namespace EntityModels

/-- The scalar that is lowered to a primitive type. -/
def PrimitiveType.scalar : PrimitiveType → ScalarKind
  | .boolean => .boolean
  | .integer => .integer
  | .float => .number

theorem PrimitiveType.scalar_ofScalar (kind : ScalarKind) :
    (PrimitiveType.ofScalar kind).scalar = kind := by
  cases kind <;> rfl

namespace CoercionRule

/-- The rule inside all element by element rules. -/
def leaf : CoercionRule → CoercionRule
  | .elementwise _ element => element.leaf
  | rule => rule

/-- The kinds of the containers that are worked on element by element, the outermost first. -/
def containers : CoercionRule → List ContainerKind
  | .elementwise kind element => kind :: element.containers
  | _ => []

theorem leaf_foldr (kinds : List ContainerKind) (work : CoercionRule) :
    (kinds.foldr .elementwise work).leaf = work.leaf := by
  induction kinds with
  | nil => rfl
  | cons kind kinds ih => exact ih

theorem containers_foldr (kinds : List ContainerKind) (work : CoercionRule) :
    (kinds.foldr .elementwise work).containers = kinds ++ work.containers := by
  induction kinds with
  | nil => rfl
  | cons kind kinds ih => rw [List.foldr_cons, containers, ih, List.cons_append]

end CoercionRule

namespace TargetType

variable {inner type element : TargetType} {kind : ContainerKind}

/-- A type stands in another one, inside any number of containers. -/
inductive Occurs (inner : TargetType) : TargetType → Prop
  | here : Occurs inner inner
  | element {kind : ContainerKind} {element : TargetType} :
    Occurs inner element → Occurs inner (.container kind element)

/-- What occurs in a part occurs in the whole. -/
theorem Occurs.trans {outer : TargetType} (h : Occurs inner type) (h' : Occurs type outer) :
    Occurs inner outer := by
  induction h' with
  | here => exact h
  | element _ ih => exact .element ih

/-- Another type occurs in a container when it occurs in the elements. -/
theorem occurs_container_iff (h : inner ≠ .container kind element) :
    Occurs inner (.container kind element) ↔ Occurs inner element := by
  refine ⟨fun hoccurs => ?_, .element⟩
  cases hoccurs with
  | here => exact absurd rfl h
  | element hoccurs => exact hoccurs

theorem occurs_leaf (type : TargetType) : Occurs type.leaf type := by
  induction type with
  | container kind element ih => exact .element ih
  | _ => exact .here

/-- A primitive stands inside a container. -/
def NestsPrimitive (type : TargetType) : Prop :=
  ∃ kind element cast, Occurs (.container kind element) type ∧
    Occurs (.primitive cast) element

/-- The kinds of the containers in a type, the outermost first. -/
def containers : TargetType → List ContainerKind
  | .untyped kind => [kind]
  | .container kind element => kind :: element.containers
  | _ => []

/-- Whether what is inside all containers is not taken over as it is. -/
def NeedsWork (type : TargetType) : Prop :=
  type.leaf = .url ∨ type.leaf = .date ∨ (∃ entity className, type.leaf = .model entity className) ∨
    ∃ target, type.leaf = .unresolved target

/-- The work that what is inside all containers needs. -/
def work? (type : TargetType) : Option CoercionRule :=
  match type.leaf with
  | .url => some (.formatted .uriParse)
  | .date => some (.formatted .dateTimeTransform)
  | .model entity className => some (.construct entity className)
  | .unresolved target => some (.construct target "")
  | _ => none

/-- The fault of a primitive that is the direct element of a container. -/
def bareElement? : TargetType → Option ElementFault
  | .container kind (.primitive cast) => some ⟨kind, cast.scalar⟩
  | .container _ element => element.bareElement?
  | _ => none

/-- The cast of a value that is taken over as it is. -/
def cast? : TargetType → Option PrimitiveType
  | .primitive cast => some cast
  | _ => none

/-- The coercion rule that a type calls for. -/
def coercion (type : TargetType) : Except ElementFault CoercionRule :=
  match type.bareElement?, type.work? with
  | some fault, _ => .error fault
  | none, some work => .ok (type.containers.foldr .elementwise work)
  | none, none => .ok (.direct type.cast?)

/-- A container of something other than a primitive adds no fault. -/
theorem bareElement?_container (h : type.isPrimitive = false) :
    (container kind type).bareElement? = type.bareElement? := by
  cases type with
  | primitive => simp [isPrimitive] at h
  | _ => rfl

theorem bareElement?_of_isPrimitive (h : type.isPrimitive = true) : type.bareElement? = none := by
  cases type with
  | primitive => rfl
  | _ => simp [isPrimitive] at h

theorem bareElement?_element (h : (container kind type).bareElement? = none) :
    type.bareElement? = none := by
  cases hprimitive : type.isPrimitive with
  | true => exact bareElement?_of_isPrimitive hprimitive
  | false => rwa [bareElement?_container hprimitive] at h

/-- A container is faulty when a primitive occurs anywhere in its elements. -/
theorem isSome_bareElement?_container :
    (container kind type).bareElement?.isSome ↔ ∃ cast, Occurs (.primitive cast) type := by
  induction type generalizing kind with
  | primitive cast => exact iff_of_true rfl ⟨cast, .here⟩
  | container kind' element ih =>
    rw [bareElement?_container rfl, ih]
    exact exists_congr fun cast => (occurs_container_iff (by simp)).symm
  | string | url | date | untyped | model | unresolved =>
    refine iff_of_false (by simp [bareElement?]) ?_
    rintro ⟨cast, h⟩
    cases h

theorem nestsPrimitive_container_iff :
    (container kind type).NestsPrimitive ↔ ∃ cast, Occurs (.primitive cast) type := by
  constructor
  · rintro ⟨kind', element, cast, hcontainer, hcast⟩
    cases hcontainer with
    | here => exact ⟨cast, hcast⟩
    | element h =>
      exact ⟨cast, (Occurs.element hcast).trans h⟩
  · rintro ⟨cast, h⟩
    exact ⟨kind, type, cast, .here, h⟩

/-- The faulty types are those that nest a primitive. -/
theorem isSome_bareElement?_iff : type.bareElement?.isSome ↔ type.NestsPrimitive := by
  cases type with
  | container kind element => rw [isSome_bareElement?_container, nestsPrimitive_container_iff]
  | _ =>
    refine iff_of_false (by simp [bareElement?]) ?_
    rintro ⟨kind, element, cast, h, _⟩
    cases h

theorem needsWork_iff : type.NeedsWork ↔ type.work?.isSome := by
  unfold NeedsWork work?
  cases type.leaf <;> simp

/-- Objects are constructed for a class, and for a reference that leads nowhere. -/
theorem work?_eq_construct_iff {target className : String} :
    type.work? = some (.construct target className) ↔
      type.leaf = .model target className ∨ type.leaf = .unresolved target ∧ className = "" := by
  unfold work?
  cases type.leaf <;> simp [eq_comm]

theorem work?_eq_uriParse_iff : type.work? = some (.formatted .uriParse) ↔ type.leaf = .url := by
  unfold work?
  cases type.leaf <;> simp

theorem work?_eq_dateTime_iff :
    type.work? = some (.formatted .dateTimeTransform) ↔ type.leaf = .date := by
  unfold work?
  cases type.leaf <;> simp

/-- The work inside all containers is not itself work on a container. -/
theorem leaf_of_work? {work : CoercionRule} (h : type.work? = some work) :
    work.leaf = work ∧ work.containers = [] := by
  cases work with
  | elementwise container element =>
    refine absurd h ?_
    unfold work?
    cases type.leaf <;> simp
  | _ => exact ⟨rfl, rfl⟩

theorem coercion_of_fault {fault : ElementFault} (h : type.bareElement? = some fault) :
    type.coercion = .error fault := by
  rw [coercion, h]

/-- Where there is work, each container around it is worked on element by element. -/
theorem coercion_of_work {work : CoercionRule} (h : type.bareElement? = none)
    (hwork : type.work? = some work) :
    type.coercion = .ok (type.containers.foldr .elementwise work) := by
  rw [coercion, h, hwork]

theorem coercion_of_direct (h : type.bareElement? = none) (hwork : type.work? = none) :
    type.coercion = .ok (.direct type.cast?) := by
  rw [coercion, h, hwork]

/-- The types without a rule are those that nest a primitive. -/
theorem coercion_eq_error_iff :
    (∃ fault, type.coercion = .error fault) ↔ type.NestsPrimitive := by
  rw [← isSome_bareElement?_iff]
  cases h : type.bareElement? with
  | some fault => simp [coercion_of_fault h]
  | none => cases hwork : type.work? <;> simp [coercion, h, hwork]

end TargetType

variable {g : Graph} {naming : Naming} {v : Variant}

/-- Scalars are lowered to primitives, and nothing else is. -/
theorem Variant.isPrimitive_ofVariant (g : Graph) (naming : Naming) (v : Variant) :
    (TargetType.ofVariant g naming v).isPrimitive = v.isScalar := by
  cases v with
  | text format => cases format <;> rfl
  | reference target =>
    unfold TargetType.ofVariant TargetType.ofReference
    cases g.target? target <;> rfl
  | _ => rfl

/-- Whether a shape needs work, or is faulty, is seen from its type. -/
theorem Variant.needsTransform_eq (g : Graph) (naming : Naming) (v : Variant) :
    v.needsTransform = match (TargetType.ofVariant g naming v).bareElement? with
      | some fault => .error fault
      | none => .ok (TargetType.ofVariant g naming v).work?.isSome := by
  induction v with
  | scalar | untyped => rfl
  | text format => cases format <;> rfl
  | reference target =>
    unfold TargetType.ofVariant TargetType.ofReference
    cases g.target? target <;> rfl
  | container kind element ih =>
    rw [TargetType.ofVariant]
    cases hscalar : element.isScalar with
    | true =>
      obtain ⟨bare, rfl⟩ : ∃ bare, element = .scalar bare := by
        cases element <;> simp [isScalar] at hscalar ⊢
      rw [TargetType.ofVariant, TargetType.bareElement?, PrimitiveType.scalar_ofScalar]
      rfl
    | false =>
      have htransform :
          (Variant.container kind element).needsTransform = element.needsTransform := by
        cases element <;> first | rfl | simp [isScalar] at hscalar
      have hprimitive := (isPrimitive_ofVariant g naming element).trans hscalar
      rw [htransform, TargetType.bareElement?_container hprimitive]
      exact ih

/-- The rule of a shape is the one that its type calls for. -/
theorem CoercionRule.ofVariant_eq_coercion :
    CoercionRule.ofVariant g naming v = (TargetType.ofVariant g naming v).coercion := by
  induction v with
  | scalar | untyped => rfl
  | text format => cases format <;> rfl
  | reference target =>
    unfold CoercionRule.ofVariant TargetType.ofVariant CoercionRule.ofReference
      TargetType.ofReference
    cases g.target? target <;> rfl
  | container kind element ih =>
    rw [CoercionRule.ofVariant, Variant.needsTransform_eq g naming, ih,
      TargetType.ofVariant]
    generalize TargetType.ofVariant g naming element = type
    cases hbare : (TargetType.container kind type).bareElement? with
    | some fault =>
      rw [TargetType.coercion_of_fault hbare]
      rfl
    | none =>
      have helement := TargetType.bareElement?_element hbare
      have hsame : (TargetType.container kind type).work? = type.work? := rfl
      cases hwork : type.work? with
      | none =>
        rw [TargetType.coercion_of_direct hbare (hsame.trans hwork), hsame, hwork]
        rfl
      | some work =>
        rw [TargetType.coercion_of_work hbare (hsame.trans hwork), hsame, hwork,
          TargetType.coercion_of_work helement hwork]
        rfl

/-- What a rule has in common with a type: the work that is done inside all containers, and the
containers around it. -/
structure CoercionRule.Agrees (rule : CoercionRule) (type : TargetType) : Prop where
  construct : ∀ target className, rule.leaf = .construct target className ↔
    type.leaf = .model target className ∨ type.leaf = .unresolved target ∧ className = ""
  uriParse : rule.leaf = .formatted .uriParse ↔ type.leaf = .url
  dateTime : rule.leaf = .formatted .dateTimeTransform ↔ type.leaf = .date
  containers : type.NeedsWork → rule.containers = type.containers
  direct : ¬type.NeedsWork → ∃ cast, rule = .direct cast

namespace TargetType

variable {type : TargetType} {rule : CoercionRule}

/-- A rule is the work inside all containers, with every container around it, or it is direct. -/
theorem coercion_eq_ok_iff :
    type.coercion = .ok rule ↔ type.bareElement? = none ∧
      rule = (type.work?.map (type.containers.foldr .elementwise)).getD (.direct type.cast?) := by
  cases hbare : type.bareElement? with
  | some fault => simp [coercion_of_fault hbare]
  | none =>
    cases hwork : type.work? with
    | none => simp [coercion_of_direct hbare hwork, eq_comm]
    | some work => simp [coercion_of_work hbare hwork, eq_comm]

theorem leaf_of_coercion (h : type.coercion = .ok rule) :
    rule.leaf = type.work?.getD (.direct type.cast?) := by
  obtain ⟨_, rfl⟩ := coercion_eq_ok_iff.mp h
  cases hwork : type.work? with
  | none => rfl
  | some work => exact (CoercionRule.leaf_foldr _ work).trans (leaf_of_work? hwork).1

theorem agrees_of_coercion (h : type.coercion = .ok rule) : rule.Agrees type := by
  have hleaf := leaf_of_coercion h
  obtain ⟨_, hrule⟩ := coercion_eq_ok_iff.mp h
  refine ⟨fun target className => ?_, ?_, ?_, fun hneeds => ?_, fun hneeds => ?_⟩
  · rw [hleaf, ← work?_eq_construct_iff]
    cases type.work? <;> simp
  · rw [hleaf, ← work?_eq_uriParse_iff]
    cases type.work? <;> simp
  · rw [hleaf, ← work?_eq_dateTime_iff]
    cases type.work? <;> simp
  · obtain ⟨work, hwork⟩ := Option.isSome_iff_exists.mp (needsWork_iff.mp hneeds)
    rw [hrule, hwork, Option.map_some, Option.getD_some, CoercionRule.containers_foldr,
      (leaf_of_work? hwork).2, List.append_nil]
  · rw [needsWork_iff, Option.not_isSome_iff_eq_none] at hneeds
    rw [hneeds] at hrule
    exact ⟨_, hrule⟩

end TargetType

end EntityModels
