import EntityModels.Proofs.Graph.Ancestry
import EntityModels.Proofs.Graph.References
import EntityModels.Target.Coercion

/-!
Class names under a prefix, in types and in coercion rules. A class gets the prefix in front of its
name, and nothing else of a type or a rule changes. The construction of a reference that does not
resolve has no class, so it gets no prefix.
-/
namespace EntityModels

variable {g : Graph} {front : String}

/-- The prefix stands in front of the class that the entity has without one. -/
theorem Naming.className_prefixed (front entity : String) :
    className ⟨some front⟩ entity = front ++ className {} entity := by
  simp [className]

namespace TargetType

variable {type : TargetType} {v : Variant}

/-- The type with a prefix in front of its class. -/
def prefixed (front : String) : TargetType → TargetType
  | .container kind element => .container kind (element.prefixed front)
  | .model entity className => .model entity (front ++ className)
  | type => type

@[simp] theorem isPointer_prefixed : (type.prefixed front).isPointer = type.isPointer := by
  cases type <;> rfl

@[simp] theorem ownership_prefixed : (type.prefixed front).ownership = type.ownership := by
  cases type <;> rfl

@[simp] theorem leaf_prefixed : (type.prefixed front).leaf = type.leaf.prefixed front := by
  induction type with
  | container kind element ih => exact ih
  | _ => rfl

@[simp] theorem classNames_prefixed :
    (type.prefixed front).classNames = type.classNames.map (front ++ ·) := by
  rw [classNames, classNames, leaf_prefixed]
  cases type.leaf <;> rfl

/-- A target that does not resolve keeps its spelling. -/
@[simp] theorem unresolvedTargets_prefixed :
    (type.prefixed front).unresolvedTargets = type.unresolvedTargets := by
  rw [unresolvedTargets, unresolvedTargets, leaf_prefixed]
  cases type.leaf <;> rfl

/-- A shape is lowered to the prefixed type. -/
theorem ofVariant_prefixed :
    ofVariant g ⟨some front⟩ v = (ofVariant g {} v).prefixed front := by
  induction v with
  | scalar | untyped => rfl
  | text format => cases format <;> rfl
  | container kind element ih => rw [ofVariant, ofVariant, ih, prefixed]
  | reference target =>
    rw [ofVariant, ofVariant, ofReference, ofReference]
    cases g.target? target with
    | none => rfl
    | some e => exact congrArg (model e.name) (Naming.className_prefixed front e.name)

end TargetType

namespace CoercionRule

variable {v : Variant}

/-- The rule with a prefix in front of the class that it constructs, if its target is in the
graph. -/
def prefixed (g : Graph) (front : String) : CoercionRule → CoercionRule
  | .construct target className =>
    .construct target (if (g.target? target).isSome then front ++ className else className)
  | .elementwise kind element => .elementwise kind (element.prefixed g front)
  | rule => rule

/-- A rule has the name of the entity in place of the reference, and that resolves as well. -/
theorem ofReference_prefixed (reference : String) :
    ofReference g ⟨some front⟩ reference = (ofReference g {} reference).prefixed g front := by
  unfold ofReference
  cases htarget : g.target? reference with
  | none => simp [prefixed, htarget]
  | some e =>
    have hname := Graph.target?_name (Graph.target?_mem htarget)
    simp [prefixed, hname, Naming.className_prefixed]

/-- Whether there is work to do is seen without a class, so a prefix changes only what is
constructed. -/
theorem ofVariant_prefixed :
    ofVariant g ⟨some front⟩ v = (ofVariant g {} v).map (prefixed g front) := by
  induction v with
  | scalar | untyped => rfl
  | text format => cases format <;> rfl
  | reference target => exact congrArg Except.ok (ofReference_prefixed target)
  | container kind element ih =>
    rw [ofVariant, ofVariant, ih]
    rcases (Variant.container kind element).needsTransform with fault | _ | _
    · rfl
    · rfl
    · cases ofVariant g {} element <;> rfl

end CoercionRule

end EntityModels
