/-!
The shapes that a property can have: a scalar, a text, a reference to an entity, or a container of
any of these. A container whose elements have no declared shape is `untyped`.
-/
namespace EntityModels

inductive ScalarKind where
  | boolean
  | integer
  | number
deriving DecidableEq, Repr, Inhabited

inductive TextFormat where
  | plain
  | uri
  | dateTime
deriving DecidableEq, Repr, Inhabited

inductive ContainerKind where
  | array
  | map
deriving DecidableEq, Repr, Inhabited

inductive Variant where
  | scalar (kind : ScalarKind)
  | text (format : TextFormat)
  | untyped (container : ContainerKind)
  | container (kind : ContainerKind) (element : Variant)
  | reference (target : String)
deriving DecidableEq, Repr, Inhabited

namespace Variant

/-- A container of elements of a shape, or of any elements. -/
def ofElement (kind : ContainerKind) : Option Variant → Variant
  | none => .untyped kind
  | some element => .container kind element

def isScalar : Variant → Bool
  | .scalar _ => true
  | _ => false

/-- The kind of a container and the shape of its elements, if it is declared. -/
def container? : Variant → Option (ContainerKind × Option Variant)
  | .untyped kind => some (kind, none)
  | .container kind element => some (kind, some element)
  | _ => none

def containerKind? (v : Variant) : Option ContainerKind := v.container?.map (·.1)

/-- The target of the reference inside the containers, if there is one. -/
def target? : Variant → Option String
  | .reference target => some target
  | .container _ element => element.target?
  | _ => none

end Variant

structure Property where
  name : String
  variant : Variant
  description : Option String := none
deriving DecidableEq, Repr, Inhabited

end EntityModels
