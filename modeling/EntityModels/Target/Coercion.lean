import EntityModels.Target.Type

/-!
Coercion rules: how the value of a property is taken out of an untyped input value. A container is
worked on element by element only when what is inside all containers needs work.
-/
namespace EntityModels

/-- A text that is turned into an object. -/
inductive FormatTransform where
  | uriParse
  | dateTimeTransform
deriving DecidableEq, Repr, Inhabited

/-- How a value is taken over. `direct` takes it as it is, a scalar with a cast; `construct` builds
the model of a reference, with an empty class name when it does not resolve. -/
inductive CoercionRule where
  | direct (cast : Option PrimitiveType)
  | formatted (transform : FormatTransform)
  | construct (target className : String)
  | elementwise (container : ContainerKind) (element : CoercionRule)
deriving DecidableEq, Repr, Inhabited

/-- A scalar that is the direct element of a container. -/
structure ElementFault where
  container : ContainerKind
  scalar : ScalarKind
deriving DecidableEq, Repr

namespace ElementFault

def containerName : ContainerKind → String
  | .array => "Array"
  | .map => "Map"

def scalarName : ScalarKind → String
  | .boolean => "Boolean"
  | .integer => "Integer"
  | .number => "Number"

def message (fault : ElementFault) : String :=
  containerName fault.container ++ " element is a bare " ++ scalarName fault.scalar ++ " scalar"

end ElementFault

/-- Whether what is inside all containers needs work. A scalar right inside a container is a
fault. -/
def Variant.needsTransform : Variant → Except ElementFault Bool
  | .scalar _ => .ok false
  | .text format => .ok (format ≠ .plain)
  | .untyped _ => .ok false
  | .container kind (.scalar bare) => .error ⟨kind, bare⟩
  | .container _ element => element.needsTransform
  | .reference _ => .ok true

namespace CoercionRule

def isDirect : CoercionRule → Bool
  | .direct _ => true
  | _ => false

def ofFormat : TextFormat → CoercionRule
  | .plain => .direct none
  | .uri => .formatted .uriParse
  | .dateTime => .formatted .dateTimeTransform

def ofReference (g : Graph) (naming : Naming) (reference : String) : CoercionRule :=
  match g.target? reference with
  | some entity => .construct entity.name (naming.className entity.name)
  | none => .construct reference ""

def ofVariant (g : Graph) (naming : Naming) : Variant → Except ElementFault CoercionRule
  | .scalar kind => .ok (.direct (some (.ofScalar kind)))
  | .text format => .ok (ofFormat format)
  | .untyped _ => .ok (.direct none)
  | .container kind element => do
    if ← (Variant.container kind element).needsTransform then
      return .elementwise kind (← ofVariant g naming element)
    else return .direct none
  | .reference target => .ok (ofReference g naming target)

end CoercionRule

end EntityModels
