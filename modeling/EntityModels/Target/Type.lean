import EntityModels.Schema.Graph

/-!
The types of the generated code: how they are spelled, who owns their values, and the type to which
a shape is lowered.
-/
namespace EntityModels

/-- The types that are not objects. -/
inductive PrimitiveType where
  | boolean
  | integer
  | float
deriving DecidableEq, Repr, Inhabited

def PrimitiveType.ofScalar : ScalarKind → PrimitiveType
  | .boolean => .boolean
  | .integer => .integer
  | .number => .float

def PrimitiveType.spelling : PrimitiveType → String
  | .boolean => "BOOL"
  | .integer => "NSInteger"
  | .float => "CGFloat"

/-- How a generated field holds its value. -/
inductive Ownership where
  | copy
  | strong
  | assign
deriving DecidableEq, Repr, Inhabited

/-- The type of a generated field. A reference that does not resolve has a type without a name. -/
inductive TargetType where
  | primitive (type : PrimitiveType)
  | string
  | url
  | date
  | untyped (container : ContainerKind)
  | container (kind : ContainerKind) (element : TargetType)
  | model (entity className : String)
  | unresolved (target : String)
deriving DecidableEq, Repr, Inhabited

namespace TargetType

def isPrimitive : TargetType → Bool
  | .primitive _ => true
  | _ => false

/-- Whether fields of the type are declared through a pointer. -/
def isPointer (t : TargetType) : Bool := !t.isPrimitive

def ownership : TargetType → Ownership
  | .primitive _ => .assign
  | .string | .url | .date => .copy
  | .untyped _ | .container _ _ | .model _ _ | .unresolved _ => .strong

/-- The type inside all containers. A container without a declared element is its own. -/
def leaf : TargetType → TargetType
  | .container _ element => element.leaf
  | t => t

/-- The class that the type mentions, if there is one. -/
def classNames (t : TargetType) : List String :=
  match t.leaf with
  | .model _ className => [className]
  | _ => []

/-- The target of the unresolved reference in the type, if there is one. -/
def unresolvedTargets (t : TargetType) : List String :=
  match t.leaf with
  | .unresolved target => [target]
  | _ => []

/-- Whether the type mentions a reference that does not resolve. -/
def isUnresolved (t : TargetType) : Bool := !t.unresolvedTargets.isEmpty

/-- How the type is spelled, without the star of a pointer. -/
def spelling : TargetType → String
  | .primitive type => type.spelling
  | .string => "NSString"
  | .url => "NSURL"
  | .date => "NSDate"
  | .untyped .array => "NSArray"
  | .untyped .map => "NSDictionary"
  | .container .array element => "NSArray<" ++ element.spelling ++ " *>"
  | .container .map element => "NSDictionary<NSString *, " ++ element.spelling ++ " *>"
  | .model _ className => className
  | .unresolved _ => ""

def ofReference (g : Graph) (naming : Naming) (reference : String) : TargetType :=
  match g.target? reference with
  | some entity => .model entity.name (naming.className entity.name)
  | none => .unresolved reference

def ofFormat : TextFormat → TargetType
  | .plain => .string
  | .uri => .url
  | .dateTime => .date

def ofVariant (g : Graph) (naming : Naming) : Variant → TargetType
  | .scalar kind => .primitive (.ofScalar kind)
  | .text format => ofFormat format
  | .untyped kind => .untyped kind
  | .container kind element => .container kind (ofVariant g naming element)
  | .reference target => ofReference g naming target

end TargetType

end EntityModels
