import EntityModels.Model.Fault
import EntityModels.Record

/-!
The description of a generated model: its class and builder, its own properties with their types and
coercion rules, and the shape of its undeclared keys.
-/
namespace EntityModels

/-- The class from which another one inherits. -/
structure ParentLink where
  entity : String
  className : String
  builderClassName : String
deriving DecidableEq, Repr

/-- The notification after initialization. The root of a hierarchy declares it, its descendants
refer to the root's declaration. -/
structure Hook where
  protocolName : String
  selector : String
  declaredHere : Bool
deriving DecidableEq, Repr

/-- The description of a class. `ownProperties` are the declared properties whose names no ancestor
declares; `dirtyBits` numbers them. -/
structure ModelClass where
  entity : String
  className : String
  builderClassName : String
  dirtyPropertiesName : String
  fileName : String
  description : Option String
  isRoot : Bool
  parent : Option ParentLink
  ownProperties : List Property
  forwardReferences : List String
  dirtyBits : Record Nat
  hook : Hook
  propertyNames : List String
  arrayPropertyNames : List String
  dictionaryPropertyNames : List String

inductive Atomicity where
  | atomic
  | nonAtomic
deriving DecidableEq, Repr

inductive Mutability where
  | readOnly
  | readWrite
deriving DecidableEq, Repr

/-- How a field is declared: on the model and on its builder. -/
structure Declaration where
  atomicity : Atomicity
  ownership : Ownership
  model : Mutability
  builder : Mutability
  isPointer : Bool
deriving DecidableEq, Repr

structure PropertyModel where
  name : String
  propertyName : String
  description : Option String
  type : TargetType
  typeName : String
  ownership : Ownership
  coercion : CoercionRule
  dirtyBit : Nat
  dirtyOptionName : String
  declaration : Declaration
deriving DecidableEq, Repr

/-- The description of the values under undeclared keys, taken together as a map. -/
structure ValueModel where
  type : TargetType
  typeName : String
  ownership : Ownership
  coercion : CoercionRule
deriving DecidableEq, Repr

structure Model where
  modelClass : ModelClass
  properties : List PropertyModel
  additional : Option ValueModel
  diagnostics : List Diagnostic

def Model.entity (m : Model) : String := m.modelClass.entity

end EntityModels
