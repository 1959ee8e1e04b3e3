import EntityModels.Naming.Words

/-!
The names that the compiler generates: of classes from entity names, of properties from property
names, and the names that go with a class.
-/
namespace EntityModels

/-- How classes are named: with a prefix in front of every class name, or without one. -/
structure Naming where
  classPrefix : Option String := none
deriving DecidableEq, Repr, Inhabited

namespace Naming

/-- The class of an entity: the prefix, then the entity's name in Pascal case. -/
def className (naming : Naming) (entity : String) : String :=
  naming.classPrefix.getD "" ++ pascalCase entity

def propertyName (source : String) : String := camelCase source

def builderClassName (className : String) : String := className ++ "Builder"

def dirtyPropertiesName (className : String) : String := className ++ "DirtyProperties"

/-- The flag of one property in the record of dirty flags. -/
def dirtyOptionName (className property : String) : String :=
  className ++ "DirtyProperty" ++ pascalCase property

/-- The protocol of the hook that a root class declares. -/
def protocolName (className : String) : String := className ++ "Protocol"

/-- The selector of the hook that a root class declares. -/
def initializeSelector (className : String) : String := className ++ "DidInitialize:"

def headerFileName (className : String) : String := className ++ ".h"

end Naming

end EntityModels
