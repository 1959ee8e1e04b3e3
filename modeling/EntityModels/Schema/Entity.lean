import EntityModels.Schema.Variant

/-!
Entities: named schema nodes with properties, and possibly a parent.
-/
namespace EntityModels

/-- A named schema node. `parent` refers to another entity, as a reference in a property does;
`additional` is the shape of the values under undeclared keys. -/
structure Entity where
  name : String
  parent : Option String := none
  description : Option String := none
  properties : List Property := []
  additional : Option Variant := none
deriving DecidableEq, Repr, Inhabited

namespace Entity

def isRoot (e : Entity) : Bool := e.parent.isNone

def declaredNames (e : Entity) : List String := e.properties.map (·.name)

end Entity

end EntityModels
