import EntityModels.Naming.Generated
import EntityModels.Naming.Identifier
import EntityModels.Schema.Entity
import EntityModels.Schema.Reference

/-!
Graphs of entities whose names have been checked.

`NameFault.first?` finds the first fault of a list of entities, in the order of the list, and a
`Graph` is a list without one. References and parents are looked up only when something follows
them.
-/
namespace EntityModels

/-- What is wrong with the names of a list of entities. -/
inductive NameFault where
  | invalidIdentifier (name site : String)
  | duplicateEntity (entity : String)
  | duplicateProperty (entity property : String)
  | propertyCollision (entity first second name : String)
  | classCollision (first second className : String)
deriving DecidableEq, Repr

namespace NameFault

def message : NameFault → String
  | .invalidIdentifier name site => "`" ++ name ++ "` is not a valid identifier (" ++ site ++ ")"
  | .duplicateEntity entity => "entity `" ++ entity ++ "` is declared more than once"
  | .duplicateProperty entity property =>
    "entity `" ++ entity ++ "` declares property `" ++ property ++ "` more than once"
  | .propertyCollision entity first second name =>
    "entity `" ++ entity ++ "`: properties `" ++ first ++ "` and `" ++ second ++
      "` both become `" ++ name ++ "`"
  | .classCollision first second className =>
    "entities `" ++ first ++ "` and `" ++ second ++ "` both become class `" ++ className ++ "`"

/-- A declared name together with the name that is generated from it. -/
structure Declared where
  name : String
  generated : String
deriving DecidableEq, Repr

/-- A property and its generated identifier. -/
def declaredProperty (name : String) : Declared := ⟨name, Naming.propertyName name⟩

/-- An entity and its class without a prefix. -/
def declaredEntity (name : String) : Declared :=
  -- all classes share the prefix, so they collide under every prefix when they do without one
  ⟨name, Naming.className {} name⟩

/-- The fault of a property after the properties `earlier`: no identifier, declared before, or the
generated identifier of an earlier property. -/
def ofProperty? (entity : String) (earlier : List Declared) (p : Declared) : Option NameFault :=
  if !Naming.isIdentifier p.name then
    some (.invalidIdentifier p.name ("property of `" ++ entity ++ "`"))
  else if earlier.any (·.name = p.name) then some (.duplicateProperty entity p.name)
  else (earlier.find? (·.generated = p.generated)).map fun first =>
    .propertyCollision entity first.name p.name p.generated

/-- The first fault of properties after the properties `earlier`. -/
def ofProperties? (entity : String) (earlier : List Declared) :
    List Declared → Option NameFault
  | [] => none
  | p :: rest =>
    (ofProperty? entity earlier p).or (ofProperties? entity (earlier ++ [p]) rest)

/-- The fault of an entity after the entities `earlier`: no identifier, a fault of its properties,
declared before, or the class of an earlier entity. -/
def ofEntity? (earlier : List Declared) (entity : Entity) : Option NameFault :=
  if !Naming.isIdentifier entity.name then
    some (.invalidIdentifier entity.name "entity name")
  else
    (ofProperties? entity.name [] (entity.declaredNames.map declaredProperty)).or <|
      if earlier.any (·.name = entity.name) then some (.duplicateEntity entity.name)
      else
        let generated := (declaredEntity entity.name).generated
        (earlier.find? (·.generated = generated)).map fun first =>
          .classCollision first.name entity.name generated

/-- The first fault of entities after the entities `earlier`. -/
def ofEntities? (earlier : List Declared) : List Entity → Option NameFault
  | [] => none
  | entity :: rest =>
    (ofEntity? earlier entity).or (ofEntities? (earlier ++ [declaredEntity entity.name]) rest)

/-- The first fault of a list of entities. -/
def first? (entities : List Entity) : Option NameFault := ofEntities? [] entities

end NameFault

/-- The entities of one run in the order of their declaration, with no fault in their names. -/
structure Graph where
  entities : List Entity
  sound : NameFault.first? entities = none

/-- A reference whose target is not in the graph. -/
structure Unresolved where
  reference : String
deriving DecidableEq, Repr

def Unresolved.message (u : Unresolved) : String :=
  "reference `" ++ u.reference ++ "` does not resolve"

namespace Graph

/-- The graph of a list of entities, or the first fault of their names. -/
def ofEntities? (entities : List Entity) : Except NameFault Graph :=
  match h : NameFault.first? entities with
  | none => .ok ⟨entities, h⟩
  | some fault => .error fault

def size (g : Graph) : Nat := g.entities.length

def names (g : Graph) : List String := g.entities.map (·.name)

/-- The entity of exactly that name. -/
def get? (g : Graph) (name : String) : Option Entity := g.entities.find? (·.name = name)

/-- The entity to which a reference points, if it is in the graph. -/
def target? (g : Graph) (reference : String) : Option Entity := g.get? (Reference.key reference)

def resolve (g : Graph) (reference : String) : Except Unresolved Entity :=
  match g.target? reference with
  | some entity => .ok entity
  | none => .error ⟨reference⟩

end Graph

end EntityModels
