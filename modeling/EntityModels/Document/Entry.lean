import EntityModels.Document.Content
import EntityModels.Schema.Entity

/-!
The entries of a schema document, and the entities that they declare. An entry is an object, in
which members of other names are ignored, or the list of its members.
-/
namespace EntityModels

structure PropertyEntry where
  name : String
  description : Option String
  node : Node

structure EntityEntry where
  name : String
  parent : Option String
  description : Option String
  properties : List PropertyEntry
  additional : Option Additional

def PropertyEntry.toProperty (entity : String) (p : PropertyEntry) :
    Except NodeFault Property :=
  return ⟨p.name, ← p.node.toVariant (entity ++ "." ++ p.name), p.description⟩

def EntityEntry.toEntity (e : EntityEntry) : Except NodeFault Entity := do
  let properties ← e.properties.mapM (·.toProperty e.name)
  let additional ←
    match e.additional.bind Additional.node? with
    | none => pure none
    | some node => some <$> node.toVariant (e.name ++ ".additionalProperties")
  return {
    name := e.name, parent := e.parent, description := e.description, properties, additional }

/-- The members of a property entry that have been read so far. `others` holds those that belong to
its node, the last one first. -/
structure PropertyFields where
  name : Option String := none
  description : Option (Option String) := none
  others : List (String × Json) := []

def PropertyFields.entry (fields : PropertyFields) : Except DataFault PropertyEntry := do
  let some name := fields.name | throw (.missingField "name")
  let node ← Node.decodeMembers {} fields.others.reverse
  return ⟨name, fields.description.join, node.node⟩

structure EntityFields where
  name : Option String := none
  parent : Option (Option String) := none
  description : Option (Option String) := none
  properties : Option (List PropertyEntry) := none
  additional : Option (Option Additional) := none

def EntityFields.entry (fields : EntityFields) : Except DataFault EntityEntry := do
  let some name := fields.name | throw (.missingField "name")
  return {
    name
    parent := fields.parent.join
    description := fields.description.join
    properties := fields.properties.getD []
    additional := fields.additional.join }

def documentForm : String := "struct RawDocument"

def entityForm : String := "struct RawEntity"

def propertyForm : String := "struct RawProperty"

/-- What is missing in an empty list in place of a document. -/
def documentListForm : String := "struct RawDocument with 1 element"

/-- What is missing in an empty list in place of an entity entry. -/
def entityListForm : String := "struct RawEntity with 5 elements"

end EntityModels
