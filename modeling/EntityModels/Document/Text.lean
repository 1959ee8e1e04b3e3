import EntityModels.Document.Entry
import EntityModels.Json.Reader

/-!
Reading a schema document straight off a text. Members that a document or an entity entry does not
have are skipped without building a value; those of a property entry are kept until its end and
decoded as its node.
-/
namespace EntityModels

open Reader

/-- Reads the colon and the value of a member that occurs once. -/
def readOnce {α : Type} (name : String) (current : Option α) (reader : Reader α) :
    Reader (Option α) := do
  if current.isSome then failData (.duplicateField name)
  readColon
  return some (← within (.key name) reader)

/-- Skips the colon and the value of a member. -/
def skipMember (name : String) : Reader Unit := do
  readColon
  within (.key name) skipValue

def readSequence {α : Type} (item : Nat → Reader α) (levels : Nat) : Reader (List α) :=
  readEither "a sequence" levels
    (some fun levels => do readItems (item levels) (← loopBound) 0) none

/-- Reads what undeclared keys may hold; null is absent. -/
def readAdditional (levels : Nat) : Reader (Option Additional) :=
  readOptional do ofExcept (Additional.ofJson? (← readValue levels))

def readPropertyMember (levels : Nat) (fields : PropertyFields) (name : String) :
    Reader PropertyFields := do
  if name = "name" then
    return { fields with name := ← readOnce name fields.name readText }
  else if name = "description" then
    return { fields with
      description := ← readOnce name fields.description (readOptional readText) }
  else return { fields with others := ← consMember (readValue levels) fields.others name }

def readProperty (levels : Nat) : Reader PropertyEntry :=
  readEither propertyForm levels none <| some fun levels => do
    let fields ← readMembers (readPropertyMember levels) (← loopBound) true {}
    ofExcept fields.entry

def readEntityMember (levels : Nat) (fields : EntityFields) (name : String) :
    Reader EntityFields := do
  if name = "name" then
    return { fields with name := ← readOnce name fields.name readText }
  else if name = "parent" then
    return { fields with parent := ← readOnce name fields.parent (readOptional readText) }
  else if name = "description" then
    return { fields with
      description := ← readOnce name fields.description (readOptional readText) }
  else if name = "properties" then
    return { fields with
      properties := ← readOnce name fields.properties (readSequence readProperty levels) }
  else if name = "additionalProperties" then
    return { fields with
      additional := ← readOnce name fields.additional (readAdditional levels) }
  else
    skipMember name
    return fields

def readEntity (levels : Nat) : Reader EntityEntry :=
  readEither entityForm levels (some list) (some object)
where
  object (levels : Nat) : Reader EntityEntry := do
    let fields ← readMembers (readEntityMember levels) (← loopBound) true {}
    ofExcept fields.entry
  list (levels : Nat) : Reader EntityEntry := do
    let some name ← readItem? readText 0 | failData (.wrongLength 0 entityListForm)
    let parent ← readItem? (readOptional readText) 1
    let description ← readItem? (readOptional readText) 2
    let properties ← readItem? (readSequence readProperty levels) 3
    let additional ← readItem? (readAdditional levels) 4
    return ⟨name, parent.join, description.join, properties.getD [], additional.join⟩

def readDocumentMember (levels : Nat) (entities : Option (List EntityEntry)) (name : String) :
    Reader (Option (List EntityEntry)) := do
  if name = "entities" then readOnce name entities (readSequence readEntity levels)
  else
    skipMember name
    return entities

def readEntries (levels : Nat) : Reader (List EntityEntry) :=
  readEither documentForm levels (some list) (some object)
where
  object (levels : Nat) : Reader (List EntityEntry) := do
    let some entities ← readMembers (readDocumentMember levels) (← loopBound) true none
      | failData (.missingField "entities")
    return entities
  list (levels : Nat) : Reader (List EntityEntry) := do
    let some entities ← readItem? (readSequence readEntity levels) 0
      | failData (.wrongLength 0 documentListForm)
    return entities

/-- The entries of the document at the start of a text. -/
def entriesOfText? (text : String) : Except Fault (List EntityEntry) :=
  (readEntries depthLimit).run text

end EntityModels
