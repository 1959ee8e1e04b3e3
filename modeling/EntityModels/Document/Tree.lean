import EntityModels.Document.Entry

/-!
Decoding a schema document from a JSON value. Faults carry the path to the value, and no place.
-/
namespace EntityModels

/-- The outcome of decoding a value, with the path of a fault. -/
abbrev Decoded (α : Type) := Except Fault α

namespace Decoded

variable {α : Type}

def ofExcept : Except DataFault α → Decoded α
  | .ok a => .ok a
  | .error fault => .error ⟨.data fault, none, []⟩

def fail (fault : DataFault) : Decoded α := ofExcept (.error fault)

/-- The outcome for a part of a value. -/
def within (pathStep : PathStep) (decoded : Decoded α) : Decoded α :=
  decoded.mapError (Fault.under pathStep)

/-- Decodes the items of a list, `index` of which stand before. -/
def items (item : Json → Decoded α) : (index : Nat) → List Json → Decoded (List α)
  | _, [] => .ok []
  | index, value :: rest => do
    let x ← within (.index index) (item value)
    return x :: (← items item (index + 1) rest)

def list (item : Json → Decoded α) : Json → Decoded (List α)
  | .array values => items item 0 values
  | other => fail (.wrongType other.found "a sequence")

/-- Fails when a list form has more items than members. -/
def atMost (members : Nat) (values : List Json) : Decoded Unit :=
  if members < values.length then fail (.wrongLength values.length "fewer elements in array")
  else .ok ()

/-- Decodes a member that occurs once. -/
def once (name : String) (current : Option α) (decoded : Decoded α) : Decoded (Option α) :=
  if current.isSome then fail (.duplicateField name)
  else some <$> within (.key name) decoded

/-- Decodes the item at an index of a list form, if it is there. -/
def item? (values : List Json) (index : Nat) (item : Json → Decoded α) : Decoded (Option α) :=
  match values[index]? with
  | none => .ok none
  | some value => some <$> within (.index index) (item value)

end Decoded

open Decoded

def optionalText (value : Json) : Decoded (Option String) := .ofExcept (decodeOptionalText value)

def requiredText (value : Json) : Decoded String := .ofExcept (decodeText value)

/-- Decodes what undeclared keys may hold; null is absent. -/
def optionalAdditional (value : Json) : Decoded (Option Additional) :=
  .ofExcept (NodeFields.optional value (Additional.ofJson? value))

def PropertyFields.put (fields : PropertyFields) (member : String × Json) :
    Decoded PropertyFields := do
  let (name, value) := member
  if name = "name" then
    return { fields with name := ← once name fields.name (requiredText value) }
  else if name = "description" then
    return { fields with description := ← once name fields.description (optionalText value) }
  else return { fields with others := member :: fields.others }

def PropertyEntry.ofJson? : Json → Decoded PropertyEntry
  | .object members => do
    let fields ← members.foldlM PropertyFields.put {}
    .ofExcept fields.entry
  | other => fail (.wrongType other.found propertyForm)

def EntityFields.put (fields : EntityFields) (member : String × Json) : Decoded EntityFields := do
  let (name, value) := member
  if name = "name" then
    return { fields with name := ← once name fields.name (requiredText value) }
  else if name = "parent" then
    return { fields with parent := ← once name fields.parent (optionalText value) }
  else if name = "description" then
    return { fields with description := ← once name fields.description (optionalText value) }
  else if name = "properties" then
    return { fields with
      properties := ← once name fields.properties (list PropertyEntry.ofJson? value) }
  else if name = "additionalProperties" then
    return { fields with additional := ← once name fields.additional (optionalAdditional value) }
  else return fields

def EntityEntry.ofJson? : Json → Decoded EntityEntry
  | .object members => do
    let fields ← members.foldlM EntityFields.put {}
    .ofExcept fields.entry
  | .array values => do
    let some name ← item? values 0 requiredText | fail (.wrongLength 0 entityListForm)
    let parent ← item? values 1 optionalText
    let description ← item? values 2 optionalText
    let properties ← item? values 3 (list PropertyEntry.ofJson?)
    let additional ← item? values 4 optionalAdditional
    atMost 5 values
    return ⟨name, parent.join, description.join, properties.getD [], additional.join⟩
  | other => fail (.wrongType other.found entityForm)

def putEntities (entities : Option (List EntityEntry)) (member : String × Json) :
    Decoded (Option (List EntityEntry)) :=
  if member.1 = "entities" then once member.1 entities (list EntityEntry.ofJson? member.2)
  else return entities

def entriesOfJson? : Json → Decoded (List EntityEntry)
  | .object members => do
    let some entities ← members.foldlM putEntities none | fail (.missingField "entities")
    return entities
  | .array values => do
    let some entities ← item? values 0 (list EntityEntry.ofJson?)
      | fail (.wrongLength 0 documentListForm)
    atMost 1 values
    return entities
  | other => fail (.wrongType other.found documentForm)

end EntityModels
