import EntityModels.Document.Node
import EntityModels.Schema.Encoding

/-!
Decoding nodes from JSON values. A node is an object, in which members of other names are ignored,
or the list of its members in a fixed order, in which the last ones may be missing.
-/
namespace EntityModels

/-- The members of a node that have been decoded so far. -/
structure NodeFields where
  type : Option (Option String) := none
  format : Option (Option String) := none
  items : Option (Option Node) := none
  additional : Option (Option Additional) := none
  reference : Option (Option String) := none

namespace NodeFields

/-- The names of the members of a node, in the order of the list form. -/
def names : List String := ["type", "format", "items", "additionalProperties", "$ref"]

/-- Gives a member a value that it must not have yet. -/
def once {α : Type} (name : String) (current : Option α) (decoded : Except DataFault α) :
    Except DataFault (Option α) :=
  if current.isSome then .error (.duplicateField name) else some <$> decoded

/-- What the undeclared keys may hold, given the value and the value read as a node. -/
def additionalOf (value : Json) (node : Except DataFault Node) : Except DataFault Additional :=
  match value with
  | .bool allowed => .ok (.flag allowed)
  | _ =>
    match node with
    | .ok node => .ok (.shape node)
    | .error _ => .error (.noVariant "RawAdditional")

/-- Null is absent. -/
def optional {α : Type} (value : Json) (decoded : Except DataFault α) :
    Except DataFault (Option α) :=
  match value with
  | .null => .ok none
  | _ => some <$> decoded

/-- Decodes one member. `node` is its value read as a node. -/
def put (fields : NodeFields) (name : String) (value : Json) (node : Except DataFault Node) :
    Except DataFault NodeFields := do
  if name = "type" then
    return { fields with type := ← once name fields.type (decodeOptionalText value) }
  else if name = "format" then
    return { fields with format := ← once name fields.format (decodeOptionalText value) }
  else if name = "items" then
    return { fields with items := ← once name fields.items (optional value node) }
  else if name = "additionalProperties" then
    return { fields with
      additional := ← once name fields.additional (optional value (additionalOf value node)) }
  else if name = "$ref" then
    return { fields with reference := ← once name fields.reference (decodeOptionalText value) }
  else return fields

def node (fields : NodeFields) : Node :=
  .mk fields.type.join fields.format.join fields.items.join fields.additional.join
    fields.reference.join

end NodeFields

mutual

def Node.ofJson? : Json → Except DataFault Node
  | .object members => NodeFields.node <$> Node.decodeMembers {} members
  | .array items => NodeFields.node <$> Node.decodeItems items.length NodeFields.names {} items
  | other => .error (.wrongType other.found "struct RawNode")

def Node.decodeMembers (fields : NodeFields) :
    List (String × Json) → Except DataFault NodeFields
  | [] => .ok fields
  | (name, value) :: rest => do
    Node.decodeMembers (← fields.put name value (Node.ofJson? value)) rest

/-- Decodes the members of a list of the given length, by position. -/
def Node.decodeItems (length : Nat) (names : List String) (fields : NodeFields) :
    List Json → Except DataFault NodeFields
  | [] => .ok fields
  | value :: rest =>
    match names with
    | [] => .error (.wrongLength length "5 elements in sequence")
    | name :: names => do
      Node.decodeItems length names (← fields.put name value (Node.ofJson? value)) rest

end

def Additional.ofJson? (value : Json) : Except DataFault Additional :=
  NodeFields.additionalOf value (Node.ofJson? value)

end EntityModels
