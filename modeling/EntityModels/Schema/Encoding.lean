import EntityModels.Json.Fault
import EntityModels.Schema.Variant

/-!
The JSON form of shapes and properties.

A shape is an object whose member `kind` says which it is, at any position, or a list that begins
with it. Members of other names are ignored. In a shape that stands inside another one the kind may
also be given by its number.
-/
namespace EntityModels

def ScalarKind.jsonName : ScalarKind → String
  | .boolean => "boolean"
  | .integer => "integer"
  | .number => "number"

def TextFormat.jsonName : TextFormat → String
  | .plain => "plain"
  | .uri => "uri"
  | .dateTime => "dateTime"

def ContainerKind.jsonName : ContainerKind → String
  | .array => "array"
  | .map => "map"

/-- The member that holds the shape of a container's elements. -/
def ContainerKind.elementField : ContainerKind → String
  | .array => "element"
  | .map => "value"

namespace Json

/-- An object without the members that are absent. -/
def objectOf (members : List (Option (String × Json))) : Json := .object (members.filterMap id)

def field (name : String) (value : Json) : Option (String × Json) := some (name, value)

/-- A member that is left out when it has no value. -/
def optionalField (name : String) (text : Option String) : Option (String × Json) :=
  text.map fun text => (name, .string text)

end Json

def Variant.toJson : Variant → Json
  | .scalar kind => .object [("kind", .string "scalar"), ("scalar", .string kind.jsonName)]
  | .text format => .object [("kind", .string "text"), ("format", .string format.jsonName)]
  | .untyped kind => .object [("kind", .string kind.jsonName), (kind.elementField, .null)]
  | .container kind element =>
    .object [("kind", .string kind.jsonName), (kind.elementField, element.toJson)]
  | .reference target => .object [("kind", .string "reference"), ("target", .string target)]

/-- The JSON form of a property. A description that is absent is left out. -/
def Property.toJson (p : Property) : Json :=
  .objectOf [Json.field "name" (.string p.name), Json.field "variant" p.variant.toJson,
    Json.optionalField "description" p.description]

/-- A choice among names: the value of a name, or the fault of a name that is not among them. -/
def chooseNamed {α : Type} (choices : List (String × α)) (name : String) : Except DataFault α :=
  match choices.find? fun choice => choice.1 = name with
  | some choice => .ok choice.2
  | none => .error (.unknownVariant name (choices.map (·.1)))

/-- Decodes a choice without content: its name, or an object with the name as its only key and null
as the value. `emptyIsNull` says whether an empty object may stand for null there. -/
def decodeChoice {α : Type} (emptyIsNull : Bool) (choices : List (String × α)) :
    Json → Except DataFault α
  | .string name => chooseNamed choices name
  | .object [(name, value)] => do
    let choice ← chooseNamed choices name
    match value with
    | .null => return choice
    | .object [] => if emptyIsNull then return choice else throw (.wrongType .map "unit")
    | other => throw (.wrongType other.found "unit")
  | .object _ => .error (.wrongValue .map "map with a single key")
  | other => .error (.wrongType other.found "string or map")

def ScalarKind.choices : List (String × ScalarKind) :=
  [ScalarKind.boolean, .integer, .number].map fun k => (k.jsonName, k)

def TextFormat.choices : List (String × TextFormat) :=
  [TextFormat.plain, .uri, .dateTime].map fun f => (f.jsonName, f)

inductive VariantKind where
  | scalar
  | text
  | container (kind : ContainerKind)
  | reference
deriving DecidableEq, Repr

def VariantKind.choices : List (String × VariantKind) :=
  [("scalar", .scalar), ("text", .text), ("array", .container .array), ("map", .container .map),
    ("reference", .reference)]

/-- The member that holds the content of a kind of shape. -/
def VariantKind.contentField : VariantKind → String
  | .scalar => "scalar"
  | .text => "format"
  | .container kind => kind.elementField
  | .reference => "target"

/-- What is missing when a shape in list form ends after its kind. -/
def VariantKind.listForm : VariantKind → String
  | .scalar => "struct variant PropertyVariant::Scalar with 1 element"
  | .text => "struct variant PropertyVariant::Text with 1 element"
  | .container .array => "struct variant PropertyVariant::Array with 1 element"
  | .container .map => "struct variant PropertyVariant::Map with 1 element"
  | .reference => "struct variant PropertyVariant::Reference with 1 element"

/-- Decodes the kind of a shape. `inner` says whether it stands inside another shape. -/
def VariantKind.ofJson? (inner : Bool) : Json → Except DataFault VariantKind
  | .string name => chooseNamed choices name
  | other =>
    match inner, other with
    | true, .number (.integer n) =>
      if n < 0 then .error (.wrongType other.found "variant identifier")
      else match choices[n.toNat]? with
        | some choice => .ok choice.2
        | none => .error (.wrongValue other.found "variant index 0 <= i < 5")
    | _, _ => .error (.wrongType other.found "variant identifier")

def decodeText : Json → Except DataFault String
  | .string s => .ok s
  | other => .error (.wrongType other.found "a string")

def decodeOptionalText : Json → Except DataFault (Option String)
  | .null => .ok none
  | other => some <$> decodeText other

/-- The shape of the given kind with the given content. `element` is the content read as a shape. -/
def Variant.ofContent (kind : VariantKind) (content : Json)
    (element : Except DataFault Variant) : Except DataFault Variant :=
  match kind with
  | .scalar => .scalar <$> decodeChoice true ScalarKind.choices content
  | .text => .text <$> decodeChoice true TextFormat.choices content
  | .reference => .reference <$> decodeText content
  | .container kind =>
    match content with
    | .null => .ok (.untyped kind)
    | _ => .container kind <$> element

mutual

/-- Decodes a shape. `inner` says whether it stands inside another shape. -/
def Variant.decode (inner : Bool) : Json → Except DataFault Variant
  | .object members =>
    match members.find? fun entry => entry.1 = "kind" with
    | none => .error (.missingField "kind")
    | some (_, tag) => do
      let kind ← VariantKind.ofJson? inner tag
      match Variant.decodeMember kind members with
      | some result => result
      | none =>
        match kind with
        | .container kind => return .untyped kind
        | kind => throw (.missingField kind.contentField)
  | .array items => Variant.decodeList inner items
  | other => .error (.wrongType other.found "internally tagged enum PropertyVariant")

/-- Decodes the content of a shape from the member that holds it, if it is there. -/
def Variant.decodeMember (kind : VariantKind) :
    List (String × Json) → Option (Except DataFault Variant)
  | [] => none
  | (name, value) :: rest =>
    if name = kind.contentField then
      some (Variant.ofContent kind value (Variant.decode true value))
    else Variant.decodeMember kind rest

/-- Decodes a shape in list form: its kind, then its content. -/
def Variant.decodeList (inner : Bool) : List Json → Except DataFault Variant
  | [] => .error (.missingField "kind")
  | tag :: contents => do
    let kind ← VariantKind.ofJson? inner tag
    Variant.decodeOnly kind contents

/-- Decodes the content of a shape in list form, which is the only item left. -/
def Variant.decodeOnly (kind : VariantKind) : List Json → Except DataFault Variant
  | [] => .error (.wrongLength 0 kind.listForm)
  | content :: rest => do
    let variant ← Variant.ofContent kind content (Variant.decode true content)
    if rest.isEmpty then return variant
    else throw (.wrongLength (rest.length + 1) "1 element in sequence")

end

def Variant.ofJson? (value : Json) : Except DataFault Variant := Variant.decode false value

namespace Property

/-- The members of a property that have been decoded so far. -/
structure Fields where
  name : Option String := none
  variant : Option Variant := none
  description : Option (Option String) := none

/-- Decodes the members of a property in turn. Members of other names are ignored. -/
def decodeMembers : Fields → List (String × Json) → Except DataFault Fields
  | fields, [] => .ok fields
  | fields, (key, value) :: rest => do
    let fields ←
      if key = "name" then
        if fields.name.isSome then throw (.duplicateField key)
        pure { fields with name := some (← decodeText value) }
      else if key = "variant" then
        if fields.variant.isSome then throw (.duplicateField key)
        pure { fields with variant := some (← Variant.ofJson? value) }
      else if key = "description" then
        if fields.description.isSome then throw (.duplicateField key)
        pure { fields with description := some (← decodeOptionalText value) }
      else pure fields
    decodeMembers fields rest

/-- What is missing when a property in list form is too short. -/
def listForm : String := "struct PropertyDescriptor with 3 elements"

/-- Decodes a property: an object, or the list of its name, shape and description. -/
def ofJson? : Json → Except DataFault Property
  | .object members => do
    let fields ← decodeMembers {} members
    let some name := fields.name | throw (.missingField "name")
    let some variant := fields.variant | throw (.missingField "variant")
    return ⟨name, variant, fields.description.join⟩
  | .array [] => .error (.wrongLength 0 listForm)
  | .array [name] => do
    discard (decodeText name)
    throw (.wrongLength 1 listForm)
  | .array (name :: variant :: rest) => do
    let name ← decodeText name
    let variant ← Variant.ofJson? variant
    match rest with
    | [] => return ⟨name, variant, none⟩
    | description :: more =>
      let description ← decodeOptionalText description
      if more.isEmpty then return ⟨name, variant, description⟩
      else throw (.wrongLength (more.length + 3) "fewer elements in array")
  | other => .error (.wrongType other.found "struct PropertyDescriptor")

end Property

end EntityModels
