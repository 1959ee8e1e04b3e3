import EntityModels.Model.Compilation
import EntityModels.Schema.Encoding

/-!
The JSON form of models and compilations. Members without a value are left out where the form says
so, and written as null elsewhere.
-/
namespace EntityModels

open Json (field optionalField objectOf)

/-- The JSON form of a record: an object with the keys in order. -/
def Record.toJson {α : Type} (encode : α → Json) (r : Record α) : Json :=
  .object (r.entries.map fun entry => (entry.1, encode entry.2))

def Naming.toJson (naming : Naming) : Json :=
  objectOf [optionalField "classNamePrefix" naming.classPrefix]

def PrimitiveType.jsonName : PrimitiveType → String
  | .boolean => "boolean"
  | .integer => "integer"
  | .float => "float"

def Ownership.jsonName : Ownership → String
  | .copy => "copy"
  | .strong => "strong"
  | .assign => "assign"

/-- The kind of a container type. -/
def ContainerKind.typeName : ContainerKind → String
  | .array => "sequence"
  | .map => "dictionary"

def TargetType.toJson : TargetType → Json
  | .primitive type => .object [("kind", .string "primitive"), ("primitive", .string type.jsonName)]
  | .string => .object [("kind", .string "string")]
  | .url => .object [("kind", .string "url")]
  | .date => .object [("kind", .string "date")]
  | .untyped kind => .object [("kind", .string kind.typeName), (kind.elementField, .null)]
  | .container kind element =>
    .object [("kind", .string kind.typeName), (kind.elementField, element.toJson)]
  | .model entity className =>
    .object [("kind", .string "class"), ("entity", .string entity),
      ("class_name", .string className)]
  | .unresolved target => .object [("kind", .string "unresolved"), ("target", .string target)]

def FormatTransform.jsonName : FormatTransform → String
  | .uriParse => "uriParse"
  | .dateTimeTransform => "dateTimeTransform"

def CoercionRule.toJson : CoercionRule → Json
  | .direct cast =>
    .object [("kind", .string "direct"), ("cast", .stringOrNull (cast.map (·.jsonName)))]
  | .formatted transform =>
    .object [("kind", .string "formattedTransform"), ("transform", .string transform.jsonName)]
  | .construct target className =>
    .object [("kind", .string "subEntityConstruct"), ("target", .string target),
      ("class_name", .string className)]
  | .elementwise container element =>
    .object [("kind", .string "elementwiseTransform"), ("element", element.toJson),
      ("container", .string container.jsonName)]

def Diagnostic.toJson (d : Diagnostic) : Json :=
  objectOf [field "severity" (.string "warning"), field "entity" (.string d.entity),
    optionalField "property" d.property, field "kind" (.string "unresolvedReference"),
    field "target" (.string d.target)]

def ParentLink.toJson (p : ParentLink) : Json :=
  .object [("entity", .string p.entity), ("className", .string p.className),
    ("builderClassName", .string p.builderClassName)]

def Hook.toJson (h : Hook) : Json :=
  .object [("protocolName", .string h.protocolName), ("selector", .string h.selector),
    ("declaredHere", .bool h.declaredHere)]

def ModelClass.toJson (c : ModelClass) : Json :=
  objectOf [field "entity" (.string c.entity), field "className" (.string c.className),
    field "builderClassName" (.string c.builderClassName),
    field "dirtyPropertiesName" (.string c.dirtyPropertiesName),
    field "fileName" (.string c.fileName), optionalField "description" c.description,
    field "isRoot" (.bool c.isRoot), field "parent" (c.parent.elim .null (·.toJson)),
    field "ownProperties" (.array (c.ownProperties.map (·.toJson))),
    field "forwardReferences" (.strings c.forwardReferences),
    field "dirtyBits" (c.dirtyBits.toJson .nat), field "capabilityHook" c.hook.toJson,
    field "propertyNames" (.strings c.propertyNames),
    field "arrayPropertyNames" (.strings c.arrayPropertyNames),
    field "dictionaryPropertyNames" (.strings c.dictionaryPropertyNames)]

def Atomicity.jsonName : Atomicity → String
  | .atomic => "atomic"
  | .nonAtomic => "nonAtomic"

def Mutability.jsonName : Mutability → String
  | .readOnly => "readOnly"
  | .readWrite => "readWrite"

def Declaration.toJson (d : Declaration) : Json :=
  .object [("atomicity", .string d.atomicity.jsonName), ("ownership", .string d.ownership.jsonName),
    ("model", .string d.model.jsonName), ("builder", .string d.builder.jsonName),
    ("isPointer", .bool d.isPointer)]

def PropertyModel.toJson (p : PropertyModel) : Json :=
  objectOf [field "name" (.string p.name), field "propertyName" (.string p.propertyName),
    optionalField "description" p.description, field "ty" p.type.toJson,
    field "typeName" (.string p.typeName), field "ownership" (.string p.ownership.jsonName),
    field "coercion" p.coercion.toJson, field "dirtyBit" (.nat p.dirtyBit),
    field "dirtyOptionName" (.string p.dirtyOptionName), field "declaration" p.declaration.toJson]

def ValueModel.toJson (v : ValueModel) : Json :=
  .object [("ty", v.type.toJson), ("typeName", .string v.typeName),
    ("ownership", .string v.ownership.jsonName), ("coercion", v.coercion.toJson)]

def Model.toJson (m : Model) : Json :=
  objectOf [field "class" m.modelClass.toJson,
    field "properties" (.array (m.properties.map (·.toJson))),
    m.additional.map fun v => ("additionalProperties", v.toJson),
    if m.diagnostics.isEmpty then none
    else field "diagnostics" (.array (m.diagnostics.map (·.toJson)))]

def EntityFault.toJson (f : EntityFault) : Json :=
  .object [("entity", .string f.entity), ("message", .string f.message)]

def Compilation.toJson (c : Compilation) : Json :=
  .object [("naming", c.naming.toJson), ("models", c.models.toJson Model.toJson),
    ("failures", .array (c.failures.map (·.toJson))),
    ("diagnostics", .array (c.diagnostics.map (·.toJson)))]

end EntityModels
