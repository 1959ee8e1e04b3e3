import EntityModels.Model.Descriptor

/-!
Synthesis of the model of one entity from the entity, its ancestors and the graph.

An entity fails when a property collides with an inherited one of another name, or when a container
has a scalar as its element. References that do not resolve only give diagnostics.
-/
namespace EntityModels

/-- A property that an ancestor declares, with its generated identifier. -/
structure InheritedName where
  ancestor : String
  name : String
  generated : String
deriving DecidableEq, Repr

namespace Lineage

/-- The properties that the ancestors declare, from the root down. -/
def inheritedNames (l : Lineage) : List InheritedName :=
  l.ancestors.flatMap fun a => a.declaredNames.map fun n => ⟨a.name, n, Naming.propertyName n⟩

/-- The inherited property with a generated identifier. -/
def inherited? (l : Lineage) (generated : String) : Option InheritedName :=
  -- the nearest ancestor that has one comes first
  l.inheritedNames.reverse.find? (·.generated = generated)

/-- The collision of a property with an inherited one of another name. -/
def collision? (l : Lineage) (name : String) : Option EntityFault :=
  match l.inherited? (Naming.propertyName name) with
  | none => none
  | some inherited =>
    -- a property may be declared again under its own name
    if inherited.name = name then none
    else some (.inheritedCollision l.entity.name name inherited.ancestor inherited.name)

/-- The declared properties whose names no ancestor declares. -/
def ownProperties (l : Lineage) : List Property :=
  l.entity.properties.filter fun p => p.name ∉ l.ancestors.flatMap Entity.declaredNames

/-- The root of the hierarchy: the first ancestor, or the entity itself. -/
def root (l : Lineage) : Entity := l.ancestors.head?.getD l.entity

def parent? (l : Lineage) : Option Entity := l.ancestors.getLast?

end Lineage

/-- One bit for each property. Bits are natural numbers, which a count of 32 bits holds as long as a
class has at most `2 ^ 32` own properties. -/
def assignDirtyBits (own : List Property) : Record Nat :=
  -- in the order of declaration, so that a property appended later does not renumber the others
  .ofList (own.map (·.name)).zipIdx

/-- Puts a text into a sorted list of distinct texts. -/
def insertSorted (text : String) : List String → List String
  | [] => [text]
  | first :: rest =>
    if text < first then text :: first :: rest
    else if text = first then first :: rest
    else first :: insertSorted text rest

/-- The distinct texts of a list, sorted. -/
def sortDistinct (texts : List String) : List String := texts.foldr insertSorted []

/-- What a synthesis needs besides the entity. -/
structure Synthesis where
  graph : Graph
  naming : Naming

namespace Synthesis

def typeOf (s : Synthesis) (v : Variant) : TargetType := .ofVariant s.graph s.naming v

def coercionOf (s : Synthesis) (v : Variant) : Except ElementFault CoercionRule :=
  CoercionRule.ofVariant s.graph s.naming v

def classOf (s : Synthesis) (entity : Entity) : String := s.naming.className entity.name

/-- How a property of a type is declared. -/
def declarationOf (type : TargetType) : Declaration where
  atomicity := .nonAtomic
  ownership := type.ownership
  model := .readOnly
  builder := .readWrite
  isPointer := type.isPointer

/-- The model of a property of that type and with that rule. -/
def propertyModelOf (s : Synthesis) (entity : Entity) (p : Property) (bit : Nat)
    (type : TargetType) (coercion : CoercionRule) : PropertyModel where
  name := p.name
  propertyName := Naming.propertyName p.name
  description := p.description
  type
  typeName := type.spelling
  ownership := type.ownership
  coercion
  dirtyBit := bit
  dirtyOptionName := Naming.dirtyOptionName (s.classOf entity) p.name
  declaration := declarationOf type

/-- The model of an own property and its dirty bit. -/
def propertyModel (s : Synthesis) (entity : Entity) (p : Property) (bit : Nat) :
    Except EntityFault PropertyModel :=
  match s.coercionOf p.variant with
  | .error fault => .error (.containerElement entity.name p.name fault)
  | .ok coercion => .ok (s.propertyModelOf entity p bit (s.typeOf p.variant) coercion)

/-- The name under which the undeclared keys of an entity are reported. -/
def additionalName : String := "additionalProperties"

/-- The model of values of that type and with that rule. -/
def valueModelOf (type : TargetType) (coercion : CoercionRule) : ValueModel where
  type
  typeName := type.spelling
  ownership := type.ownership
  coercion

/-- The model of the values under undeclared keys. -/
def valueModel (s : Synthesis) (entity : Entity) (value : Variant) :
    Except EntityFault ValueModel :=
  let shape := Variant.container .map value
  match s.coercionOf shape with
  | .error fault => .error (.containerElement entity.name additionalName fault)
  | .ok coercion => .ok (valueModelOf (s.typeOf shape) coercion)

/-- The model of the undeclared keys, if the entity has a shape for them. -/
def additionalModel (s : Synthesis) (entity : Entity) : Except EntityFault (Option ValueModel) :=
  match entity.additional with
  | none => .ok none
  | some value => some <$> s.valueModel entity value

/-- The warnings for the unresolved references in a type. -/
def diagnosticsOf (entity property : String) (type : TargetType) : List Diagnostic :=
  type.unresolvedTargets.map fun target => ⟨entity, some property, target⟩

/-- The classes that the properties mention, without the class itself. -/
def forwardReferences (className : String) (properties : List PropertyModel) : List String :=
  sortDistinct ((properties.flatMap (·.type.classNames)).filter (· ≠ className))

def parentLink (s : Synthesis) (parent : Entity) : ParentLink where
  entity := parent.name
  className := s.classOf parent
  builderClassName := Naming.builderClassName (s.classOf parent)

/-- The hook of the hierarchy of an entity. -/
def hook (s : Synthesis) (l : Lineage) : Hook where
  protocolName := Naming.protocolName (s.classOf l.root)
  selector := Naming.initializeSelector (s.classOf l.root)
  declaredHere := l.entity.isRoot

/-- The generated names of the own properties that are containers of a kind. -/
def containerNames (kind : ContainerKind) (own : List Property)
    (properties : List PropertyModel) : List String :=
  (properties.zip own).filterMap fun (model, p) =>
    if p.variant.containerKind? = some kind then some model.propertyName else none

def modelClass (s : Synthesis) (l : Lineage) (properties : List PropertyModel) : ModelClass :=
  let className := s.classOf l.entity
  let own := l.ownProperties
  { entity := l.entity.name
    className
    builderClassName := Naming.builderClassName className
    dirtyPropertiesName := Naming.dirtyPropertiesName className
    fileName := Naming.headerFileName className
    description := l.entity.description
    isRoot := l.entity.isRoot
    parent := l.parent?.map s.parentLink
    ownProperties := own
    forwardReferences := forwardReferences className properties
    dirtyBits := assignDirtyBits own
    hook := s.hook l
    propertyNames := properties.map (·.propertyName)
    arrayPropertyNames := containerNames .array own properties
    dictionaryPropertyNames := containerNames .map own properties }

/-- The models of the own properties, or the fault of the first one without. -/
def propertyModels (s : Synthesis) (l : Lineage) : Except EntityFault (List PropertyModel) :=
  (l.ownProperties.zip (assignDirtyBits l.ownProperties).values).mapM fun (p, bit) =>
    s.propertyModel l.entity p bit

/-- The model of an entity with these models of its own properties and of its undeclared keys. -/
def modelOf (s : Synthesis) (l : Lineage) (properties : List PropertyModel)
    (additional : Option ValueModel) : Model where
  modelClass := s.modelClass l properties
  properties
  additional
  diagnostics :=
    properties.flatMap (fun p => diagnosticsOf l.entity.name p.name p.type) ++
      additional.toList.flatMap fun v => diagnosticsOf l.entity.name additionalName v.type

def model (s : Synthesis) (l : Lineage) : Except EntityFault Model := do
  if let some fault := l.entity.declaredNames.findSome? l.collision? then throw fault
  let properties ← s.propertyModels l
  let additional ← s.additionalModel l.entity
  return s.modelOf l properties additional

end Synthesis

/-- The model of an entity, in the graph or outside it, or the fault of its parent chain or of the
entity itself. -/
def Graph.synthesize (g : Graph) (naming : Naming) (entity : Entity) :
    Except CompileFault Model :=
  match g.ancestors entity with
  | .error fault => .error (.hierarchy fault)
  | .ok ancestors =>
    match Synthesis.model ⟨g, naming⟩ ⟨ancestors, entity⟩ with
    | .error fault => .error (.entity fault)
    | .ok model => .ok model

end EntityModels
