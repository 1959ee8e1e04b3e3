import EntityModels.Schema.Variant

/-!
Nodes of schema documents and the shapes for which they stand.
-/
namespace EntityModels

mutual

/-- A node: its type and format, the node of its items, what its undeclared keys may hold, and the
entity to which it refers. -/
inductive Node where
  | mk (type format : Option String) (items : Option Node) (additional : Option Additional)
    (reference : Option String)

/-- What the undeclared keys of a node may hold. A flag gives their values no shape. -/
inductive Additional where
  | flag (allowed : Bool)
  | shape (node : Node)

end

/-- Why a node stands for no shape. -/
inductive NodeFault where
  | unknownType (path type : String)
  | missingType (path : String)
deriving DecidableEq, Repr

def NodeFault.message : NodeFault → String
  | .unknownType path type => path ++ ": unknown type `" ++ type ++ "`"
  | .missingType path => path ++ ": node has neither `type` nor `$ref`"

/-- The text format that a node names; any other is plain. -/
def TextFormat.ofName : Option String → TextFormat
  | some "uri" => .uri
  | some "date-time" => .dateTime
  | _ => .plain

/-- What the name of a type says by itself. -/
inductive NodeType where
  | scalar (kind : ScalarKind)
  | text
  | container (kind : ContainerKind)
deriving DecidableEq, Repr

/-- The type with a name. -/
def NodeType.ofName? : String → Option NodeType
  | "boolean" => some (.scalar .boolean)
  | "integer" => some (.scalar .integer)
  | "number" => some (.scalar .number)
  | "string" => some .text
  | "array" => some (.container .array)
  | "object" => some (.container .map)
  | _ => none

/-- The keyword under which a container keeps the node of its elements. -/
def ContainerKind.keyword : ContainerKind → String
  | .array => "items"
  | .map => "additionalProperties"

/-- The shape for which a node stands. `path` says where the node is. A reference decides alone;
otherwise the type does, together with the node of the elements if it is a container. -/
def Node.toVariant (path : String) : Node → Except NodeFault Variant
  | .mk _ _ _ _ (some target) => .ok (.reference target)
  | .mk none _ _ _ none => .error (.missingType path)
  | .mk (some type) format items additional none =>
    match NodeType.ofName? type with
    | none => .error (.unknownType path type)
    | some (.scalar kind) => .ok (.scalar kind)
    | some .text => .ok (.text (.ofName format))
    | some (.container kind) =>
      let inside := path ++ "." ++ kind.keyword
      match kind, items, additional with
      | .array, some node, _ => .container .array <$> node.toVariant inside
      | .map, _, some (.shape node) => .container .map <$> node.toVariant inside
      | kind, _, _ => .ok (.untyped kind)

/-- The node of a shape, if undeclared keys have one. -/
def Additional.node? : Additional → Option Node
  | .flag _ => none
  | .shape node => some node

end EntityModels
