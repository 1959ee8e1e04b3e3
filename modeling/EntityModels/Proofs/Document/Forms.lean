import EntityModels.Document.Tree
import EntityModels.Document.Text

/-!
The forms of the values in a document, and what they say about a value: where an object repeats a
member, and which paths lead into members that are skipped.
-/
namespace EntityModels

/-- The names that a property entry has besides those of its node. -/
def propertyNames : List String := ["name", "description"]

/-- The names of the members of an entity entry, in the order of the list form. -/
def entityNames : List String :=
  ["name", "parent", "description", "properties", "additionalProperties"]

/-- The names of the members of a document, in the order of the list form. -/
def documentNames : List String := ["entities"]

/-- The forms of the values in a document. -/
inductive Form where
  | node
  | property
  | entity
  | document
  | sequence (item : Form)

/-- How often an object has members of a name. -/
def occurrences (members : List (String × Json)) (name : String) : Nat :=
  (members.map (·.1)).count name

namespace Form

/-- The names of the members of an object of a form. -/
def names : Form → List String
  | .node => NodeFields.names
  | .property => propertyNames ++ NodeFields.names
  | .entity => entityNames
  | .document => documentNames
  | .sequence _ => []

/-- The names of the members of a form in the order of its list form, if it has one. -/
def positions : Form → List String
  | .property | .sequence _ => []
  | form => form.names

/-- The form of the part that a member holds, where it is more than a text. -/
def part? : Form → String → Option Form
  | .node, name | .property, name =>
    if name = "items" ∨ name = "additionalProperties" then some .node else none
  | .entity, name =>
    if name = "properties" then some (.sequence .property)
    else if name = "additionalProperties" then some .node
    else none
  | .document, name => if name = "entities" then some (.sequence .entity) else none
  | .sequence _, _ => none

/-- Somewhere in a value of a form an object has two members of one of the names of its form. What
the form ignores is not looked at. -/
inductive Repeats : Form → Json → Prop where
  | here {form : Form} {members : List (String × Json)} {name : String} :
    name ∈ form.names → 2 ≤ occurrences members name → Repeats form (.object members)
  | member {form part : Form} {members : List (String × Json)} {name : String} {value : Json} :
    (name, value) ∈ members → form.part? name = some part → Repeats part value →
      Repeats form (.object members)
  | position {form part : Form} {values : List Json} {name : String} {value : Json} :
    (name, value) ∈ form.positions.zip values → form.part? name = some part → Repeats part value →
      Repeats form (.array values)
  | item {form : Form} {values : List Json} {value : Json} :
    value ∈ values → Repeats form value → Repeats (.sequence form) (.array values)

/-- A path from a value of a form leads into a member that is skipped: one of another name, in a
document or an entity entry. What a property entry or a node ignores is read nonetheless. -/
inductive Skips : Form → List PathStep → Prop where
  | document {name : String} {path : List PathStep} :
    name ∉ documentNames → Skips .document (.key name :: path)
  | entity {name : String} {path : List PathStep} :
    name ∉ entityNames → Skips .entity (.key name :: path)
  | member {form part : Form} {name : String} {path : List PathStep} :
    form.part? name = some part → Skips part path → Skips form (.key name :: path)
  | position {form part : Form} {i : Nat} {name : String} {path : List PathStep} :
    form.positions[i]? = some name → form.part? name = some part → Skips part path →
      Skips form (.index i :: path)
  | item {form : Form} {i : Nat} {path : List PathStep} :
    Skips form path → Skips (.sequence form) (.index i :: path)

end Form

end EntityModels
