import EntityModels.Model.Compilation

/-!
The chain of models of an entity and its ancestors in a compilation.
-/
namespace EntityModels

/-- What is wrong with a use of instances. -/
inductive InstanceFault where
  | entityMismatch (current incoming : String)
  | defaultKind (entity : String)
  | unknownEntity (entity : String)
  | unknownProperty (entity property : String)
deriving DecidableEq, Repr

def InstanceFault.message : InstanceFault → String
  | .entityMismatch current incoming =>
    "cannot merge a `" ++ incoming ++ "` instance into a `" ++ current ++ "` instance"
  | .defaultKind entity =>
    "merge into `" ++ entity ++ "` was tagged Default; Default is reserved for construction"
  | .unknownEntity entity => "no compiled model for entity `" ++ entity ++ "`"
  | .unknownProperty entity property =>
    "entity `" ++ entity ++ "` has no property `" ++ property ++ "`"

/-- A model together with the models of its ancestors, the root first. -/
structure Chain where
  ancestors : List Model
  model : Model

namespace Chain

/-- All models of the chain, the root first. -/
def levels (c : Chain) : List Model := c.ancestors ++ [c.model]

def entity (c : Chain) : String := c.model.entity

end Chain

theorem Record.size_erase_lt {α : Type} {r : Record α} {key : String} {value : α}
    (h : r.get? key = some value) : (r.erase key).size < r.size := by
  obtain ⟨entry, found, _⟩ := Option.map_eq_some_iff.1 h
  have hkey : entry.1 = key := by simpa using List.find?_some found
  exact List.length_filter_lt_length_iff_exists.2
    ⟨entry, List.mem_of_find?_eq_some found, by simp [hkey]⟩

namespace Compilation

set_option linter.unusedVariables false in
/-- The models of an entity's parents, the root first, among those not met yet. -/
def parents (unmet : Record Model) (model : Model) : Except InstanceFault (List Model) :=
  match model.modelClass.parent with
  | none => .ok []
  | some link =>
    match found : unmet.get? link.entity with
    | none => .error (.unknownEntity link.entity)
    | some parent => return (← parents (unmet.erase link.entity) parent) ++ [parent]
termination_by unmet.size
decreasing_by exact Record.size_erase_lt found

def chain (c : Compilation) (entity : String) : Except InstanceFault Chain :=
  match c.model? entity with
  | none => .error (.unknownEntity entity)
  | some model => return ⟨← parents (c.models.erase entity) model, model⟩

end Compilation

end EntityModels
