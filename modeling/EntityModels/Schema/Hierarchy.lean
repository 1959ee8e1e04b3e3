import EntityModels.Schema.Graph

/-!
The parent chains of a graph. A walk up the chain ends at an entity without a parent, at a parent
that is not in the graph, or at an entity that it has met before.
-/
namespace EntityModels

/-- What is wrong with a parent chain. -/
inductive HierarchyFault where
  | cyclicChain (entity : String) (chain : List String)
  | unknownParent (entity parent : String)
deriving DecidableEq, Repr

namespace HierarchyFault

def entity : HierarchyFault → String
  | .cyclicChain entity _ => entity
  | .unknownParent entity _ => entity

def message : HierarchyFault → String
  | .cyclicChain entity chain =>
    "entity `" ++ entity ++ "` has a cyclic parent chain: " ++ String.intercalate " -> " chain
  | .unknownParent entity parent =>
    "entity `" ++ entity ++ "` names unknown parent `" ++ parent ++ "`"

end HierarchyFault

namespace Graph

/-- The names of the graph that are not among those of `met`. -/
def unmet (g : Graph) (met : List Entity) : List String :=
  g.names.filter (· ∉ met.map (·.name))

theorem name_mem_names_of_get? {g : Graph} {name : String} {e : Entity}
    (h : g.get? name = some e) : e.name ∈ g.names :=
  List.mem_map.2 ⟨e, List.mem_of_find?_eq_some h, rfl⟩

theorem length_unmet_cons_lt {g : Graph} {met : List Entity} {e : Entity}
    (hg : e.name ∈ g.names) (hm : e.name ∉ met.map (·.name)) :
    (g.unmet (e :: met)).length < (g.unmet met).length := by
  have sub : g.unmet (e :: met) = (g.unmet met).filter (· ≠ e.name) := by
    simp only [unmet, List.filter_filter, List.map_cons, List.mem_cons, not_or]
    exact List.filter_congr fun x _ => by simp
  have mem : e.name ∈ g.unmet met := by simpa [unmet] using ⟨hg, by simpa using hm⟩
  rw [sub]
  exact List.length_filter_lt_length_iff_exists.2 ⟨e.name, mem, by simp⟩

set_option linter.unusedVariables false in
/-- Walks up from `cursor`, an ancestor of `start` or `start` itself. `above` holds the ancestors
met so far, the farthest first. -/
def climb (g : Graph) (start : Entity) (above : List Entity) (cursor : Entity) :
    Except HierarchyFault (List Entity) :=
  match cursor.parent with
  | none => .ok above
  | some reference =>
    match found : g.target? reference with
    | none => .error (.unknownParent cursor.name reference)
    | some parent =>
      if again : parent.name = start.name ∨ parent.name ∈ above.map (·.name) then
        .error (.cyclicChain start.name
          (start.name :: above.reverse.map (·.name) ++ [parent.name]))
      else g.climb start (parent :: above) parent
termination_by (g.unmet above).length
decreasing_by
  exact length_unmet_cons_lt (name_mem_names_of_get? found) (fun h => again (.inr h))

/-- The ancestors of an entity, the root first, without the entity itself. -/
def ancestors (g : Graph) (entity : Entity) : Except HierarchyFault (List Entity) :=
  g.climb entity [] entity

/-- Fails at the first entity with a faulty parent chain. -/
def checkHierarchy (g : Graph) : Except HierarchyFault Unit :=
  g.entities.forM fun entity => discard (g.ancestors entity)

end Graph

/-- An entity together with its ancestors, the root first. -/
structure Lineage where
  ancestors : List Entity
  entity : Entity
deriving DecidableEq, Repr

/-- The lineages of all entities in order, or the fault of the first one without. -/
def Graph.lineages (g : Graph) : Except HierarchyFault (List Lineage) :=
  g.entities.mapM fun entity => return ⟨← g.ancestors entity, entity⟩

end EntityModels
