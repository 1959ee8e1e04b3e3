import EntityModels.Model.Synthesis

/-!
Compilation of a whole graph.

A faulty parent chain stops the run. After that every entity is synthesized on its own, and one that
fails takes all entities that inherit from it with it.
-/
namespace EntityModels

/-- The result of one run: the models in the order of the graph, the faults of the entities without
one, and the warnings of the models. -/
structure Compilation where
  naming : Naming
  models : Record Model
  failures : List EntityFault
  diagnostics : List Diagnostic

namespace Compilation

/-- Whether every entity has a model. -/
def isClean (c : Compilation) : Bool := c.failures.isEmpty

def model? (c : Compilation) (entity : String) : Option Model := c.models.get? entity

end Compilation

/-- An entity with its ancestors and the outcome of its own synthesis. -/
structure Outcome where
  lineage : Lineage
  result : Except EntityFault Model

namespace Outcome

def name (o : Outcome) : String := o.lineage.entity.name

/-- The fault of the entity's own synthesis. -/
def fault? (o : Outcome) : Option EntityFault :=
  match o.result with
  | .error fault => some fault
  | .ok _ => none

/-- The fault of an entity that synthesizes but has an ancestor among `failed`. -/
def inheritedFault? (failed : List String) (o : Outcome) : Option EntityFault :=
  match o.result with
  | .error _ => none
  | .ok _ =>
    if o.lineage.ancestors.any (·.name ∈ failed) then
      -- the parent is not always the ancestor among `failed`, but it has no model either
      o.lineage.parent?.map fun parent => .failedAncestor o.name parent.name
    else none

/-- The model of an entity without an ancestor among `failed`. -/
def model? (failed : List String) (o : Outcome) : Option (String × Model) :=
  match o.result with
  | .error _ => none
  | .ok model =>
    if o.lineage.ancestors.any (·.name ∈ failed) then none else some (o.name, model)

end Outcome

/-- The result of a run in which every parent chain is sound. -/
def Compilation.ofOutcomes (naming : Naming) (outcomes : List Outcome) : Compilation :=
  let faults := outcomes.filterMap Outcome.fault?
  let failed := faults.map (·.entity)
  let models := Record.ofList (outcomes.filterMap (Outcome.model? failed))
  { naming
    models
    failures := faults ++ outcomes.filterMap (Outcome.inheritedFault? failed)
    diagnostics := models.values.flatMap (·.diagnostics) }

def Graph.compile (g : Graph) (naming : Naming) : Except HierarchyFault Compilation := do
  let lineages ← g.lineages
  return .ofOutcomes naming (lineages.map fun l => ⟨l, Synthesis.model ⟨g, naming⟩ l⟩)

end EntityModels
