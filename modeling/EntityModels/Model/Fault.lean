import EntityModels.Schema.Hierarchy
import EntityModels.Target.Coercion

/-!
What can go wrong in compiling: faults that fail one entity, faults of the hierarchy that stop the
whole run, and diagnostics that only warn.
-/
namespace EntityModels

/-- Why one entity has no model. -/
inductive EntityFault where
  | containerElement (entity property : String) (element : ElementFault)
  | inheritedCollision (entity property ancestor inherited : String)
  | failedAncestor (entity ancestor : String)
deriving DecidableEq, Repr

namespace EntityFault

/-- The entity without a model. -/
def entity : EntityFault → String
  | .containerElement entity _ _ => entity
  | .inheritedCollision entity _ _ _ => entity
  | .failedAncestor entity _ => entity

def message : EntityFault → String
  | .containerElement entity property element =>
    "entity `" ++ entity ++ "`, property `" ++ property ++ "`: " ++ element.message
  | .inheritedCollision entity property ancestor inherited =>
    "entity `" ++ entity ++ "`: property `" ++ property ++ "` collides with inherited `" ++
      inherited ++ "` of `" ++ ancestor ++ "`"
  | .failedAncestor entity ancestor =>
    "entity `" ++ entity ++ "` inherits from `" ++ ancestor ++ "`, which failed to compile"

end EntityFault

/-- Why an entity cannot be compiled on its own: its parent chain or the entity itself. -/
inductive CompileFault where
  | hierarchy (fault : HierarchyFault)
  | entity (fault : EntityFault)
deriving DecidableEq, Repr

/-- Whether a fault stops the whole run. -/
def CompileFault.isRunFatal : CompileFault → Bool
  | .hierarchy _ => true
  | .entity _ => false

def CompileFault.subject : CompileFault → String
  | .hierarchy fault => fault.entity
  | .entity fault => fault.entity

def CompileFault.message : CompileFault → String
  | .hierarchy fault => fault.message
  | .entity fault => fault.message

/-- A warning: a reference in the entity, or in one of its properties, does not resolve. -/
structure Diagnostic where
  entity : String
  property : Option String
  target : String
deriving DecidableEq, Repr

def Diagnostic.message (d : Diagnostic) : String :=
  d.entity ++ (d.property.elim "" fun p => "." ++ p) ++ ": reference `" ++ d.target ++
    "` does not resolve; emitting an empty type name"

end EntityModels
