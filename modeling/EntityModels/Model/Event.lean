import EntityModels.Model.Compilation
import EntityModels.Text.Quoted

/-!
What is worth logging in a compilation. The entities are synthesized side by side, so how their
events come between each other is not settled; the failures and the end of the run come after all of
them.
-/
namespace EntityModels

open Text (quoted)

inductive Severity where
  | error
  | warning
  | info
  | debug
  | trace
deriving DecidableEq, Repr

/-- The place of a severity, the gravest first. -/
def Severity.rank : Severity → Nat
  | .error => 1
  | .warning => 2
  | .info => 3
  | .debug => 4
  | .trace => 5

/-- The word for a severity, filled up to five characters. -/
def Severity.word : Severity → String
  | .error => "ERROR"
  | .warning => " WARN"
  | .info => " INFO"
  | .debug => "DEBUG"
  | .trace => "TRACE"

inductive Event where
  /-- A reference in an own property does not resolve. -/
  | unresolved (diagnostic : Diagnostic)
  /-- A reference in the shape of the undeclared keys does not resolve. -/
  | unresolvedValue (diagnostic : Diagnostic)
  | synthesized (entity className : String) (own depth : Nat)
  | failed (fault : EntityFault)
  | finished (models failures diagnostics : Nat)
deriving DecidableEq, Repr

namespace Event

def severity : Event → Severity
  | .unresolved _ | .unresolvedValue _ | .failed _ => .warning
  | .synthesized .. => .debug
  | .finished .. => .info

/-- The part of the program that an event is from. -/
def target : Event → String
  | .unresolved _ | .unresolvedValue _ | .synthesized .. => "modelc::synth"
  | .failed _ | .finished .. => "modelc::compile"

def message : Event → String
  | .unresolved _ => "reference does not resolve; emitting empty type name"
  | .unresolvedValue _ => "additionalProperties reference does not resolve"
  | .synthesized .. => "synthesized model"
  | .failed _ => "entity failed to compile"
  | .finished .. => "compilation finished"

/-- The data of an event, each under its name. -/
def data : Event → List (String × String)
  | .unresolved d =>
    ("entity", quoted d.entity) :: d.property.toList.map (fun p => ("property", quoted p)) ++
      [("reference", quoted d.target)]
  | .unresolvedValue d => [("entity", d.entity), ("reference", quoted d.target)]
  | .synthesized entity className own depth =>
    [("entity", entity), ("class", className), ("own", toString own), ("depth", toString depth)]
  | .failed fault => [("entity", fault.entity), ("error", fault.message)]
  | .finished models failures diagnostics =>
    [("models", toString models), ("failures", toString failures),
      ("diagnostics", toString diagnostics)]

/-- The diagnostic of which an event warns. -/
def diagnostic? : Event → Option Diagnostic
  | .unresolved d | .unresolvedValue d => some d
  | _ => none

/-- The events of steps one after the other, up to the first one that fails. -/
def untilFault : List (Except EntityFault (List Event)) → List Event
  | [] => []
  | .error _ :: _ => []
  | .ok events :: rest => events ++ untilFault rest

end Event

namespace Synthesis

/-- The steps of the synthesis of an entity after the check of its names: each own property, the
shape of the undeclared keys, and the end. -/
def steps (s : Synthesis) (l : Lineage) : List (Except EntityFault (List Event)) :=
  let entity := l.entity
  let own := l.ownProperties
  let properties := (own.zip (assignDirtyBits own).values).map fun (p, bit) =>
    (fun model => (diagnosticsOf entity.name model.name model.type).map .unresolved) <$>
      s.propertyModel entity p bit
  let additional := entity.additional.toList.map fun value =>
    (fun model => (diagnosticsOf entity.name additionalName model.type).map .unresolvedValue) <$>
      s.valueModel entity value
  properties ++ additional ++
    [.ok [.synthesized entity.name (s.classOf entity) own.length l.ancestors.length]]

/-- What the synthesis of an entity logs. A property may be warned of even if a later one then fails
the entity. -/
def events (s : Synthesis) (l : Lineage) : List Event :=
  match l.entity.declaredNames.findSome? l.collision? with
  | some _ => []
  | none => Event.untilFault (s.steps l)

end Synthesis

/-- What the synthesis of an entity of a graph logs. Without a sound parent chain that is
nothing. -/
def Graph.events (g : Graph) (naming : Naming) (entity : Entity) : List Event :=
  match g.ancestors entity with
  | .error _ => []
  | .ok ancestors => Synthesis.events ⟨g, naming⟩ ⟨ancestors, entity⟩

/-- What a compilation logs: the events of every entity, and those after all of them. -/
structure Trace where
  sideBySide : List (List Event)
  after : List Event
deriving Repr

/-- The events after all entities have been synthesized. -/
def Compilation.events (c : Compilation) : List Event :=
  c.failures.map .failed ++ [.finished c.models.size c.failures.length c.diagnostics.length]

/-- What is logged when a graph compiles to `c`. -/
def Graph.trace (g : Graph) (naming : Naming) (c : Compilation) : Trace where
  sideBySide := g.entities.map (g.events naming)
  after := c.events

end EntityModels
