import EntityModels.Instance.DirtySet
import EntityModels.Json.Equality
import EntityModels.Model.Chain

/-!
Instances of models and the builders that make them.

The layer does not look into values; it only keeps which value a property has and, for each class of
the hierarchy, which of the properties that the class owns have been set.
-/
namespace EntityModels

/-- An instance: the values of its properties and the dirty bits of each class of its hierarchy, by
the name of the class's entity. -/
structure Instance where
  entity : String
  values : Record Json
  dirty : Record DirtySet

namespace Instance

def get? (i : Instance) (property : String) : Option Json := i.values.get? property

def dirtyBits? (i : Instance) (owner : String) : Option DirtySet := i.dirty.get? owner

/-- The values sorted by property, with the members of all objects in them sorted. -/
def sortedValues (i : Instance) : List (String × Json) :=
  i.values.sortedEntries.map fun entry => (entry.1, entry.2.sorted)

/-- Whether two instances are equal up to the order of keys. -/
def same (a b : Instance) : Bool :=
  a.entity = b.entity && a.sortedValues = b.sortedValues &&
    a.dirty.sortedEntries = b.dirty.sortedEntries

end Instance

/-- Why an instance is initialized: it is fresh, it has been merged into, or it has been merged into
on behalf of a descendant. -/
inductive InitKind where
  | default
  | fromMerge
  | fromSubmerge
deriving DecidableEq, Repr, Inhabited

structure Notification where
  entity : String
  selector : String
  kind : InitKind
deriving DecidableEq, Repr

def Model.notification (m : Model) (kind : InitKind) : Notification :=
  ⟨m.entity, m.modelClass.hook.selector, kind⟩

/-- An instance together with the calls that its making leads to, in order. -/
structure Constructed where
  built : Instance
  notifications : List Notification

/-- A place in which an instance of a chain is put together. -/
structure Builder where
  chain : Chain
  values : Record Json
  dirty : Record DirtySet

namespace Builder

/-- A builder without values. Every class of the chain starts without dirty bits. -/
def ofChain (chain : Chain) : Builder where
  chain
  values := ∅
  dirty := .ofList (chain.levels.map fun m => (m.entity, ∅))

def new (c : Compilation) (entity : String) : Except InstanceFault Builder :=
  ofChain <$> c.chain entity

/-- A builder with the values and dirty bits of an instance. -/
def ofInstance (c : Compilation) (i : Instance) : Except InstanceFault Builder := do
  let builder ← new c i.entity
  return { builder with values := i.values, dirty := builder.dirty.insertAll i.dirty }

def entity (b : Builder) : String := b.chain.entity

/-- Gives a property a value and marks its bit dirty on the class that owns it. -/
def mark (b : Builder) (owner : String) (bit : Nat) (property : String) (value : Json) : Builder :=
  { b with
    values := b.values.insert property value
    dirty := b.dirty.insert owner (((b.dirty.get? owner).getD ∅).insert bit) }

/-- The bit that a class gives to a property, with the class's entity. -/
def slotAt? (m : Model) (property : String) : Option (String × Nat) :=
  (m.modelClass.dirtyBits.get? property).map fun bit => (m.entity, bit)

/-- The owner of a property and its bit there. -/
def slot? (b : Builder) (property : String) : Option (String × Nat) :=
  -- the first class from the root down that numbers the property owns it
  b.chain.levels.findSome? fun m => slotAt? m property

def set (b : Builder) (property : String) (value : Json) : Except InstanceFault Builder :=
  match b.slot? property with
  | some (owner, bit) => .ok (b.mark owner bit property value)
  | none => .error (.unknownProperty b.entity property)

def toInstance (b : Builder) : Instance := ⟨b.entity, b.values, b.dirty⟩

/-- Finishes a fresh instance. The hook of every class is called with `InitKind.default`. -/
def build (b : Builder) : Constructed :=
  ⟨b.toInstance, b.chain.levels.map (·.notification .default)⟩

end Builder

end EntityModels
