import EntityModels.Instance.Builder

/-!
Merging one instance into another: every property that is dirty on the incoming instance takes its
value, all others keep theirs. The classes of the hierarchy are merged from the root down.
-/
namespace EntityModels

/-- The value that a merge takes from an instance: null if it has none. -/
def Instance.mergedValue (i : Instance) (property : String) : Json :=
  (i.get? property).getD .null

/-- The own properties of a class that are dirty on an instance, with their bits. -/
def Instance.dirtyProperties (i : Instance) (m : Model) : List (String × Nat) :=
  let bits := (i.dirtyBits? m.entity).getD ∅
  m.modelClass.dirtyBits.entries.filter fun entry => bits.contains entry.2

namespace Builder

/-- Takes over the own properties of one class that are dirty on the incoming instance. -/
def mergeLevel (incoming : Instance) (b : Builder) (m : Model) : Builder :=
  (incoming.dirtyProperties m).foldl
    (fun b entry => b.mark m.entity entry.2 entry.1 (incoming.mergedValue entry.1)) b

def mergeLevels (incoming : Instance) (b : Builder) : Builder :=
  b.chain.levels.foldl (mergeLevel incoming) b

end Builder

/-- The calls after a merge: the ancestors have been merged into on behalf of the last class. -/
def Chain.mergeNotifications (c : Chain) (kind : InitKind) : List Notification :=
  c.ancestors.map (·.notification .fromSubmerge) ++ [c.model.notification kind]

def Compilation.merge (c : Compilation) (current incoming : Instance) (kind : InitKind) :
    Except InstanceFault Constructed := do
  if current.entity ≠ incoming.entity then
    throw (.entityMismatch current.entity incoming.entity)
  if kind = .default then throw (.defaultKind current.entity)
  let builder ← Builder.ofInstance c current
  return ⟨(builder.mergeLevels incoming).toInstance, builder.chain.mergeNotifications kind⟩

end EntityModels
