import EntityModels.Instance.Merge
import EntityModels.Model.Encoding

/-!
The JSON form of instances and of the calls that their making leads to.
-/
namespace EntityModels

def InitKind.jsonName : InitKind → String
  | .default => "default"
  | .fromMerge => "fromMerge"
  | .fromSubmerge => "fromSubmerge"

def InitKind.choices : List (String × InitKind) :=
  [InitKind.default, .fromMerge, .fromSubmerge].map fun k => (k.jsonName, k)

def InitKind.ofJson? (value : Json) : Except DataFault InitKind := decodeChoice false choices value

def DirtySet.toJson (s : DirtySet) : Json := .array (s.bits.map .nat)

def Instance.toJson (i : Instance) : Json :=
  .object [("entity", .string i.entity), ("values", i.values.toJson id),
    ("dirty", i.dirty.toJson DirtySet.toJson)]

def Notification.toJson (n : Notification) : Json :=
  .object [("entity", .string n.entity), ("selector", .string n.selector),
    ("kind", .string n.kind.jsonName)]

end EntityModels
