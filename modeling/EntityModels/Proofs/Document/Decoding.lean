import EntityModels.Document.Tree
import EntityModels.Proofs.Except

/-!
What decoding gives, up to its faults: the value that each step decodes to, or nothing.
-/
namespace EntityModels

variable {α : Type}

/-- The path of a fault has no influence on what is decoded. -/
theorem toOption_within (pathStep : PathStep) (decoded : Decoded α) :
    (Decoded.within pathStep decoded).toOption = decoded.toOption := by
  cases decoded <;> rfl

theorem toOption_ofExcept (x : Except DataFault α) :
    (Decoded.ofExcept x).toOption = x.toOption := by
  cases x <;> rfl

/-- The items of a list are decoded one by one. -/
theorem toOption_items (item : Json → Decoded α) (index : Nat) (values : List Json) :
    (Decoded.items item index values).toOption =
      values.mapM fun value => (item value).toOption := by
  induction values generalizing index with
  | nil => rfl
  | cons value values ih =>
    rw [Decoded.items, toOption_bind, toOption_within, List.mapM_cons]
    refine bind_congr fun x => ?_
    rw [toOption_bind, ih]
    rfl

theorem toOption_fail (fault : DataFault) : (Decoded.fail fault : Decoded α).toOption = none := rfl

/-- The items of a list, each decoded. -/
def decodeItems (decode : Json → Option α) : Json → Option (List α)
  | .array values => values.mapM decode
  | _ => none

theorem toOption_list (item : Json → Decoded α) (value : Json) :
    (Decoded.list item value).toOption =
      decodeItems (fun value => (item value).toOption) value := by
  cases value with
  | array values => exact toOption_items item 0 values
  | _ => rfl

theorem toOption_once (name : String) (current : Option α) (decoded : Decoded α) :
    (Decoded.once name current decoded).toOption =
      if current.isSome then none else some <$> decoded.toOption := by
  rw [Decoded.once]
  split
  · rfl
  · rw [toOption_map, toOption_within]

theorem toOption_nodeOnce {α : Type} (name : String) (current : Option α)
    (decoded : Except DataFault α) :
    (NodeFields.once name current decoded).toOption =
      if current.isSome then none else some <$> decoded.toOption := by
  rw [NodeFields.once]
  split
  · rfl
  · rw [toOption_map]

/-- A member that may be left out may also be null. -/
theorem toOption_optional {β : Type} (value : Json) (decoded : Except DataFault β) :
    (NodeFields.optional value decoded).toOption =
      match value with
      | .null => some none
      | _ => some <$> decoded.toOption := by
  cases value with
  | null => rfl
  | _ => exact toOption_map _ _

/-- The values under undeclared keys are given by a flag or by a shape. -/
theorem toOption_additionalOf (value : Json) (node : Except DataFault Node) :
    (NodeFields.additionalOf value node).toOption =
      match value with
      | .bool allowed => some (.flag allowed)
      | _ => .shape <$> node.toOption := by
  cases value <;> cases node <;> rfl

/-- Members are put one by one, up to the first that cannot be. -/
theorem toOption_foldlM {σ β : Type} (put : σ → β → Decoded σ) (init : σ) (members : List β) :
    (members.foldlM put init).toOption =
      members.foldlM (fun state member => (put state member).toOption) init := by
  induction members generalizing init with
  | nil => rfl
  | cons member members ih =>
    rw [List.foldlM_cons, List.foldlM_cons, toOption_bind]
    exact bind_congr fun state => ih state

/-- A document must have entries. -/
def requireEntities : Option (List EntityEntry) → Except DataFault (List EntityEntry)
  | some entities => .ok entities
  | none => .error (.missingField "entities")

theorem entriesOfJson?_object (members : List (String × Json)) :
    entriesOfJson? (.object members) =
      members.foldlM putEntities none >>= fun entities => .ofExcept (requireEntities entities) := by
  rw [entriesOfJson?]
  refine bind_congr fun entities => ?_
  cases entities <;> rfl

end EntityModels
