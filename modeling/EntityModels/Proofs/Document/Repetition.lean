import EntityModels.Proofs.Document.Members
import EntityModels.Proofs.Document.Reading

/-!
Decoding a value as it stands, and decoding it settled. A value in which some object repeats a
member of its form is refused as it stands; any other value gives the same settled.
-/
namespace EntityModels

namespace Form

/-- What a value of a form decodes to. -/
def Value : Form → Type
  | .node => Node
  | .property => PropertyEntry
  | .entity => EntityEntry
  | .document => List EntityEntry
  | .sequence item => List item.Value

/-- Decodes a value of a form, up to faults. -/
def decode : (form : Form) → Json → Option form.Value
  | .node => fun value => (Node.ofJson? value).toOption
  | .property => fun value => (PropertyEntry.ofJson? value).toOption
  | .entity => fun value => (EntityEntry.ofJson? value).toOption
  | .document => fun value => (entriesOfJson? value).toOption
  | .sequence item => decodeItems item.decode

/-- In list form the items of a node are its keywords in order, and there may be no more of them. -/
theorem toOption_node_array (values : List Json) :
    (Node.ofJson? (.array values)).toOption =
      NodeFields.node <$> if values.length ≤ NodeFields.names.length then
        (NodeFields.names.zip values).foldlM nodeMembers.put {} else none := by
  rw [Node.ofJson?, toOption_map, toOption_decodeItems]

/-- The list form of an entity entry is its object form with the names in order, if it is neither
empty nor too long. -/
theorem decode_entity_array (values : List Json) :
    Form.entity.decode (.array values) =
      if values.length ≤ entityNames.length then
        Form.entity.decode (.object (entityNames.zip values)) else none := by
  change (EntityEntry.ofJson? (.array values)).toOption = if values.length ≤ entityNames.length then
    (EntityEntry.ofJson? (.object (entityNames.zip values))).toOption else none
  rw [toOption_entityOfItems, toOption_entity_object]
  -- one case for each length up to that of the list form, and one for anything longer
  rcases values with _ | ⟨v₀, _ | ⟨v₁, _ | ⟨v₂, _ | ⟨v₃, _ | ⟨v₄, _ | ⟨v₅, rest⟩⟩⟩⟩⟩⟩
  · rfl
  all_goals
    simp [entityOfItems, Reader.nextItem, Reader.noItem, entityNames, entityMembers,
      EntityFields.put, EntityFields.entry, toOption_map, toOption_once, toOption_pure,
      Option.bind_map, Option.bind_assoc, Function.comp_def]

/-- The list form of a document is its object form, if it has one item. -/
theorem decode_document_array (values : List Json) :
    Form.document.decode (.array values) =
      if values.length ≤ documentNames.length then
        Form.document.decode (.object (documentNames.zip values)) else none := by
  change (entriesOfJson? (.array values)).toOption = if values.length ≤ documentNames.length then
    (entriesOfJson? (.object (documentNames.zip values))).toOption else none
  rw [toOption_entriesOfItems, toOption_document_object]
  rcases values with _ | ⟨v₀, _ | ⟨v₁, rest⟩⟩
  · rfl
  all_goals
    simp [entriesOfItems, Reader.nextItem, Reader.noItem, documentNames, documentMembers,
      putEntities, requireEntities, toOption_once, toOption_ok, Option.bind_map, Function.comp_def]

/-- Only objects and lists have members to repeat. -/
theorem Repeats.isContainer {form : Form} {value : Json} (h : form.Repeats value) :
    (∃ members, value = .object members) ∨ ∃ values, value = .array values := by
  cases h with
  | here | member => exact .inl ⟨_, rfl⟩
  | position | item => exact .inr ⟨_, rfl⟩

/-- What a member gives that may be null and otherwise holds a part. -/
theorem Repeats.optional_eq_none {α : Type} {form : Form} {value : Json} (h : form.Repeats value)
    {decoded : Except DataFault α} (hnone : decoded.toOption = none) :
    (NodeFields.optional value decoded).toOption = none := by
  rw [toOption_optional, hnone]
  rcases h.isContainer with ⟨_, rfl⟩ | ⟨_, rfl⟩ <;> rfl

/-- What repeats a member is no flag, so it is refused as a shape. -/
theorem Repeats.additionalOf_eq_none {form : Form} {value : Json} (h : form.Repeats value)
    {node : Except DataFault Node} (hnone : node.toOption = none) :
    (NodeFields.additionalOf value node).toOption = none := by
  rw [toOption_additionalOf, hnone]
  rcases h.isContainer with ⟨_, rfl⟩ | ⟨_, rfl⟩ <;> rfl

variable {name : String} {value : Json} {part : Form}

/-- A keyword whose value is refused cannot be put. -/
theorem nodeMembers_put_eq_none (hpart : Form.node.part? name = some part)
    (hrepeats : part.Repeats value) (hnone : part.decode value = none) (fields : NodeFields) :
    nodeMembers.put fields (name, value) = none := by
  simp only [part?] at hpart
  split at hpart
  case isFalse => contradiction
  case isTrue hname =>
    obtain rfl := Option.some.inj hpart
    have hnode : (Node.ofJson? value).toOption = none := hnone
    rcases hname with rfl | rfl
    · have hitems := hrepeats.optional_eq_none hnode
      simp [nodeMembers, NodeFields.put, toOption_map, toOption_nodeOnce, hitems]
    · have hadditional := hrepeats.optional_eq_none (hrepeats.additionalOf_eq_none hnode)
      simp [nodeMembers, NodeFields.put, toOption_map, toOption_nodeOnce, hadditional]

theorem entityMembers_put_eq_none (hpart : Form.entity.part? name = some part)
    (hrepeats : part.Repeats value) (hnone : part.decode value = none) (fields : EntityFields) :
    entityMembers.put fields (name, value) = none := by
  simp only [part?] at hpart
  split at hpart
  case isTrue hname =>
    subst hname
    obtain rfl := Option.some.inj hpart
    have hproperties : (Decoded.list PropertyEntry.ofJson? value).toOption = none :=
      (toOption_list _ _).trans hnone
    simp [entityMembers, EntityFields.put, toOption_map, toOption_once, hproperties]
  split at hpart
  case isTrue hname =>
    subst hname
    obtain rfl := Option.some.inj hpart
    have hadditional : (optionalAdditional value).toOption = none :=
      (toOption_ofExcept _).trans
        (hrepeats.optional_eq_none (hrepeats.additionalOf_eq_none hnone))
    simp [entityMembers, EntityFields.put, toOption_map, toOption_once, hadditional]
  case isFalse => contradiction

theorem documentMembers_put_eq_none (hpart : Form.document.part? name = some part)
    (hnone : part.decode value = none) (entities : Option (List EntityEntry)) :
    documentMembers.put entities (name, value) = none := by
  simp only [part?] at hpart
  split at hpart
  case isTrue hname =>
    subst hname
    obtain rfl := Option.some.inj hpart
    have hentities : (Decoded.list EntityEntry.ofJson? value).toOption = none :=
      (toOption_list _ _).trans hnone
    simp [documentMembers, putEntities, toOption_once, hentities]
  case isFalse => contradiction

/-- One item that is refused refuses the list. -/
theorem mapM_eq_none_of_mem {α : Type} {decode : Json → Option α} {values : List Json}
    {value : Json} (hmem : value ∈ values) (h : decode value = none) :
    values.mapM decode = none := by
  induction values with
  | nil => simp at hmem
  | cons first rest ih =>
    rw [List.mapM_cons]
    rcases List.mem_cons.mp hmem with rfl | hmem
    · rw [h]
      rfl
    · rw [ih hmem]
      cases decode first <;> rfl

/-- Where the members of an object are not put, the object is not decoded. -/
theorem decode_object_eq_none {form : Form} {members : List (String × Json)}
    (h : match form with
      | .node => members.foldlM nodeMembers.put {} = none
      | .property => members.foldlM propertyMembers.put {} = none ∨
          members.foldlM nodeMembers.put {} = none
      | .entity => members.foldlM entityMembers.put {} = none
      | .document => members.foldlM documentMembers.put none = none
      | .sequence _ => True) : form.decode (.object members) = none := by
  cases form with
  | node => exact (toOption_node_object members).trans (by rw [h]; rfl)
  | property =>
    refine (toOption_property_object members).trans ?_
    rcases h with hown | hnode
    · rw [hown]
      rfl
    · rw [hnode]
      cases members.foldlM propertyMembers.put {} with
      | none => rfl
      | some own =>
        obtain ⟨_ | name, description, others⟩ := own
        · rfl
        · rfl
  | entity => exact (toOption_entity_object members).trans (by rw [h]; rfl)
  | document => exact (toOption_document_object members).trans (by rw [h]; rfl)
  | sequence item => rfl

/-- A value with a repeated member is refused. -/
theorem Repeats.decode_eq_none {form : Form} {value : Json} (h : form.Repeats value) :
    form.decode value = none := by
  induction h with
  | @here form members name hname htwice =>
    apply decode_object_eq_none
    cases form with
    | node => exact nodeMembers.foldlM_of_repeated hname htwice
    | property =>
      rcases List.mem_append.mp hname with hown | hnode
      · exact .inl (propertyMembers.foldlM_of_repeated hown htwice)
      · exact .inr (nodeMembers.foldlM_of_repeated hnode htwice)
    | entity => exact entityMembers.foldlM_of_repeated hname htwice
    | document => exact documentMembers.foldlM_of_repeated hname htwice
    | sequence item => trivial
  | @member form part members name value hmem hpart hrepeats ih =>
    apply decode_object_eq_none
    cases form with
    | node => exact foldlM_eq_none_of_mem hmem (nodeMembers_put_eq_none hpart hrepeats ih) _
    | property =>
      exact .inr (foldlM_eq_none_of_mem hmem (nodeMembers_put_eq_none hpart hrepeats ih) _)
    | entity => exact foldlM_eq_none_of_mem hmem (entityMembers_put_eq_none hpart hrepeats ih) _
    | document => exact foldlM_eq_none_of_mem hmem (documentMembers_put_eq_none hpart ih) _
    | sequence item => trivial
  | @position form part values name value hmem hpart hrepeats ih =>
    cases form with
    | property | sequence => simp [positions] at hmem
    | node =>
      have hput : (NodeFields.names.zip values).foldlM nodeMembers.put {} = none :=
        foldlM_eq_none_of_mem hmem (nodeMembers_put_eq_none hpart hrepeats ih) _
      exact (toOption_node_array values).trans (by rw [hput, ite_self]; rfl)
    | entity =>
      have hobject : Form.entity.decode (.object (entityNames.zip values)) = none :=
        decode_object_eq_none
          (foldlM_eq_none_of_mem hmem (entityMembers_put_eq_none hpart hrepeats ih) _)
      rw [decode_entity_array, hobject, ite_self]
    | document =>
      have hobject : Form.document.decode (.object (documentNames.zip values)) = none :=
        decode_object_eq_none (foldlM_eq_none_of_mem hmem (documentMembers_put_eq_none hpart ih) _)
      rw [decode_document_array, hobject, ite_self]
  | @item form values value hmem hrepeats ih => exact mapM_eq_none_of_mem hmem ih

theorem decodeOptionalText_lastWins (value : Json) :
    decodeOptionalText value.lastWins = decodeOptionalText value := by
  cases value <;> simp [Json.lastWins, decodeOptionalText, decodeText, Json.found]

theorem decodeText_lastWins (value : Json) : decodeText value.lastWins = decodeText value := by
  cases value <;> simp [Json.lastWins, decodeText, Json.found]

/-- Settling a value does not change whether it is null. -/
theorem optional_lastWins {α : Type} {settled decoded : Except DataFault α}
    (h : settled.toOption = decoded.toOption) (value : Json) :
    (NodeFields.optional value.lastWins settled).toOption =
      (NodeFields.optional value decoded).toOption := by
  rw [toOption_optional, toOption_optional, h]
  cases value <;> simp [Json.lastWins]

/-- Settling a value does not change whether it is a flag. -/
theorem additionalOf_lastWins {settled decoded : Except DataFault Node}
    (h : settled.toOption = decoded.toOption) (value : Json) :
    (NodeFields.additionalOf value.lastWins settled).toOption =
      (NodeFields.additionalOf value decoded).toOption := by
  rw [toOption_additionalOf, toOption_additionalOf, h]
  cases value <;> simp [Json.lastWins]

/-- A keyword is put alike before and after its value is settled. -/
theorem nodeMembers_put_settled (h : ∀ part, Form.node.part? name = some part →
    part.decode value.lastWins = part.decode value) (fields : NodeFields) :
    nodeMembers.put fields (settledMember (name, value)) =
      nodeMembers.put fields (name, value) := by
  by_cases hname : name = "items" ∨ name = "additionalProperties"
  · have hnode : (Node.ofJson? value.lastWins).toOption = (Node.ofJson? value).toOption :=
      h .node (if_pos hname)
    rcases hname with rfl | rfl
    · simp [nodeMembers, NodeFields.put, settledMember, toOption_map, toOption_nodeOnce,
        optional_lastWins hnode]
    · simp [nodeMembers, NodeFields.put, settledMember, toOption_map, toOption_nodeOnce,
        optional_lastWins (additionalOf_lastWins hnode value)]
  · obtain ⟨hitems, hadditional⟩ := not_or.mp hname
    simp [nodeMembers, NodeFields.put, settledMember, hitems, hadditional,
      decodeOptionalText_lastWins]

/-- A name or a description is put alike before and after it is settled, for a text has no
members. -/
theorem propertyMembers_put_settled (fields : PropertyFields) :
    propertyMembers.put fields (settledMember (name, value)) =
      propertyMembers.put fields (name, value) := by
  by_cases hname : name ∈ propertyNames
  · simp only [propertyNames, List.mem_cons, List.not_mem_nil, or_false] at hname
    rcases hname with rfl | rfl <;>
      simp [propertyMembers, PropertyFields.put, settledMember, requiredText, optionalText,
        decodeText_lastWins, decodeOptionalText_lastWins]
  · rw [settledMember, propertyMembers.put_of_notMem hname, propertyMembers.put_of_notMem hname]

theorem entityMembers_put_settled (h : ∀ part, Form.entity.part? name = some part →
    part.decode value.lastWins = part.decode value) (fields : EntityFields) :
    entityMembers.put fields (settledMember (name, value)) =
      entityMembers.put fields (name, value) := by
  by_cases hproperties : name = "properties"
  · have hlist : (Decoded.list PropertyEntry.ofJson? value.lastWins).toOption =
        (Decoded.list PropertyEntry.ofJson? value).toOption := by
      rw [toOption_list, toOption_list]
      exact h (.sequence .property) (if_pos hproperties)
    subst hproperties
    simp [entityMembers, EntityFields.put, settledMember, toOption_map, toOption_once, hlist]
  by_cases hadditional : name = "additionalProperties"
  · have hnode : (Node.ofJson? value.lastWins).toOption = (Node.ofJson? value).toOption :=
      h .node ((if_neg hproperties).trans (if_pos hadditional))
    have hoptional : (optionalAdditional value.lastWins).toOption =
        (optionalAdditional value).toOption := by
      rw [optionalAdditional, optionalAdditional, toOption_ofExcept, toOption_ofExcept]
      exact optional_lastWins (additionalOf_lastWins hnode value) value
    subst hadditional
    simp [entityMembers, EntityFields.put, settledMember, toOption_map, toOption_once, hoptional]
  · simp [entityMembers, EntityFields.put, settledMember, hproperties, hadditional, requiredText,
      optionalText, decodeText_lastWins, decodeOptionalText_lastWins]

theorem documentMembers_put_settled (h : ∀ part, Form.document.part? name = some part →
    part.decode value.lastWins = part.decode value) (entities : Option (List EntityEntry)) :
    documentMembers.put entities (settledMember (name, value)) =
      documentMembers.put entities (name, value) := by
  by_cases hname : name = "entities"
  · have hlist : (Decoded.list EntityEntry.ofJson? value.lastWins).toOption =
        (Decoded.list EntityEntry.ofJson? value).toOption := by
      rw [toOption_list, toOption_list]
      exact h (.sequence .entity) (if_pos hname)
    subst hname
    simp [documentMembers, putEntities, settledMember, toOption_once, hlist]
  · simp [documentMembers, putEntities, settledMember, hname]

/-- The items of a list are settled one by one. -/
theorem lastWinsItems_eq_map (values : List Json) :
    Json.lastWinsItems values = values.map Json.lastWins := by
  induction values with
  | nil => simp [Json.lastWinsItems]
  | cons value rest ih => simp [Json.lastWinsItems, ih]

theorem zip_map_lastWins (names : List String) (values : List Json) :
    names.zip (values.map Json.lastWins) = (names.zip values).map settledMember := by
  rw [List.zip_map_right]
  rfl

/-- In list form no member is repeated, so settling the values is all that settling does. -/
theorem foldlM_zip_lastWins {σ : Type} (form : MemberForm σ) {names : List String}
    {values : List Json} (h : ∀ member ∈ names.zip values, ∀ state,
      form.put state (settledMember member) = form.put state member) (state : σ) :
    (names.zip (values.map Json.lastWins)).foldlM form.put state =
      (names.zip values).foldlM form.put state := by
  rw [zip_map_lastWins, List.foldlM_map]
  exact foldlM_congr_of_mem h state

/-- Items that decode alike when they are settled do so as a list. -/
theorem mapM_lastWins {α : Type} {decode : Json → Option α} {values : List Json}
    (h : ∀ value ∈ values, decode value.lastWins = decode value) :
    (values.map Json.lastWins).mapM decode = values.mapM decode := by
  induction values with
  | nil => rfl
  | cons value rest ih =>
    obtain ⟨hvalue, hrest⟩ := List.forall_mem_cons.mp h
    rw [List.map_cons, List.mapM_cons, List.mapM_cons, hvalue, ih hrest]

/-- An object in which nothing is repeated decodes like the settled one, if its parts do. -/
theorem decode_object_lastWins {form : Form} {members : List (String × Json)}
    (h : ¬form.Repeats (.object members))
    (hparts : ∀ member ∈ members, ∀ part : Form, ¬part.Repeats member.2 →
      part.decode member.2.lastWins = part.decode member.2) :
    form.decode (Json.object members).lastWins = form.decode (.object members) := by
  have honce : ∀ name ∈ form.names, occurrences members name ≤ 1 := by
    intro name hname
    by_contra htwice
    exact h (.here hname (by omega))
  have hmember : ∀ member ∈ members, ∀ part : Form, form.part? member.1 = some part →
      part.decode member.2.lastWins = part.decode member.2 := by
    intro member hmem part hpart
    exact hparts member hmem part fun hrepeats => h (.member hmem hpart hrepeats)
  rw [Json.lastWins]
  cases form with
  | node =>
    have hput := nodeMembers.foldlM_lastWins honce
      (fun member hmem => nodeMembers_put_settled (hmember member hmem)) {}
    change (Node.ofJson? (.object _)).toOption = (Node.ofJson? (.object members)).toOption
    rw [toOption_node_object, toOption_node_object, hput]
  | property =>
    have hown : ∀ name ∈ propertyMembers.names, occurrences members name ≤ 1 :=
      fun name hname => honce name (List.mem_append_left _ hname)
    have hnode : ∀ name ∈ nodeMembers.names, occurrences members name ≤ 1 :=
      fun name hname => honce name (List.mem_append_right _ hname)
    have hputOwn := propertyMembers.foldlM_lastWins hown
      (fun member _ => propertyMembers_put_settled) {}
    have hputNode := nodeMembers.foldlM_lastWins hnode
      (fun member hmem => nodeMembers_put_settled (hmember member hmem)) {}
    change (PropertyEntry.ofJson? (.object _)).toOption =
      (PropertyEntry.ofJson? (.object members)).toOption
    rw [toOption_property_object, toOption_property_object, hputOwn, hputNode]
  | entity =>
    have hput := entityMembers.foldlM_lastWins honce
      (fun member hmem => entityMembers_put_settled (hmember member hmem)) {}
    change (EntityEntry.ofJson? (.object _)).toOption =
      (EntityEntry.ofJson? (.object members)).toOption
    rw [toOption_entity_object, toOption_entity_object, hput]
  | document =>
    have hput := documentMembers.foldlM_lastWins honce
      (fun member hmem => documentMembers_put_settled (hmember member hmem)) none
    change (entriesOfJson? (.object _)).toOption = (entriesOfJson? (.object members)).toOption
    rw [toOption_document_object, toOption_document_object, hput]
  | sequence item => rfl

/-- A list in which nothing is repeated decodes like the settled one, if its items do. -/
theorem decode_array_lastWins {form : Form} {values : List Json}
    (h : ¬form.Repeats (.array values))
    (hparts : ∀ value ∈ values, ∀ part : Form, ¬part.Repeats value →
      part.decode value.lastWins = part.decode value) :
    form.decode (Json.array values).lastWins = form.decode (.array values) := by
  have hmember : ∀ member ∈ form.positions.zip values, ∀ part : Form,
      form.part? member.1 = some part → part.decode member.2.lastWins = part.decode member.2 := by
    intro member hmem part hpart
    exact hparts member.2 (List.of_mem_zip hmem).2 part fun hrepeats =>
      h (.position hmem hpart hrepeats)
  rw [Json.lastWins, lastWinsItems_eq_map]
  cases form with
  | node =>
    have hzip : (NodeFields.names.zip (values.map Json.lastWins)).foldlM nodeMembers.put {} =
        (NodeFields.names.zip values).foldlM nodeMembers.put {} :=
      foldlM_zip_lastWins nodeMembers
        (fun member hmem => nodeMembers_put_settled (hmember member hmem)) {}
    change (Node.ofJson? (.array _)).toOption = (Node.ofJson? (.array values)).toOption
    rw [toOption_node_array, toOption_node_array, List.length_map, hzip]
  | property => rfl
  | entity =>
    have hobject : Form.entity.decode (.object (entityNames.zip (values.map Json.lastWins))) =
        Form.entity.decode (.object (entityNames.zip values)) := by
      have hzip := foldlM_zip_lastWins entityMembers
        (fun member hmem => entityMembers_put_settled (hmember member hmem)) {}
      change (EntityEntry.ofJson? (.object _)).toOption = (EntityEntry.ofJson? (.object _)).toOption
      rw [toOption_entity_object, toOption_entity_object]
      exact congrArg (· >>= _) hzip
    rw [decode_entity_array, decode_entity_array, List.length_map, hobject]
  | document =>
    have hobject : Form.document.decode (.object (documentNames.zip (values.map Json.lastWins))) =
        Form.document.decode (.object (documentNames.zip values)) := by
      have hzip := foldlM_zip_lastWins documentMembers
        (fun member hmem => documentMembers_put_settled (hmember member hmem)) none
      change (entriesOfJson? (.object _)).toOption = (entriesOfJson? (.object _)).toOption
      rw [toOption_document_object, toOption_document_object]
      exact congrArg (· >>= _) hzip
    rw [decode_document_array, decode_document_array, List.length_map, hobject]
  | sequence item =>
    apply mapM_lastWins
    intro value hmem
    exact hparts value hmem item fun hrepeats => h (.item hmem hrepeats)

/-- A value in which nothing is repeated decodes like the settled one. -/
theorem decode_lastWins {form : Form} : (value : Json) → ¬form.Repeats value →
    form.decode value.lastWins = form.decode value
  | .array values, h => decode_array_lastWins h fun item hmem part hpart =>
    have hsize := List.sizeOf_lt_of_mem hmem
    decode_lastWins item hpart
  | .object members, h => decode_object_lastWins h fun member hmem part hpart =>
    have hsize := List.sizeOf_lt_of_mem hmem
    decode_lastWins member.2 hpart
  | .null, _ | .bool _, _ | .number _, _ | .string _, _ => by simp only [Json.lastWins]
termination_by value => sizeOf value
decreasing_by
  · simp only [Json.array.sizeOf_spec]
    omega
  · obtain ⟨name, value⟩ := member
    simp only [Json.object.sizeOf_spec, Prod.mk.sizeOf_spec] at hsize ⊢
    omega

end Form

end EntityModels
