import EntityModels.Proofs.Document.Decoding
import EntityModels.Proofs.Document.Forms
import EntityModels.Proofs.Record

/-!
Members that an object repeats. A reader that decodes members one by one refuses the second member
of a name of its form and ignores all others, while a settled object has the last value of each
name.
-/
namespace EntityModels

variable {σ : Type}

/-- A way to put the members of an object one by one. Members of other names are ignored, and a
member of one of the names is put once. -/
structure MemberForm (σ : Type) where
  names : List String
  put : σ → String × Json → Option σ
  holds : σ → String → Prop
  put_of_notMem : ∀ {state name value}, name ∉ names → put state (name, value) = some state
  holds_put : ∀ {state state' name value}, name ∈ names →
    put state (name, value) = some state' →
    ¬holds state name ∧ ∀ other, holds state' other ↔ holds state other ∨ other = name

/-- A member with its value settled. -/
def settledMember (member : String × Json) : String × Json := (member.1, member.2.lastWins)

theorem foldlM_eq_none_of_mem {put : σ → String × Json → Option σ} {members : List (String × Json)}
    {member : String × Json} (hmem : member ∈ members) (h : ∀ state, put state member = none)
    (state : σ) : members.foldlM put state = none := by
  induction members generalizing state with
  | nil => simp at hmem
  | cons first rest ih =>
    rw [List.foldlM_cons]
    rcases List.mem_cons.mp hmem with rfl | hmem
    · rw [h]
      rfl
    · cases put state first with
      | none => rfl
      | some state' => exact ih hmem state'

/-- Steps that agree on the members of a list put them alike. -/
theorem foldlM_congr_of_mem {put put' : σ → String × Json → Option σ}
    {members : List (String × Json)}
    (h : ∀ member ∈ members, ∀ state, put state member = put' state member) (state : σ) :
    members.foldlM put state = members.foldlM put' state := by
  induction members generalizing state with
  | nil => rfl
  | cons first rest ih =>
    obtain ⟨hfirst, hrest⟩ := List.forall_mem_cons.mp h
    rw [List.foldlM_cons, List.foldlM_cons, hfirst]
    exact bind_congr fun state' => ih hrest state'

/-- Putting a member of another name changes nothing about the members of these names. -/
theorem filter_putEntry_of_notMem {names : List String} {name : String} (h : name ∉ names)
    (value : Json) (settled : List (String × Json)) :
    (putEntry name value settled).filter (·.1 ∈ names) = settled.filter (·.1 ∈ names) := by
  induction settled with
  | nil => simp [putEntry, h]
  | cons member rest ih =>
    obtain ⟨other, v⟩ := member
    by_cases hother : other = name
    · subst hother
      simp [putEntry, h]
    · simp only [putEntry, hother, if_false, List.filter_cons, ih]

/-- Putting a member into what is settled makes no name more frequent. -/
theorem occurrences_putEntry_le (name other : String) (value : Json)
    (settled rest : List (String × Json)) :
    occurrences (putEntry name value settled ++ rest) other ≤
      occurrences (settled ++ (name, value) :: rest) other := by
  simp only [occurrences, List.map_append, List.map_cons, List.count_append, List.count_cons,
    map_fst_putEntry]
  split
  · omega
  · rw [List.count_append, List.count_cons, List.count_nil]
    omega

/-- The members of some names in a settled object, where none of them is repeated: in place, with
settled values. -/
theorem filter_lastWinsMembers (names : List String) (members settled : List (String × Json))
    (h : ∀ name ∈ names, occurrences (settled ++ members) name ≤ 1) :
    (Json.lastWinsMembers members settled).filter (·.1 ∈ names) =
      settled.filter (·.1 ∈ names) ++
        (members.filter (·.1 ∈ names)).map settledMember := by
  -- names are counted in what is settled and what is left together
  induction members generalizing settled with
  | nil => simp [Json.lastWinsMembers]
  | cons member rest ih =>
    obtain ⟨name, value⟩ := member
    rw [Json.lastWinsMembers]
    by_cases hname : name ∈ names
    · have habsent : name ∉ settled.map (·.1) := by
        intro hmem
        have hpos := List.count_pos_iff.mpr hmem
        have honce := h name hname
        simp only [occurrences, List.map_append, List.map_cons, List.count_append,
          List.count_cons_self] at honce
        omega
      rw [putEntry_of_notMem _ habsent, ih _ fun other hother => ?_]
      · simp [hname, settledMember]
      · simpa [occurrences] using h other hother
    · have honce (other : String) (hother : other ∈ names) :
          occurrences (putEntry name value.lastWins settled ++ rest) other ≤ 1 :=
        Nat.le_trans (occurrences_putEntry_le name other _ settled rest)
          (by simpa [occurrences] using h other hother)
      rw [ih _ honce, filter_putEntry_of_notMem hname]
      simp [hname]

/-- Under each name of a settled object stands the last value that the object had there, settled. -/
theorem firstOf_lastWinsMembers (members settled : List (String × Json)) (name : String) :
    Record.firstOf (Json.lastWinsMembers members settled) name =
      ((Record.firstOf members.reverse name).map Json.lastWins).or
        (Record.firstOf settled name) := by
  induction members generalizing settled with
  | nil => rfl
  | cons member rest ih =>
    obtain ⟨other, value⟩ := member
    have hreverse : Record.firstOf ((other, value) :: rest).reverse name =
        (Record.firstOf rest.reverse name).or (Record.firstOf [(other, value)] name) := by
      rw [List.reverse_cons, Record.firstOf, List.find?_append, Option.map_or]
      rfl
    rw [Json.lastWinsMembers, ih, Record.firstOf_putEntry, hreverse, Option.map_or,
      Option.or_assoc, Record.firstOf_cons]
    by_cases h : other = name
    · simp [h]
    · have h' : name ≠ other := fun e => h e.symm
      simp [Record.firstOf, h, h']

namespace MemberForm

variable (form : MemberForm σ) {members : List (String × Json)}

/-- Members of other names make no difference. -/
theorem foldlM_filter (members : List (String × Json)) (state : σ) :
    (members.filter (·.1 ∈ form.names)).foldlM form.put state = members.foldlM form.put state := by
  induction members generalizing state with
  | nil => rfl
  | cons member rest ih =>
    obtain ⟨name, value⟩ := member
    by_cases hname : name ∈ form.names
    · rw [List.filter_cons_of_pos (by simpa using hname), List.foldlM_cons, List.foldlM_cons]
      exact bind_congr fun state' => ih state'
    · rw [List.filter_cons_of_neg (by simpa using hname), List.foldlM_cons,
        form.put_of_notMem hname, ih]
      rfl

/-- Where no name of the form is repeated and each member gives the same settled, so does the
settled object. -/
theorem foldlM_lastWins (honce : ∀ name ∈ form.names, occurrences members name ≤ 1)
    (hsettled : ∀ member ∈ members, ∀ state,
      form.put state (settledMember member) = form.put state member) (state : σ) :
    (Json.lastWinsMembers members []).foldlM form.put state = members.foldlM form.put state := by
  have hfilter := filter_lastWinsMembers form.names members [] honce
  rw [← form.foldlM_filter, hfilter, List.filter_nil, List.nil_append, List.foldlM_map,
    ← form.foldlM_filter members]
  exact foldlM_congr_of_mem (fun member hmem => hsettled member (List.mem_filter.mp hmem).1) state

variable {form} {name : String} {state : σ}

/-- A name that has been put is not put again. -/
theorem foldlM_of_holds (hname : name ∈ form.names) (hholds : form.holds state name)
    (hmem : name ∈ members.map (·.1)) : members.foldlM form.put state = none := by
  induction members generalizing state with
  | nil => simp at hmem
  | cons member rest ih =>
    obtain ⟨other, value⟩ := member
    rw [List.foldlM_cons]
    cases hput : form.put state (other, value) with
    | none => rfl
    | some state' =>
      by_cases hother : other ∈ form.names
      · obtain ⟨hfree, hstate'⟩ := form.holds_put hother hput
        rcases List.mem_cons.mp hmem with rfl | hmem
        · exact absurd hholds hfree
        · exact ih ((hstate' name).mpr (.inl hholds)) hmem
      · obtain rfl : state = state' :=
          Option.some.inj ((form.put_of_notMem hother).symm.trans hput)
        rcases List.mem_cons.mp hmem with rfl | hmem
        · exact absurd hname hother
        · exact ih hholds hmem

/-- A repeated name of the form is refused. -/
theorem foldlM_of_repeated (hname : name ∈ form.names) (h : 2 ≤ occurrences members name) :
    members.foldlM form.put state = none := by
  induction members generalizing state with
  | nil => simp [occurrences] at h
  | cons member rest ih =>
    obtain ⟨other, value⟩ := member
    rw [List.foldlM_cons]
    cases hput : form.put state (other, value) with
    | none => rfl
    | some state' =>
      by_cases hother : other = name
      · -- the first of them is put, and then the form holds the name
        subst hother
        have hstate' := (form.holds_put hname hput).2 other
        refine foldlM_of_holds hname (hstate'.mpr (.inr rfl)) (List.count_pos_iff.mp ?_)
        simp only [occurrences, List.map_cons, List.count_cons_self] at h
        omega
      · exact ih (by simpa [occurrences, List.count_cons, hother] using h)

end MemberForm

/-- Whether a member of that name has been put. -/
def NodeFields.has (fields : NodeFields) (name : String) : Bool :=
  if name = "type" then fields.type.isSome
  else if name = "format" then fields.format.isSome
  else if name = "items" then fields.items.isSome
  else if name = "additionalProperties" then fields.additional.isSome
  else if name = "$ref" then fields.reference.isSome
  else false

/-- What is put once is put where nothing was. -/
theorem eq_none_of_putOnce {α : Type} {current put : Option α} {decoded : Option α}
    (h : (if current.isSome then none else some <$> decoded) = some put) :
    current = none ∧ ∃ a, put = some a := by
  cases current with
  | some _ => contradiction
  | none =>
    obtain ⟨a, -, rfl⟩ := Option.map_eq_some_iff.mp h
    exact ⟨rfl, a, rfl⟩

/-- A keyword that can be put was not there before. -/
theorem nodeOnce_eq_ok {α : Type} {name : String} {current put : Option α}
    {decoded : Except DataFault α} (h : NodeFields.once name current decoded = .ok put) :
    current = none ∧ ∃ a, put = some a :=
  eq_none_of_putOnce ((toOption_nodeOnce ..).symm.trans (toOption_eq_some_iff.mpr h))

def nodeMembers : MemberForm NodeFields where
  names := NodeFields.names
  put fields member := (fields.put member.1 member.2 (Node.ofJson? member.2)).toOption
  holds fields name := fields.has name
  put_of_notMem := by
    intro fields name value hname
    simp only [NodeFields.names, List.mem_cons, List.not_mem_nil, or_false, not_or] at hname
    simp only [NodeFields.put, hname, if_false]
    rfl
  holds_put := by
    intro fields fields' name value hname hput
    rw [toOption_eq_some_iff, NodeFields.put] at hput
    dsimp only at hput
    simp only [NodeFields.names, List.mem_cons, List.not_mem_nil, or_false] at hname
    rcases hname with rfl | rfl | rfl | rfl | rfl
    all_goals
      obtain ⟨put, honce, hfields'⟩ := bind_eq_ok_iff.mp hput
      obtain ⟨hnone, a, rfl⟩ := nodeOnce_eq_ok honce
      obtain rfl := Except.ok.inj hfields'
      refine ⟨by simp [NodeFields.has, hnone], fun other => ?_⟩
      simp only [NodeFields.has, Option.isSome_some]
      grind

/-- Up to its faults, a node is decoded by putting its members one by one. -/
theorem toOption_decodeMembers (fields : NodeFields) (members : List (String × Json)) :
    (Node.decodeMembers fields members).toOption = members.foldlM nodeMembers.put fields := by
  induction members generalizing fields with
  | nil => rw [Node.decodeMembers]; rfl
  | cons member rest ih =>
    obtain ⟨name, value⟩ := member
    rw [Node.decodeMembers, toOption_bind, List.foldlM_cons]
    exact bind_congr fun fields' => ih fields'

/-- The list form of a node is its object form with the names in order, if it is not too long. -/
theorem toOption_decodeItems (length : Nat) (names : List String) (fields : NodeFields)
    (items : List Json) :
    (Node.decodeItems length names fields items).toOption =
      if items.length ≤ names.length then (names.zip items).foldlM nodeMembers.put fields
      else none := by
  induction items generalizing names fields with
  | nil => rw [Node.decodeItems, List.zip_nil_right]; rfl
  | cons value rest ih =>
    cases names with
    | nil => rw [Node.decodeItems]; rfl
    | cons name names =>
      rw [Node.decodeItems, toOption_bind, List.zip_cons_cons, List.foldlM_cons]
      simp only [ih, List.length_cons, Nat.add_le_add_iff_right]
      split
      · rfl
      · cases (fields.put name value (Node.ofJson? value)).toOption <;> rfl

/-- A node is made of the fields into which its members are put. -/
theorem toOption_node_object (members : List (String × Json)) :
    (Node.ofJson? (.object members)).toOption =
      NodeFields.node <$> members.foldlM nodeMembers.put {} := by
  rw [Node.ofJson?, toOption_map, toOption_decodeMembers]

theorem once_eq_ok {α : Type} {name : String} {current put : Option α} {decoded : Decoded α}
    (h : Decoded.once name current decoded = .ok put) : current = none ∧ ∃ a, put = some a :=
  eq_none_of_putOnce ((toOption_once ..).symm.trans (toOption_eq_some_iff.mpr h))

/-- Whether a member of that name has been put. -/
def PropertyFields.has (fields : PropertyFields) (name : String) : Bool :=
  if name = "name" then fields.name.isSome
  else if name = "description" then fields.description.isSome
  else false

def propertyMembers : MemberForm PropertyFields where
  names := propertyNames
  put fields member :=
    if member.1 ∈ propertyNames then (fields.put member).toOption else some fields
  holds fields name := fields.has name
  put_of_notMem := by
    intro fields name value hname
    exact if_neg hname
  holds_put := by
    intro fields fields' name value hname hput
    rw [if_pos hname, toOption_eq_some_iff, PropertyFields.put] at hput
    simp only [propertyNames, List.mem_cons, List.not_mem_nil, or_false] at hname
    rcases hname with rfl | rfl
    all_goals
      obtain ⟨put, honce, hfields'⟩ := bind_eq_ok_iff.mp hput
      obtain ⟨hnone, a, rfl⟩ := once_eq_ok honce
      obtain rfl := Except.ok.inj hfields'
      refine ⟨by simp [PropertyFields.has, hnone], fun other => ?_⟩
      simp only [PropertyFields.has, Option.isSome_some]
      grind

/-- Whether a member of that name has been put. -/
def EntityFields.has (fields : EntityFields) (name : String) : Bool :=
  if name = "name" then fields.name.isSome
  else if name = "parent" then fields.parent.isSome
  else if name = "description" then fields.description.isSome
  else if name = "properties" then fields.properties.isSome
  else if name = "additionalProperties" then fields.additional.isSome
  else false

def entityMembers : MemberForm EntityFields where
  names := entityNames
  put fields member := (fields.put member).toOption
  holds fields name := fields.has name
  put_of_notMem := by
    intro fields name value hname
    simp only [entityNames, List.mem_cons, List.not_mem_nil, or_false, not_or] at hname
    simp only [EntityFields.put, hname, if_false]
    rfl
  holds_put := by
    intro fields fields' name value hname hput
    rw [toOption_eq_some_iff, EntityFields.put] at hput
    simp only [entityNames, List.mem_cons, List.not_mem_nil, or_false] at hname
    rcases hname with rfl | rfl | rfl | rfl | rfl
    all_goals
      obtain ⟨put, honce, hfields'⟩ := bind_eq_ok_iff.mp hput
      obtain ⟨hnone, a, rfl⟩ := once_eq_ok honce
      obtain rfl := Except.ok.inj hfields'
      refine ⟨by simp [EntityFields.has, hnone], fun other => ?_⟩
      simp only [EntityFields.has, Option.isSome_some]
      grind

def documentMembers : MemberForm (Option (List EntityEntry)) where
  names := documentNames
  put entities member := (putEntities entities member).toOption
  holds entities name := entities.isSome ∧ name = "entities"
  put_of_notMem := by
    intro entities name value hname
    simp only [documentNames, List.mem_cons, List.not_mem_nil, or_false] at hname
    simp only [putEntities, hname, if_false]
    rfl
  holds_put := by
    intro entities entities' name value hname hput
    obtain rfl := List.mem_singleton.mp hname
    rw [toOption_eq_some_iff, putEntities, if_pos rfl] at hput
    obtain ⟨hnone, a, rfl⟩ := once_eq_ok hput
    simp [hnone]

theorem toOption_entity_object (members : List (String × Json)) :
    (EntityEntry.ofJson? (.object members)).toOption =
      members.foldlM entityMembers.put {} >>= fun fields => fields.entry.toOption := by
  rw [EntityEntry.ofJson?, toOption_bind, toOption_foldlM]
  exact bind_congr fun fields => toOption_ofExcept _

theorem toOption_document_object (members : List (String × Json)) :
    (entriesOfJson? (.object members)).toOption =
      members.foldlM documentMembers.put none >>= fun entities =>
        (requireEntities entities).toOption := by
  rw [entriesOfJson?_object, toOption_bind, toOption_foldlM]
  exact bind_congr fun entities => toOption_ofExcept _

/-- Whether a member of a property entry belongs to its node. -/
def belongsToNode (member : String × Json) : Bool := member.1 ∉ propertyNames

/-- The members of a property entry's node are kept in order, beside its own. -/
theorem foldlM_propertyPut (members : List (String × Json)) (fields : PropertyFields) :
    members.foldlM (fun fields member => (PropertyFields.put fields member).toOption) fields =
      (fun own : PropertyFields =>
        { own with others := (members.filter belongsToNode).reverse ++ fields.others }) <$>
          members.foldlM propertyMembers.put { fields with others := [] } := by
  induction members generalizing fields with
  | nil => rfl
  | cons member rest ih =>
    obtain ⟨name, value⟩ := member
    rw [List.foldlM_cons, List.foldlM_cons]
    by_cases hname : name ∈ propertyNames
    · have hfilter : ((name, value) :: rest).filter belongsToNode = rest.filter belongsToNode :=
        List.filter_cons_of_neg (by simpa [belongsToNode] using hname)
      rw [hfilter]
      simp only [propertyNames, List.mem_cons, List.not_mem_nil, or_false] at hname
      rcases hname with rfl | rfl
      · have hput : (PropertyFields.put fields ("name", value)).toOption =
            (fun put => { fields with name := put }) <$>
              (Decoded.once "name" fields.name (requiredText value)).toOption := toOption_map _ _
        have hown : propertyMembers.put { fields with others := [] } ("name", value) =
            (fun put => { fields with name := put, others := [] }) <$>
              (Decoded.once "name" fields.name (requiredText value)).toOption := toOption_map _ _
        rw [hput, hown]
        cases (Decoded.once "name" fields.name (requiredText value)).toOption with
        | none => rfl
        | some put => exact ih { fields with name := put }
      · have hput : (PropertyFields.put fields ("description", value)).toOption =
            (fun put => { fields with description := put }) <$>
              (Decoded.once "description" fields.description (optionalText value)).toOption :=
          toOption_map _ _
        have hown : propertyMembers.put { fields with others := [] } ("description", value) =
            (fun put => { fields with description := put, others := [] }) <$>
              (Decoded.once "description" fields.description (optionalText value)).toOption :=
          toOption_map _ _
        rw [hput, hown]
        cases (Decoded.once "description" fields.description (optionalText value)).toOption with
        | none => rfl
        | some put => exact ih { fields with description := put }
    · have hfilter : ((name, value) :: rest).filter belongsToNode =
          (name, value) :: rest.filter belongsToNode :=
        List.filter_cons_of_pos (by simpa [belongsToNode] using hname)
      have hput : PropertyFields.put fields (name, value) =
          .ok { fields with others := (name, value) :: fields.others } := by
        simp only [propertyNames, List.mem_cons, List.not_mem_nil, or_false, not_or] at hname
        simp only [PropertyFields.put, hname, if_false]
        rfl
      rw [hfilter, hput, propertyMembers.put_of_notMem hname]
      simpa [toOption_ok] using ih { fields with others := (name, value) :: fields.others }

theorem toOption_property_object (members : List (String × Json)) :
    (PropertyEntry.ofJson? (.object members)).toOption = (do
      let own ← members.foldlM propertyMembers.put {}
      let name ← own.name
      let node ← members.foldlM nodeMembers.put {}
      return ⟨name, own.description.join, node.node⟩) := by
  have hnode : (members.filter belongsToNode).foldlM nodeMembers.put {} =
      members.foldlM nodeMembers.put {} := by
    have hnames : ∀ name ∈ nodeMembers.names, name ∉ propertyNames := by decide
    rw [← nodeMembers.foldlM_filter (members.filter belongsToNode),
      ← nodeMembers.foldlM_filter members, List.filter_filter]
    congr 1
    refine List.filter_congr fun member _ => ?_
    have hmember := hnames member.1
    simp only [belongsToNode]
    grind
  rw [PropertyEntry.ofJson?, toOption_bind, toOption_foldlM, foldlM_propertyPut]
  simp only [List.append_nil, map_eq_pure_bind, bind_assoc, pure_bind]
  refine bind_congr fun own => ?_
  rw [toOption_ofExcept, PropertyFields.entry]
  cases own.name with
  | none => rfl
  | some name =>
    simp only [toOption_bind, List.reverse_reverse, toOption_decodeMembers, hnode]
    rfl

end EntityModels
