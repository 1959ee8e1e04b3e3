import EntityModels.Schema.Encoding
import EntityModels.Proofs.Except
import Mathlib.Logic.Relation

/-!
Reading the JSON forms of shapes and properties. Decoding gives back what has been encoded, also
after the encoded value has been edited in ways that do not change what it says: members moved or
added, and members left out that say nothing (`round_trips`).
-/
namespace EntityModels

/-- The values of all members of a name. -/
def Json.valuesOf (name : String) (members : List (String × Json)) : List Json :=
  (members.filter fun entry => entry.1 = name).map (·.2)

section Members

variable {name key : String} {value : Json} {members members' : List (String × Json)}

theorem Json.valuesOf_cons_self :
    valuesOf name ((name, value) :: members) = value :: valuesOf name members := by
  simp [valuesOf]

theorem Json.valuesOf_cons_of_ne (h : key ≠ name) :
    valuesOf name ((key, value) :: members) = valuesOf name members := by
  simp [valuesOf, h]

theorem Json.valuesOf_eq_nil_iff : valuesOf name members = [] ↔ name ∉ members.map (·.1) := by
  rw [valuesOf, List.map_eq_nil_iff, List.filter_eq_nil_iff, List.mem_map, not_exists]
  refine forall_congr' fun entry => ?_
  rw [decide_eq_true_iff, not_and]

/-- Moving members about moves the values of a name about. -/
theorem Json.valuesOf_perm (h : members.Perm members') :
    (valuesOf name members).Perm (valuesOf name members') :=
  (h.filter _).map _

/-- The only value of a name stays the only one wherever its member is moved. -/
theorem Json.valuesOf_of_perm (h : members.Perm members')
    (hone : valuesOf name members = [value]) : valuesOf name members' = [value] := by
  have hperm : (valuesOf name members).Perm (valuesOf name members') := valuesOf_perm h
  rw [hone] at hperm
  exact (List.singleton_perm.mp hperm).symm

end Members

/-- The kind of a shape. -/
def Variant.kind : Variant → VariantKind
  | .scalar _ => .scalar
  | .text _ => .text
  | .untyped kind => .container kind
  | .container kind _ => .container kind
  | .reference _ => .reference

def VariantKind.jsonName : VariantKind → String
  | .scalar => "scalar"
  | .text => "text"
  | .container kind => kind.jsonName
  | .reference => "reference"

/-- One edit of a JSON form of a shape that does not change what it says. -/
inductive Variant.Edit : Variant → Json → Json → Prop
  | permute {v : Variant} {members members' : List (String × Json)} :
    members.Perm members' → Edit v (.object members) (.object members')
  | add {v : Variant} {members : List (String × Json)} {name : String} (value : Json) :
    name ≠ "kind" → name ≠ v.kind.contentField →
    Edit v (.object members) (.object ((name, value) :: members))
  | leaveOut {kind : ContainerKind} {members : List (String × Json)} :
    Edit (.untyped kind) (.object ((kind.elementField, .null) :: members)) (.object members)
  | inside {kind : ContainerKind} {element : Variant} {form form' : Json}
    {members : List (String × Json)} : Edit element form form' →
    Edit (.container kind element) (.object ((kind.elementField, form) :: members))
      (.object ((kind.elementField, form') :: members))

/-- One edit of a JSON form of a property that does not change what it says. -/
inductive Property.Edit (p : Property) : Json → Json → Prop
  | permute {members members' : List (String × Json)} :
    members.Perm members' → Edit p (.object members) (.object members')
  | add {members : List (String × Json)} {name : String} (value : Json) :
    name ∉ ["name", "variant", "description"] →
    Edit p (.object members) (.object ((name, value) :: members))
  /-- A description that is absent may be null or left out. -/
  | leaveOut {members : List (String × Json)} : p.description = none →
    Edit p (.object (("description", .null) :: members)) (.object members)
  | writeNull {members : List (String × Json)} : p.description = none →
    "description" ∉ members.map (·.1) →
    Edit p (.object members) (.object (("description", .null) :: members))
  | inside {form form' : Json} {members : List (String × Json)} : p.variant.Edit form form' →
    Edit p (.object (("variant", form) :: members)) (.object (("variant", form') :: members))

/-- An object that gives its kind once, and whose values of the member for the content satisfy
`Content`. -/
def Json.Tagged (kind : VariantKind) (Content : List Json → Prop) : Json → Prop
  | .object members => valuesOf "kind" members = [.string kind.jsonName] ∧
    Content (valuesOf kind.contentField members)
  | _ => False

/-- The values that an object gives for the content of a shape: one, or none in place of null. -/
def Variant.Holds : Variant → List Json → Prop
  | .scalar kind, values => values = [.string kind.jsonName]
  | .text format, values => values = [.string format.jsonName]
  | .untyped _, values => values = [.null] ∨ values = []
  | .container _ element, values =>
    ∃ form, values = [form] ∧ Json.Tagged element.kind element.Holds form
  | .reference target, values => values = [.string target]

/-- The objects that say what a shape is. -/
def Variant.WrittenAs (v : Variant) (json : Json) : Prop := Json.Tagged v.kind v.Holds json

namespace Variant

variable {v : Variant} {json json' : Json} {values values' : List Json}

theorem elementField_ne_kind (kind : ContainerKind) : kind.elementField ≠ "kind" := by
  cases kind <;> decide

theorem writtenAs_toJson (v : Variant) : v.WrittenAs v.toJson := by
  induction v with
  | scalar | text | reference => exact ⟨rfl, rfl⟩
  | untyped kind => cases kind <;> exact ⟨rfl, .inl rfl⟩
  | container kind element ih => cases kind <;> exact ⟨rfl, _, rfl, ih⟩

/-- A value that is written as a shape is an object with the tag of the shape and its content. -/
theorem WrittenAs.exists_members (h : v.WrittenAs json) :
    ∃ members, json = .object members ∧
      Json.valuesOf "kind" members = [.string v.kind.jsonName] ∧
      v.Holds (Json.valuesOf v.kind.contentField members) := by
  cases json with
  | object members => exact ⟨members, rfl, h⟩
  | _ => exact h.elim

/-- At most one value has no other order. -/
theorem Holds.perm (h : v.Holds values) (hperm : values.Perm values') : v.Holds values' := by
  cases v with
  | scalar | text | reference =>
    obtain rfl := h
    exact (List.singleton_perm.mp hperm).symm
  | untyped =>
    rcases h with rfl | rfl
    · exact .inl (List.singleton_perm.mp hperm).symm
    · exact .inr (List.nil_perm.mp hperm)
  | container =>
    obtain ⟨form, rfl, hform⟩ := h
    exact ⟨form, (List.singleton_perm.mp hperm).symm, hform⟩

/-- What one edit preserves. -/
theorem WrittenAs.edit (h : v.WrittenAs json) (hedit : v.Edit json json') :
    v.WrittenAs json' := by
  induction hedit with
  | permute hperm =>
    obtain ⟨hkind, hcontent⟩ := h
    exact ⟨Json.valuesOf_of_perm hperm hkind, hcontent.perm (Json.valuesOf_perm hperm)⟩
  | add value hkind hcontent =>
    rw [WrittenAs, Json.Tagged, Json.valuesOf_cons_of_ne hkind, Json.valuesOf_cons_of_ne hcontent]
    exact h
  | @leaveOut kind members =>
    obtain ⟨hkind, hcontent⟩ := h
    rw [Json.valuesOf_cons_of_ne (elementField_ne_kind kind)] at hkind
    refine ⟨hkind, .inr ?_⟩
    rcases hcontent with hcontent | hcontent
    · exact (List.cons.inj (Json.valuesOf_cons_self.symm.trans hcontent)).2
    · cases Json.valuesOf_cons_self.symm.trans hcontent
  | @inside kind element form form' members _ ih =>
    obtain ⟨hkind, only, hcontent, hform⟩ := h
    rw [Json.valuesOf_cons_of_ne (elementField_ne_kind kind)] at hkind
    obtain ⟨rfl, hrest⟩ := List.cons.inj (Json.valuesOf_cons_self.symm.trans hcontent)
    refine ⟨?_, form', ?_, ih hform⟩
    · rw [Json.valuesOf_cons_of_ne (elementField_ne_kind kind)]
      exact hkind
    · refine Json.valuesOf_cons_self.trans ?_
      rw [hrest]

theorem chooseNamed_jsonName (kind : VariantKind) :
    chooseNamed VariantKind.choices kind.jsonName = .ok kind := by
  rcases kind with _ | _ | (_ | _) | _ <;> rfl

/-- A kind decodes its content and ignores the other members. -/
theorem decodeMember_eq (kind : VariantKind) (members : List (String × Json)) :
    decodeMember kind members = (Json.valuesOf kind.contentField members).head?.map fun value =>
      ofContent kind value (decode true value) := by
  induction members with
  | nil => rw [decodeMember]; rfl
  | cons entry rest ih =>
    obtain ⟨name, value⟩ := entry
    rw [decodeMember]
    by_cases h : name = kind.contentField
    · subst h
      rw [if_pos rfl, Json.valuesOf_cons_self]
      rfl
    · rw [if_neg h, ih, Json.valuesOf_cons_of_ne h]

/-- The tag is the first member of its name, wherever it stands. -/
theorem exists_find?_kind {kind : VariantKind} {members : List (String × Json)}
    (hkind : Json.valuesOf "kind" members = [.string kind.jsonName]) :
    ∃ name, members.find? (fun entry => entry.1 = "kind") =
      some (name, .string kind.jsonName) := by
  have hfind : (members.find? fun entry => entry.1 = "kind").map (·.2) =
      some (.string kind.jsonName) := by
    rw [← List.head?_filter, ← List.head?_map]
    exact congrArg List.head? hkind
  obtain ⟨⟨name, _⟩, hfound, rfl⟩ := Option.map_eq_some_iff.mp hfind
  exact ⟨name, hfound⟩

/-- An object with a kind has the content that is found for it, or else none. -/
theorem decode_of_kind {inner : Bool} {kind : VariantKind} {members : List (String × Json)}
    (hkind : Json.valuesOf "kind" members = [.string kind.jsonName]) :
    Variant.decode inner (.object members) = (decodeMember kind members).getD
      (match kind with
      | .container kind => .ok (.untyped kind)
      | kind => .error (.missingField kind.contentField)) := by
  obtain ⟨name, hfound⟩ := exists_find?_kind hkind
  rw [Variant.decode, hfound]
  dsimp only
  rw [VariantKind.ofJson?, chooseNamed_jsonName]
  refine Eq.trans (pure_bind kind _) ?_
  cases decodeMember kind members with
  | none => cases kind <;> rfl
  | some result => rfl

/-- A shape with a tag and a content is decoded from these two, in whatever order they come. -/
theorem decode_of_content {inner : Bool} {kind : VariantKind} {members : List (String × Json)}
    {content : Json} (hkind : Json.valuesOf "kind" members = [.string kind.jsonName])
    (hcontent : Json.valuesOf kind.contentField members = [content]) :
    Variant.decode inner (.object members) =
      ofContent kind content (Variant.decode true content) := by
  have hmember : decodeMember kind members =
      some (ofContent kind content (Variant.decode true content)) := by
    rw [decodeMember_eq, hcontent]
    rfl
  rw [decode_of_kind hkind, hmember, Option.getD_some]

/-- A container is untyped when nothing stands for its elements. -/
theorem decode_of_nothing {inner : Bool} {kind : ContainerKind} {members : List (String × Json)}
    (hkind : Json.valuesOf "kind" members = [.string kind.jsonName])
    (hcontent : Json.valuesOf kind.elementField members = []) :
    Variant.decode inner (.object members) = .ok (.untyped kind) := by
  have hmember : decodeMember (.container kind) members = none := by
    rw [decodeMember_eq, VariantKind.contentField, hcontent]
    rfl
  have hdecode : Variant.decode inner (.object members) =
      (decodeMember (.container kind) members).getD (.ok (.untyped kind)) := decode_of_kind hkind
  rw [hdecode, hmember, Option.getD_none]

/-- A shape is decoded from every object that says what it is, at the top or inside another. -/
theorem decode_eq_ok (h : v.WrittenAs json) (inner : Bool) :
    Variant.decode inner json = .ok v := by
  induction v generalizing json inner with
  | scalar kind =>
    obtain ⟨members, rfl, hkind, hcontent⟩ := h.exists_members
    rw [decode_of_content hkind hcontent]
    cases kind <;> rfl
  | text format =>
    obtain ⟨members, rfl, hkind, hcontent⟩ := h.exists_members
    rw [decode_of_content hkind hcontent]
    cases format <;> rfl
  | reference target =>
    obtain ⟨members, rfl, hkind, hcontent⟩ := h.exists_members
    rw [decode_of_content hkind hcontent]
    rfl
  | untyped kind =>
    obtain ⟨members, rfl, hkind, hcontent⟩ := h.exists_members
    rcases hcontent with hnull | hnothing
    · rw [decode_of_content hkind hnull]
      rfl
    · exact decode_of_nothing hkind hnothing
  | container kind element ih =>
    obtain ⟨members, rfl, hkind, form, hcontent, hform⟩ := h.exists_members
    obtain ⟨inside, rfl, _⟩ := WrittenAs.exists_members hform
    rw [decode_of_content hkind hcontent]
    change Variant.container kind <$> Variant.decode true (.object inside) = _
    rw [ih hform]
    rfl

end Variant

namespace Property

variable {p : Property} {members : List (String × Json)}

/-- The members of an object that say what a property is. -/
structure WrittenIn (p : Property) (members : List (String × Json)) : Prop where
  name : Json.valuesOf "name" members = [.string p.name]
  variant : ∃ form, Json.valuesOf "variant" members = [form] ∧ p.variant.WrittenAs form
  description : Json.valuesOf "description" members = [Json.stringOrNull p.description] ∨
    p.description = none ∧ Json.valuesOf "description" members = []

/-- The objects that say what a property is. -/
def WrittenAs (p : Property) (json : Json) : Prop :=
  ∃ members, json = .object members ∧ p.WrittenIn members

theorem writtenAs_toJson (p : Property) : p.WrittenAs p.toJson := by
  obtain ⟨name, variant, description⟩ := p
  refine ⟨_, rfl, ?_⟩
  cases description with
  | none => exact ⟨rfl, ⟨_, rfl, variant.writtenAs_toJson⟩, .inr ⟨rfl, rfl⟩⟩
  | some text => exact ⟨rfl, ⟨_, rfl, variant.writtenAs_toJson⟩, .inl rfl⟩

/-- A member of no known name changes nothing about a property that is written. -/
theorem WrittenIn.cons (h : p.WrittenIn members) {name : String} (value : Json)
    (hunknown : name ∉ ["name", "variant", "description"]) :
    p.WrittenIn ((name, value) :: members) := by
  simp only [List.mem_cons, List.not_mem_nil, or_false, not_or] at hunknown
  obtain ⟨hname, hvariant, hdescription⟩ := hunknown
  constructor
  · rw [Json.valuesOf_cons_of_ne hname]
    exact h.name
  · rw [Json.valuesOf_cons_of_ne hvariant]
    exact h.variant
  · rw [Json.valuesOf_cons_of_ne hdescription]
    exact h.description

/-- What one edit preserves. -/
theorem WrittenAs.edit {json json' : Json} (h : p.WrittenAs json) (hedit : p.Edit json json') :
    p.WrittenAs json' := by
  obtain ⟨members, rfl, h⟩ := h
  cases hedit with
  | @permute _ members' hperm =>
    obtain ⟨form, hform, hwritten⟩ := h.variant
    refine ⟨members', rfl, Json.valuesOf_of_perm hperm h.name,
      ⟨form, Json.valuesOf_of_perm hperm hform, hwritten⟩, ?_⟩
    rcases h.description with hone | ⟨habsent, hnone⟩
    · exact .inl (Json.valuesOf_of_perm hperm hone)
    · have hvalues : (Json.valuesOf "description" _).Perm (Json.valuesOf "description" members') :=
        Json.valuesOf_perm hperm
      rw [hnone] at hvalues
      exact .inr ⟨habsent, List.nil_perm.mp hvalues⟩
  | add value hunknown => exact ⟨_, rfl, h.cons value hunknown⟩
  | @leaveOut members habsent =>
    refine ⟨members, rfl, h.name, h.variant, .inr ⟨habsent, ?_⟩⟩
    rcases h.description with hone | ⟨_, hnone⟩
    · exact (List.cons.inj (Json.valuesOf_cons_self.symm.trans hone)).2
    · cases Json.valuesOf_cons_self.symm.trans hnone
  | writeNull habsent hmissing =>
    refine ⟨_, rfl, h.name, h.variant, .inl ?_⟩
    have hnone := Json.valuesOf_eq_nil_iff.mpr hmissing
    rw [Json.valuesOf_cons_self, hnone, habsent]
    rfl
  | @inside form form' members hinside =>
    obtain ⟨only, hform, hwritten⟩ := h.variant
    obtain ⟨rfl, hrest⟩ := List.cons.inj (Json.valuesOf_cons_self.symm.trans hform)
    refine ⟨_, rfl, h.name, ⟨form', ?_, hwritten.edit hinside⟩, h.description⟩
    rw [Json.valuesOf_cons_self, hrest]

/-- A member that is still to come, or that has been decoded. -/
def Awaits {α : Type} (current : Option α) (a : α) (Form : Json → Prop) (values : List Json) :
    Prop :=
  (current = none ∧ ∃ form, values = [form] ∧ Form form) ∨ current = some a ∧ values = []

/-- A member that is awaited can be taken, and then no further one of its name is. -/
theorem Awaits.take {α : Type} {current : Option α} {a : α} {Form : Json → Prop} {value : Json}
    {values : List Json} (h : Awaits current a Form (value :: values)) :
    current = none ∧ Form value ∧ Awaits (some a) a Form values := by
  rcases h with ⟨hnone, form, heq, hform⟩ | ⟨_, heq⟩
  · obtain ⟨rfl, rfl⟩ := List.cons.inj heq
    exact ⟨hnone, hform, .inr ⟨rfl, rfl⟩⟩
  · cases heq

theorem Awaits.done {α : Type} {current : Option α} {a : α} {Form : Json → Prop}
    (h : Awaits current a Form []) : current = some a := by
  rcases h with ⟨_, form, heq, _⟩ | ⟨hsome, _⟩
  · cases heq
  · exact hsome

/-- What has been decoded of a property and what is left of its members make up the property. -/
structure Fields.Completes (fields : Fields) (p : Property) (members : List (String × Json)) :
    Prop where
  name : Awaits fields.name p.name (· = .string p.name) (Json.valuesOf "name" members)
  variant : Awaits fields.variant p.variant p.variant.WrittenAs (Json.valuesOf "variant" members)
  description : Awaits fields.description p.description (· = Json.stringOrNull p.description)
      (Json.valuesOf "description" members) ∨
    p.description = none ∧ fields.description = none ∧ Json.valuesOf "description" members = []

/-- Nothing is read of a property yet, so its members are all awaited. -/
theorem WrittenIn.completes (h : p.WrittenIn members) : Fields.Completes {} p members := by
  obtain ⟨form, hform, hwritten⟩ := h.variant
  refine ⟨.inl ⟨rfl, _, h.name, rfl⟩, .inl ⟨rfl, form, hform, hwritten⟩, ?_⟩
  rcases h.description with hone | ⟨habsent, hnone⟩
  · exact .inl (.inl ⟨rfl, _, hone, rfl⟩)
  · exact .inr ⟨habsent, rfl, hnone⟩

section Members

variable {fields : Fields} {rest : List (String × Json)} {value : Json}

theorem decodeMembers_name (h : fields.name = none) (name : String) :
    decodeMembers fields (("name", .string name) :: rest) =
      decodeMembers { fields with name := some name } rest := by
  obtain ⟨_, variant, description⟩ := fields
  obtain rfl : _ = none := h
  rfl

theorem decodeMembers_variant (h : fields.variant = none) {v : Variant}
    (hv : Variant.ofJson? value = .ok v) :
    decodeMembers fields (("variant", value) :: rest) =
      decodeMembers { fields with variant := some v } rest := by
  obtain ⟨name, _, description⟩ := fields
  obtain rfl : _ = none := h
  rw [decodeMembers]
  simp [hv, bind, Except.bind, pure, Except.pure]

theorem decodeMembers_description (h : fields.description = none) {description : Option String}
    (hd : decodeOptionalText value = .ok description) :
    decodeMembers fields (("description", value) :: rest) =
      decodeMembers { fields with description := some description } rest := by
  obtain ⟨name, variant, _⟩ := fields
  obtain rfl : _ = none := h
  rw [decodeMembers]
  simp [hd, bind, Except.bind, pure, Except.pure]

/-- A member of no known name is passed over. -/
theorem decodeMembers_unknown {key : String} (h : key ∉ ["name", "variant", "description"]) :
    decodeMembers fields ((key, value) :: rest) = decodeMembers fields rest := by
  simp only [List.mem_cons, List.not_mem_nil, or_false, not_or] at h
  obtain ⟨hname, hvariant, hdescription⟩ := h
  rw [decodeMembers]
  simp [hname, hvariant, hdescription, bind, Except.bind, pure, Except.pure]

theorem decodeOptionalText_stringOrNull (text : Option String) :
    decodeOptionalText (Json.stringOrNull text) = .ok text := by
  cases text <;> rfl

/-- Decoding the members that are left completes the property. -/
theorem Fields.Completes.decodeMembers (h : fields.Completes p members) :
    ∃ fields', Property.decodeMembers fields members = .ok fields' ∧ fields'.Completes p [] := by
  induction members generalizing fields with
  | nil => exact ⟨fields, rfl, h⟩
  | cons entry rest ih =>
    obtain ⟨key, value⟩ := entry
    obtain ⟨hname, hvariant, hdescription⟩ := h
    by_cases hkey : key ∈ ["name", "variant", "description"]
    · simp only [List.mem_cons, List.not_mem_nil, or_false] at hkey
      rcases hkey with rfl | rfl | rfl
      · rw [Json.valuesOf_cons_self] at hname
        obtain ⟨hnone, rfl, hdone⟩ := hname.take
        rw [decodeMembers_name hnone]
        exact ih ⟨hdone, hvariant, hdescription⟩
      · rw [Json.valuesOf_cons_self] at hvariant
        obtain ⟨hnone, hwritten, hdone⟩ := hvariant.take
        rw [decodeMembers_variant hnone (Variant.decode_eq_ok hwritten false)]
        exact ih ⟨hname, hdone, hdescription⟩
      · rw [Json.valuesOf_cons_self] at hdescription
        rcases hdescription with hdescription | ⟨_, _, hnil⟩
        · obtain ⟨hnone, rfl, hdone⟩ := hdescription.take
          rw [decodeMembers_description hnone (decodeOptionalText_stringOrNull p.description)]
          exact ih ⟨hname, hvariant, .inl hdone⟩
        · cases hnil
    · rw [decodeMembers_unknown hkey]
      simp only [List.mem_cons, List.not_mem_nil, or_false, not_or] at hkey
      rw [Json.valuesOf_cons_of_ne hkey.1] at hname
      rw [Json.valuesOf_cons_of_ne hkey.2.1] at hvariant
      rw [Json.valuesOf_cons_of_ne hkey.2.2] at hdescription
      exact ih ⟨hname, hvariant, hdescription⟩

end Members

/-- A property is decoded from every object that says what it is. -/
theorem ofJson?_eq_ok {json : Json} (h : p.WrittenAs json) : ofJson? json = .ok p := by
  obtain ⟨members, rfl, h⟩ := h
  obtain ⟨fields, hfields, hname, hvariant, hdescription⟩ := h.completes.decodeMembers
  have hjoin : fields.description.join = p.description := by
    rcases hdescription with hdone | ⟨habsent, hnone, _⟩
    · rw [hdone.done]
      rfl
    · rw [hnone, habsent]
      rfl
  rw [ofJson?, hfields]
  simp only [bind, Except.bind, hname.done, hvariant.done, hjoin]
  rfl

end Property

/-- Every value that is obtained from the JSON form of a shape or a property by edits is decoded to
that shape or that property. -/
structure RoundTrips : Prop where
  variant : ∀ (v : Variant) (json : Json), Relation.ReflTransGen v.Edit v.toJson json →
    Variant.ofJson? json = .ok v
  property : ∀ (p : Property) (json : Json), Relation.ReflTransGen p.Edit p.toJson json →
    Property.ofJson? json = .ok p

/-- Whatever is encoded is decoded again, also after edits: each keeps an object that says what it
said. -/
theorem round_trips : RoundTrips where
  variant v json hedits := by
    have hwritten : v.WrittenAs json := by
      induction hedits with
      | refl => exact v.writtenAs_toJson
      | tail _ hedit ih => exact ih.edit hedit
    exact Variant.decode_eq_ok hwritten false
  property p json hedits := by
    have hwritten : p.WrittenAs json := by
      induction hedits with
      | refl => exact p.writtenAs_toJson
      | tail _ hedit ih => exact ih.edit hedit
    exact Property.ofJson?_eq_ok hwritten

end EntityModels
