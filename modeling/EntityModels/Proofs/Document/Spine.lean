import EntityModels.Document.Node
import EntityModels.Proofs.Target.Nesting

/-!
The spine of a node: the node itself, then the node of its elements if it is a container that has
one, and so on. The shape of a node can be read off its spine, `conversion_exact`: the containers
come from the nodes of the spine, the leaf and every fault from the last one of them. Nothing else
in a node has an influence.
-/
namespace EntityModels.Node

def type? : Node → Option String
  | .mk type _ _ _ _ => type

def format? : Node → Option String
  | .mk _ format _ _ _ => format

def items? : Node → Option Node
  | .mk _ _ items _ _ => items

def additional? : Node → Option Additional
  | .mk _ _ _ additional _ => additional

def reference? : Node → Option String
  | .mk _ _ _ _ reference => reference

/-- The names of the types that a node can have. -/
def typeNames : List String := ["boolean", "integer", "number", "string", "array", "object"]

/-- Whether a node says by itself what it is. -/
def IsTyped (node : Node) : Prop :=
  (∃ target, node.reference? = some target) ∨ ∃ name ∈ typeNames, node.type? = some name

/-- The container for which a node stands by its type. A reference stands for none. -/
def containerKind? (node : Node) : Option ContainerKind :=
  match node.reference?, node.type? with
  | none, some "array" => some .array
  | none, some "object" => some .map
  | _, _ => none

/-- What a node stands for if it is no container. -/
def leaf? (node : Node) : Option Leaf :=
  match node.reference?, node.type? with
  | some target, _ => some (.reference target)
  | none, some "boolean" => some (.scalar .boolean)
  | none, some "integer" => some (.scalar .integer)
  | none, some "number" => some (.scalar .number)
  | none, some "string" => some (.text (.ofName node.format?))
  | _, _ => none

/-- The node that a node has for the elements of a kind of container. -/
def element? (node : Node) : ContainerKind → Option Node
  | .array => node.items?
  | .map => node.additional?.bind Additional.node?

/-- The node that follows on the spine, and the container around it. -/
def next? (node : Node) : Option (ContainerKind × Node) :=
  node.containerKind?.bind fun kind => (node.element? kind).map (kind, ·)

/-- The path of the node that follows inside a container. -/
def pathInside (path : String) (kind : ContainerKind) : String := path ++ "." ++ kind.keyword

variable {node next : Node} {kind : ContainerKind} {path : String}

theorem next?_eq_some_iff :
    node.next? = some (kind, next) ↔
      node.containerKind? = some kind ∧ node.element? kind = some next := by
  rw [next?, Option.bind_eq_some_iff]
  constructor
  · rintro ⟨_, hkind, helement⟩
    obtain ⟨_, hnext, heq⟩ := Option.map_eq_some_iff.mp helement
    obtain ⟨rfl, rfl⟩ := Prod.mk.inj heq
    exact ⟨hkind, hnext⟩
  · rintro ⟨hkind, hnext⟩
    exact ⟨kind, hkind, by rw [hnext, Option.map_some]⟩

/-- A spine goes into the node, so it comes to an end. -/
theorem sizeOf_lt_of_next? (h : node.next? = some (kind, next)) : sizeOf next < sizeOf node := by
  obtain ⟨type, format, items, additional, reference⟩ := node
  have helement := (next?_eq_some_iff.mp h).2
  cases kind with
  | array =>
    obtain rfl : items = some next := helement
    simp only [mk.sizeOf_spec, Option.some.sizeOf_spec]
    omega
  | map =>
    obtain ⟨inside, rfl, hnode⟩ := Option.bind_eq_some_iff.mp helement
    cases inside with
    | flag => cases hnode
    | shape =>
      obtain rfl := Option.some.inj hnode
      simp only [mk.sizeOf_spec, Option.some.sizeOf_spec, Additional.shape.sizeOf_spec]
      omega

set_option linter.unusedVariables false in
/-- The nodes of the spine with their paths, from the node itself to the last one. -/
def spine (path : String) (node : Node) : List (String × Node) :=
  match h : node.next? with
  | none => [(path, node)]
  | some (kind, next) => (path, node) :: next.spine (pathInside path kind)
termination_by sizeOf node
decreasing_by exact sizeOf_lt_of_next? h

theorem spine_of_last (h : node.next? = none) : node.spine path = [(path, node)] := by
  rw [spine]
  split <;> simp_all

theorem spine_of_next (h : node.next? = some (kind, next)) :
    node.spine path = (path, node) :: next.spine (pathInside path kind) := by
  rw [spine]
  split <;> simp_all

theorem spine_ne_nil (path : String) (node : Node) : node.spine path ≠ [] := by
  cases h : node.next? with
  | none => simp [spine_of_last h]
  | some step => simp [spine_of_next h]

/-- The last node of the spine, with its path. -/
def last (path : String) (node : Node) : String × Node :=
  (node.spine path).getLast (spine_ne_nil path node)

/-- The containers for which the nodes of the spine stand, the outermost first. -/
def spineContainers (path : String) (node : Node) : List ContainerKind :=
  (node.spine path).filterMap fun entry => entry.2.containerKind?

theorem last_of_last (h : node.next? = none) : node.last path = (path, node) := by
  simp only [last, spine_of_last h, List.getLast_singleton]

theorem last_of_next (h : node.next? = some (kind, next)) :
    node.last path = next.last (pathInside path kind) := by
  simp only [last, spine_of_next h]
  exact List.getLast_cons (spine_ne_nil _ next)

/-- The last node of a spine adds its own container, if it is one. -/
theorem spineContainers_of_last (h : node.next? = none) :
    node.spineContainers path = node.containerKind?.toList := by
  rw [spineContainers, spine_of_last h]
  cases hkind : node.containerKind? with
  | none => exact List.filterMap_cons_none hkind
  | some kind => exact List.filterMap_cons_some hkind

theorem spineContainers_of_next (h : node.next? = some (kind, next)) :
    node.spineContainers path = kind :: next.spineContainers (pathInside path kind) := by
  have hkind := (next?_eq_some_iff.mp h).1
  rw [spineContainers, spine_of_next h]
  exact List.filterMap_cons_some (b := kind) hkind

theorem ofName?_eq_none_iff {type : String} : NodeType.ofName? type = none ↔ type ∉ typeNames := by
  unfold NodeType.ofName?
  split <;> simp_all [typeNames]

/-- A container goes around whatever its element is converted to. -/
theorem toVariant_of_next (h : node.next? = some (kind, next)) :
    node.toVariant path = .container kind <$> next.toVariant (pathInside path kind) := by
  obtain ⟨hkind, helement⟩ := next?_eq_some_iff.mp h
  obtain ⟨type, format, items, additional, reference⟩ := node
  unfold containerKind? at hkind
  split at hkind
  · rename_i hreference htype
    obtain rfl : reference = none := hreference
    obtain rfl : type = some "array" := htype
    obtain rfl := Option.some.inj hkind
    obtain rfl : items = some next := helement
    rw [toVariant]
    rfl
  · rename_i hreference htype
    obtain rfl : reference = none := hreference
    obtain rfl : type = some "object" := htype
    obtain rfl := Option.some.inj hkind
    obtain ⟨inside, rfl, hnode⟩ := Option.bind_eq_some_iff.mp helement
    cases inside with
    | flag => cases hnode
    | shape =>
      obtain rfl := Option.some.inj hnode
      rw [toVariant]
      rfl
  · cases hkind

/-- A last node that says what it is becomes its leaf, or a container of nothing. -/
theorem toVariant_of_last (h : node.next? = none) (htyped : node.IsTyped) :
    ∃ v, node.toVariant path = .ok v ∧
      Variant.nest? node.containerKind?.toList node.leaf? = some v := by
  have hempty : ∀ kind, node.containerKind? = some kind → node.element? kind = none := by
    intro kind hkind
    rw [next?, hkind, Option.bind_some] at h
    exact Option.map_eq_none_iff.mp h
  obtain ⟨type, format, items, additional, reference⟩ := node
  rcases htyped with ⟨target, hreference⟩ | ⟨name, hname, htype⟩
  · obtain rfl : reference = some target := hreference
    exact ⟨.reference target, by rw [toVariant], rfl⟩
  · obtain rfl : type = some name := htype
    cases reference with
    | some target => exact ⟨.reference target, by rw [toVariant], rfl⟩
    | none =>
      simp only [typeNames, List.mem_cons, List.not_mem_nil, or_false] at hname
      rcases hname with rfl | rfl | rfl | rfl | rfl | rfl
      · exact ⟨.scalar .boolean, by rw [toVariant]; rfl, rfl⟩
      · exact ⟨.scalar .integer, by rw [toVariant]; rfl, rfl⟩
      · exact ⟨.scalar .number, by rw [toVariant]; rfl, rfl⟩
      · exact ⟨.text (.ofName format), by rw [toVariant]; rfl, rfl⟩
      · obtain rfl : items = none := hempty .array rfl
        exact ⟨.untyped .array, by rw [toVariant]; rfl, rfl⟩
      · have hnode : additional.bind Additional.node? = none := hempty .map rfl
        refine ⟨.untyped .map, ?_, rfl⟩
        rcases additional with _ | (_ | _)
        · rw [toVariant]; rfl
        · rw [toVariant]; rfl
        · cases hnode

theorem toVariant_of_missing (hreference : node.reference? = none) (htype : node.type? = none) :
    node.toVariant path = .error (.missingType path) := by
  obtain ⟨type, format, items, additional, reference⟩ := node
  obtain rfl : reference = none := hreference
  obtain rfl : type = none := htype
  rw [toVariant]

theorem toVariant_of_unknown {type : String} (hreference : node.reference? = none)
    (htype : node.type? = some type) (hunknown : type ∉ typeNames) :
    node.toVariant path = .error (.unknownType path type) := by
  obtain ⟨_, format, items, additional, reference⟩ := node
  obtain rfl : reference = none := hreference
  obtain rfl : _ = some type := htype
  rw [toVariant, ofName?_eq_none_iff.mpr hunknown]

/-- A node says what it is, or has no type, or one that is not known. -/
theorem isTyped_or (node : Node) :
    node.IsTyped ∨ (node.reference? = none ∧ node.type? = none) ∨
      node.reference? = none ∧ ∃ type, node.type? = some type ∧ type ∉ typeNames := by
  cases hreference : node.reference? with
  | some target => exact .inl (.inl ⟨target, hreference⟩)
  | none =>
    cases htype : node.type? with
    | none => exact .inr (.inl ⟨rfl, rfl⟩)
    | some type =>
      by_cases hknown : type ∈ typeNames
      · exact .inl (.inr ⟨type, hknown, htype⟩)
      · exact .inr (.inr ⟨rfl, type, rfl, hknown⟩)

/-- A spine whose last node is typed is converted: its containers go around one another, down to the
leaf. -/
theorem toVariant_of_isTyped (htyped : (node.last path).2.IsTyped) :
    ∃ v, node.toVariant path = .ok v ∧
      Variant.nest? (node.spineContainers path) (node.last path).2.leaf? = some v := by
  -- down the spine, a container goes around what the rest of the spine gives
  induction path, node using spine.induct with
  | case1 path node h =>
    rw [last_of_last h] at htyped ⊢
    rw [spineContainers_of_last h]
    exact toVariant_of_last h htyped
  | case2 path node kind next h ih =>
    rw [last_of_next h] at htyped ⊢
    obtain ⟨v, hv, hnest⟩ := ih htyped
    refine ⟨.container kind v, by rw [toVariant_of_next h, hv]; rfl, ?_⟩
    rw [spineContainers_of_next h]
    exact congrArg (some ∘ Variant.ofElement kind) hnest

/-- A node fails as the last one of its spine does by itself. -/
theorem toVariant_of_last_error {fault : NodeFault}
    (hlast : (node.last path).2.toVariant (node.last path).1 = .error fault) :
    node.toVariant path = .error fault := by
  induction path, node using spine.induct with
  | case1 path node h =>
    rw [last_of_last h] at hlast
    exact hlast
  | case2 path node kind next h ih =>
    rw [last_of_next h] at hlast
    rw [toVariant_of_next h, ih hlast]
    rfl

/-- Two nodes have the same keywords on their spines; what else they have may differ. -/
inductive AgreesAlong : Node → Node → Prop
  /-- What stands beside a reference is off the spine. -/
  | reference {node other : Node} {target : String} : node.reference? = some target →
    other.reference? = some target → AgreesAlong node other
  | inside {node other next next' : Node} {kind : ContainerKind} :
    node.next? = some (kind, next) → other.next? = some (kind, next') →
    AgreesAlong next next' → AgreesAlong node other
  /-- Only a text has a format. -/
  | last {node other : Node} : node.next? = none → other.next? = none →
    node.reference? = none → other.reference? = none → node.type? = other.type? →
    (node.type? = some "string" →
      TextFormat.ofName node.format? = TextFormat.ofName other.format?) → AgreesAlong node other

/-- A reference is converted on its own, whatever stands beside it. -/
theorem toVariant_of_reference {target : String} (h : node.reference? = some target) :
    node.toVariant path = .ok (.reference target) := by
  obtain ⟨type, format, items, additional, _⟩ := node
  obtain rfl : _ = some target := h
  rw [toVariant]

/-- Nodes that agree along their spines are converted alike, and to the same path in a fault. -/
theorem AgreesAlong.toVariant_eq {other : Node} (h : node.AgreesAlong other) :
    other.toVariant path = node.toVariant path := by
  induction h generalizing path with
  | reference hnode hother =>
    rw [toVariant_of_reference hnode, toVariant_of_reference hother]
  | inside hnode hother _ ih => rw [toVariant_of_next hnode, toVariant_of_next hother, ih]
  | @last node other hnode hother hreference hreference' htype hformat =>
    rcases node.isTyped_or with htyped | ⟨_, hnone⟩ | ⟨_, type, hsome, hunknown⟩
    · have htyped' : other.IsTyped := by
        rw [IsTyped, hreference, htype] at htyped
        rw [IsTyped, hreference']
        exact htyped
      have hkind : other.containerKind? = node.containerKind? := by
        rw [containerKind?, containerKind?, hreference, hreference', htype]
      have hleaf : other.leaf? = node.leaf? := by
        rw [leaf?, leaf?, hreference, hreference', ← htype]
        split <;> try rfl
        rename_i _ hstring
        rw [hformat hstring]
      obtain ⟨v, hv, hnest⟩ : ∃ v, node.toVariant path = .ok v ∧ _ :=
        toVariant_of_last hnode htyped
      obtain ⟨v', hv', hnest'⟩ : ∃ v, other.toVariant path = .ok v ∧ _ :=
        toVariant_of_last hother htyped'
      rw [hkind, hleaf, hnest] at hnest'
      rw [hv, hv', Option.some.inj hnest']
    · rw [toVariant_of_missing hreference hnone, toVariant_of_missing hreference' (htype ▸ hnone)]
    · rw [toVariant_of_unknown hreference hsome hunknown,
        toVariant_of_unknown hreference' (htype ▸ hsome) hunknown]

/-- A node is converted to the containers of its spine around its leaf, provided that the last node
is typed. -/
theorem toVariant_eq_ok_iff {v : Variant} :
    node.toVariant path = .ok v ↔ (node.last path).2.IsTyped ∧
      Variant.nest? (node.spineContainers path) (node.last path).2.leaf? = some v := by
  constructor
  · intro hv
    have htyped : (node.last path).2.IsTyped := by
      rcases (node.last path).2.isTyped_or with htyped | ⟨hr, ht⟩ | ⟨hr, type, ht, hu⟩
      · exact htyped
      · rw [toVariant_of_last_error (toVariant_of_missing hr ht)] at hv
        cases hv
      · rw [toVariant_of_last_error (toVariant_of_unknown hr ht hu)] at hv
        cases hv
    obtain ⟨v', hv', hnest⟩ := toVariant_of_isTyped htyped
    obtain rfl := Except.ok.inj (hv'.symm.trans hv)
    exact ⟨htyped, hnest⟩
  · rintro ⟨htyped, hnest⟩
    obtain ⟨v', hv', hnest'⟩ := toVariant_of_isTyped htyped
    obtain rfl := Option.some.inj (hnest'.symm.trans hnest)
    exact hv'

/-- A node is refused for the type of the last node of its spine, at its path. -/
theorem toVariant_eq_error_iff {fault : NodeFault} :
    node.toVariant path = .error fault ↔ (node.last path).2.reference? = none ∧
      (((node.last path).2.type? = none ∧ fault = .missingType (node.last path).1) ∨
        ∃ type, (node.last path).2.type? = some type ∧ type ∉ typeNames ∧
          fault = .unknownType (node.last path).1 type) := by
  constructor
  · intro hfault
    rcases (node.last path).2.isTyped_or with htyped | ⟨hr, ht⟩ | ⟨hr, type, ht, hu⟩
    · obtain ⟨v, hv, _⟩ := toVariant_of_isTyped htyped
      rw [hv] at hfault
      cases hfault
    · rw [toVariant_of_last_error (toVariant_of_missing hr ht)] at hfault
      exact ⟨hr, .inl ⟨ht, (Except.error.inj hfault).symm⟩⟩
    · rw [toVariant_of_last_error (toVariant_of_unknown hr ht hu)] at hfault
      exact ⟨hr, .inr ⟨type, ht, hu, (Except.error.inj hfault).symm⟩⟩
  · rintro ⟨hr, ⟨ht, rfl⟩ | ⟨type, ht, hu, rfl⟩⟩
    · exact toVariant_of_last_error (toVariant_of_missing hr ht)
    · exact toVariant_of_last_error (toVariant_of_unknown hr ht hu)

/-- How a node is converted, read off its spine. -/
structure ConversionExact (path : String) (node : Node) : Prop where
  succeeds : (∃ v, node.toVariant path = .ok v) ↔ (node.last path).2.IsTyped
  /-- The containers of the spine stand around the leaf of its last node, or around nothing. -/
  shape : ∀ v, node.toVariant path = .ok v ↔ (node.last path).2.IsTyped ∧
    Variant.nest? (node.spineContainers path) (node.last path).2.leaf? = some v
  /-- A fault is one of the last node and has its path. -/
  missingType : ∀ place, node.toVariant path = .error (.missingType place) ↔
    (node.last path).2.reference? = none ∧ (node.last path).2.type? = none ∧
      place = (node.last path).1
  unknownType : ∀ place type, node.toVariant path = .error (.unknownType place type) ↔
    (node.last path).2.reference? = none ∧ (node.last path).2.type? = some type ∧
      type ∉ typeNames ∧ place = (node.last path).1
  offSpine : ∀ other, node.AgreesAlong other → other.toVariant path = node.toVariant path

/-- What a node is converted to can be read off its spine. -/
theorem conversion_exact (path : String) (node : Node) : node.ConversionExact path := by
  refine ⟨⟨?_, ?_⟩, fun _ => toVariant_eq_ok_iff, fun place => ?_, fun place type => ?_,
    fun other h => h.toVariant_eq⟩
  · rintro ⟨v, hv⟩
    exact (toVariant_eq_ok_iff.mp hv).1
  · intro htyped
    obtain ⟨v, hv, _⟩ := toVariant_of_isTyped htyped
    exact ⟨v, hv⟩
  · rw [toVariant_eq_error_iff]
    refine and_congr_right fun _ => ⟨?_, ?_⟩
    · rintro (⟨htype, heq⟩ | ⟨_, _, _, heq⟩)
      · exact ⟨htype, NodeFault.missingType.inj heq⟩
      · cases heq
    · rintro ⟨htype, rfl⟩
      exact .inl ⟨htype, rfl⟩
  · rw [toVariant_eq_error_iff]
    refine and_congr_right fun _ => ⟨?_, ?_⟩
    · rintro (⟨_, heq⟩ | ⟨_, htype, hunknown, heq⟩)
      · cases heq
      · obtain ⟨rfl, rfl⟩ := NodeFault.unknownType.inj heq
        exact ⟨htype, hunknown, rfl⟩
    · rintro ⟨htype, hunknown, rfl⟩
      exact .inr ⟨type, htype, hunknown, rfl⟩

end EntityModels.Node
