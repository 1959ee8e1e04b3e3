import EntityModels.Proofs.Graph.Names

/-!
The lists of entities that are accepted as a graph, and the fault of every other list. The names are
gone through once and each is compared with those before it, so the fault is that of the first name
that does not fit what stands before it.
-/
namespace EntityModels

namespace NameFault

/-- Names that are identifiers and of which neither two nor what is generated from two are the
same. -/
structure NamesApart (generate : String → String) (names : List String) : Prop where
  identifiers : ∀ n ∈ names, Naming.isIdentifier n = true
  distinct : names.Nodup
  generated : (names.map generate).Nodup

/-- Entities whose names are apart as the names of classes, and in each of which the names of the
properties are apart. -/
structure Acceptable (es : List Entity) : Prop where
  entities : NamesApart (Naming.className {}) (es.map (·.name))
  properties : ∀ e ∈ es, NamesApart Naming.propertyName e.declaredNames

/-- Why a name cannot stand behind the names `earlier`: it is one of them, or else what is generated
from it was already generated, first from `first`. -/
inductive Clash (generate : String → String) (earlier : List String) (name : String)
    (again : NameFault) (collision : String → NameFault) : NameFault → Prop
  | again (h : name ∈ earlier) : Clash generate earlier name again collision again
  | generated {front back : List String} {first : String} (hnew : name ∉ earlier)
    (hsplit : earlier = front ++ first :: back) (hfront : ∀ n ∈ front, generate n ≠ generate name)
    (hfirst : generate first = generate name) :
    Clash generate earlier name again collision (collision first)

/-- The first check that a property fails behind the properties `earlier`. -/
inductive PropertyFails (entity : String) (earlier : List String) (p : String) : NameFault → Prop
  | identifier (h : Naming.isIdentifier p = false) :
    PropertyFails entity earlier p (.invalidIdentifier p ("property of `" ++ entity ++ "`"))
  | clash {fault : NameFault} (hp : Naming.isIdentifier p = true)
    (h : Clash Naming.propertyName earlier p (.duplicateProperty entity p)
      (fun first => .propertyCollision entity first p (Naming.propertyName p)) fault) :
    PropertyFails entity earlier p fault

/-- The first check that an entity fails behind the entities `earlier`. -/
inductive EntityFails (earlier : List Entity) (e : Entity) : NameFault → Prop
  | identifier (h : Naming.isIdentifier e.name = false) :
    EntityFails earlier e (.invalidIdentifier e.name "entity name")
  | property {front back : List String} {p : String} {fault : NameFault}
    (he : Naming.isIdentifier e.name = true) (hsplit : e.declaredNames = front ++ p :: back)
    (hfront : NamesApart Naming.propertyName front) (h : PropertyFails e.name front p fault) :
    EntityFails earlier e fault
  | clash {fault : NameFault} (he : Naming.isIdentifier e.name = true)
    (hproperties : NamesApart Naming.propertyName e.declaredNames)
    (h : Clash (Naming.className {}) (earlier.map (·.name)) e.name (.duplicateEntity e.name)
      (fun first => .classCollision first e.name (Naming.className {} e.name)) fault) :
    EntityFails earlier e fault

theorem namesApart_iff_pairwise {generate : String → String} {names : List String} :
    NamesApart generate names ↔ (∀ n ∈ names, Naming.isIdentifier n = true) ∧
      names.Pairwise fun n n' => Apart ⟨n, generate n⟩ ⟨n', generate n'⟩ := by
  have hpairs : (names.Pairwise fun n n' => Apart ⟨n, generate n⟩ ⟨n', generate n'⟩) ↔
      names.Nodup ∧ (names.map generate).Nodup := by
    unfold List.Nodup
    rw [List.pairwise_map, ← List.pairwise_and_iff]
    rfl
  rw [hpairs]
  exact ⟨fun h => ⟨h.identifiers, h.distinct, h.generated⟩, fun h => ⟨h.1, h.2.1, h.2.2⟩⟩

theorem wellNamed_iff {e : Entity} :
    WellNamed e ↔
      Naming.isIdentifier e.name = true ∧ NamesApart Naming.propertyName e.declaredNames := by
  rw [namesApart_iff_pairwise]
  constructor
  · intro h
    exact ⟨h.identifier, h.propertyIdentifiers, List.pairwise_map.mp h.properties⟩
  · intro h
    obtain ⟨he, hidentifiers, hpairs⟩ := h
    exact ⟨he, hidentifiers, List.pairwise_map.mpr hpairs⟩

theorem ofProperties?_names_eq_none_iff {entity : String} {names : List String} :
    ofProperties? entity [] (names.map declaredProperty) = none ↔
      NamesApart Naming.propertyName names := by
  rw [ofProperties?_eq_none_iff, namesApart_iff_pairwise, List.pairwise_map]
  simp [declaredProperty]

/-- The lists without a fault are the acceptable ones. -/
theorem first?_eq_none_iff {es : List Entity} : first? es = none ↔ Acceptable es := by
  rw [first?, ofEntities?_eq_none_iff]
  constructor
  · intro h
    obtain ⟨hnamed, _, hpairs⟩ := h
    refine ⟨namesApart_iff_pairwise.mpr ⟨?_, List.pairwise_map.mpr hpairs⟩, fun e he => ?_⟩
    · simpa using fun e he => (hnamed e he).identifier
    · exact (wellNamed_iff.mp (hnamed e he)).2
  · intro h
    obtain ⟨hidentifiers, hpairs⟩ := namesApart_iff_pairwise.mp h.entities
    have hclasses := List.pairwise_map.mp hpairs
    refine ⟨fun e he => ?_, by simp, hclasses⟩
    exact wellNamed_iff.mpr ⟨hidentifiers _ (List.mem_map_of_mem he), h.properties e he⟩

/-- The fault of a scan is that of an item behind items without one. -/
theorem scan_eq_some_iff {α : Type} (check : List Declared → α → Option NameFault)
    (key : α → Declared) (scan : List Declared → List α → Option NameFault)
    (hnil : ∀ earlier, scan earlier [] = none)
    (hcons : ∀ earlier a rest,
      scan earlier (a :: rest) = (check earlier a).or (scan (earlier ++ [key a]) rest))
    (earlier : List Declared) (xs : List α) (fault : NameFault) :
    scan earlier xs = some fault ↔ ∃ front a back, xs = front ++ a :: back ∧
      scan earlier front = none ∧ check (earlier ++ front.map key) a = some fault := by
  induction xs generalizing earlier with
  | nil => simp [hnil]
  | cons x rest ih =>
    rw [hcons, Option.or_eq_some_iff, ih]
    constructor
    · intro h
      rcases h with hx | ⟨hx, front, a, back, rfl, hfront, ha⟩
      · exact ⟨[], x, rest, rfl, hnil earlier, by simpa using hx⟩
      · refine ⟨x :: front, a, back, rfl, ?_, by simpa using ha⟩
        rw [hcons, hx, hfront]
        rfl
    · intro h
      obtain ⟨front, a, back, heq, hfront, ha⟩ := h
      cases front with
      | nil =>
        obtain ⟨rfl, rfl⟩ := List.cons.inj heq
        exact .inl (by simpa using ha)
      | cons y front =>
        obtain ⟨rfl, rfl⟩ := List.cons.inj heq
        rw [hcons, Option.or_eq_none_iff] at hfront
        exact .inr ⟨hfront.1, front, a, back, rfl, hfront.2, by simpa using ha⟩

/-- The two comparisons with earlier names, first of the name itself and then of what is generated
from it, find just the clashes. -/
theorem clash_eq_some_iff (generate : String → String) (earlier : List String) (name : String)
    (again : NameFault) (collision : String → NameFault) (fault : NameFault) :
    (if (earlier.map fun n => Declared.mk n (generate n)).any (·.name = name) then some again
      else ((earlier.map fun n => Declared.mk n (generate n)).find?
        (·.generated = generate name)).map fun first => collision first.name) = some fault ↔
      Clash generate earlier name again collision fault := by
  have hany : (earlier.map fun n => Declared.mk n (generate n)).any (·.name = name) = true ↔
      name ∈ earlier := by
    simp
  by_cases hname : name ∈ earlier
  · rw [if_pos (hany.mpr hname)]
    constructor
    · intro h
      obtain rfl := Option.some.inj h
      exact .again hname
    · intro h
      cases h with
      | again => rfl
      | generated hnew => exact absurd hname hnew
  · rw [if_neg (mt hany.mp hname), List.find?_map, Option.map_map, Option.map_eq_some_iff]
    simp only [List.find?_eq_some_iff_append, Function.comp_def, decide_eq_true_eq,
      Bool.not_eq_true', decide_eq_false_iff_not]
    constructor
    · intro h
      obtain ⟨first, ⟨hfirst, front, back, hsplit, hfront⟩, rfl⟩ := h
      exact .generated hname hsplit hfront hfirst
    · intro h
      cases h with
      | again hmem => exact absurd hmem hname
      | generated _ hsplit hfront hfirst => exact ⟨_, ⟨hfirst, _, _, hsplit, hfront⟩, rfl⟩

theorem ofProperty?_eq_some_iff {entity p : String} {earlier : List String} {fault : NameFault} :
    ofProperty? entity (earlier.map declaredProperty) (declaredProperty p) = some fault ↔
      PropertyFails entity earlier p fault := by
  unfold ofProperty?
  cases hp : Naming.isIdentifier p with
  | false =>
    rw [if_pos (by simp [declaredProperty, hp])]
    constructor
    · intro h
      obtain rfl := Option.some.inj h
      exact .identifier hp
    · intro h
      cases h with
      | identifier => rfl
      | clash hp' => simp [hp] at hp'
  | true =>
    rw [if_neg (by simp [declaredProperty, hp])]
    have hclash := clash_eq_some_iff Naming.propertyName earlier p (.duplicateProperty entity p)
      (fun first => .propertyCollision entity first p (Naming.propertyName p)) fault
    refine Iff.trans hclash ⟨.clash hp, fun h => ?_⟩
    cases h with
    | identifier hp' => simp [hp] at hp'
    | clash _ h => exact h

/-- The fault of several properties is that of the first one that does not fit those before it. -/
theorem ofProperties?_eq_some_iff {entity : String} {names : List String} {fault : NameFault} :
    ofProperties? entity [] (names.map declaredProperty) = some fault ↔
      ∃ front p back, names = front ++ p :: back ∧ NamesApart Naming.propertyName front ∧
        PropertyFails entity front p fault := by
  have hscan := scan_eq_some_iff
    (fun earlier p => ofProperty? entity earlier (declaredProperty p)) declaredProperty
    (fun earlier names => ofProperties? entity earlier (names.map declaredProperty))
    (fun _ => rfl) (fun _ _ _ => rfl) [] names fault
  simpa only [ofProperties?_names_eq_none_iff, List.nil_append, ofProperty?_eq_some_iff]
    using hscan

/-- The fault of an entity is one of its own name, of its properties, or of its class, in this
order. -/
theorem ofEntity?_eq_some_iff {earlier : List Entity} {e : Entity} {fault : NameFault} :
    ofEntity? (earlier.map fun e => declaredEntity e.name) e = some fault ↔
      EntityFails earlier e fault := by
  unfold ofEntity?
  cases he : Naming.isIdentifier e.name with
  | false =>
    rw [if_pos (by simp)]
    constructor
    · intro h
      obtain rfl := Option.some.inj h
      exact .identifier he
    · intro h
      cases h with
      | identifier => rfl
      | property he' => simp [he] at he'
      | clash he' => simp [he] at he'
  | true =>
    have hclash := clash_eq_some_iff (Naming.className {}) (earlier.map (·.name)) e.name
      (.duplicateEntity e.name)
      (fun first => .classCollision first e.name (Naming.className {} e.name)) fault
    rw [List.map_map] at hclash
    rw [if_neg (by simp), Option.or_eq_some_iff, ofProperties?_eq_some_iff,
      ofProperties?_names_eq_none_iff]
    constructor
    · intro h
      rcases h with ⟨front, p, back, hsplit, hfront, hp⟩ | ⟨hproperties, h⟩
      · exact .property he hsplit hfront hp
      · exact .clash he hproperties (hclash.mp h)
    · intro h
      cases h with
      | identifier he' => simp [he] at he'
      | property _ hsplit hfront hp => exact .inl ⟨_, _, _, hsplit, hfront, hp⟩
      | clash _ hproperties h => exact .inr ⟨hproperties, hclash.mpr h⟩

/-- The first fault is that of an entity behind acceptable ones. -/
theorem first?_eq_some_iff {es : List Entity} {fault : NameFault} :
    first? es = some fault ↔ ∃ before e after, es = before ++ e :: after ∧ Acceptable before ∧
      EntityFails before e fault := by
  have hscan := scan_eq_some_iff ofEntity? (fun e => declaredEntity e.name) ofEntities?
    (fun _ => rfl) (fun _ _ _ => rfl) [] es fault
  simpa only [← first?.eq_1, first?_eq_none_iff, List.nil_append, ofEntity?_eq_some_iff]
    using hscan

example : first? [{ name := "board" },
    { name := "Board"
      properties := [⟨"image_url", .text .uri, none⟩, ⟨"imageUrl", .text .plain, none⟩] }] =
    some (.propertyCollision "Board" "image_url" "imageUrl" "imageUrl") := by
  decide +kernel

/-- With an entity that fails a check behind it, a list is not acceptable. -/
theorem EntityFails.not_acceptable {before : List Entity} {e : Entity} {fault : NameFault}
    (hbefore : Acceptable before) (h : EntityFails before e fault) :
    ¬Acceptable (before ++ [e]) := by
  rw [← first?_eq_none_iff, first?_eq_some_iff.mpr ⟨before, e, [], rfl, hbefore, h⟩]
  simp

end NameFault

namespace Graph

variable {g : Graph} {es : List Entity} {fault : NameFault}

theorem ofEntities?_eq_ok_iff :
    ofEntities? es = .ok g ↔ g.entities = es := by
  unfold ofEntities?
  split
  · rename_i hnone
    simp only [Except.ok.injEq]
    constructor
    · rintro rfl
      rfl
    · rintro rfl
      rfl
  · rename_i found hsome
    simp only [reduceCtorEq, false_iff]
    rintro rfl
    simp [g.sound] at hsome

theorem ofEntities?_eq_error_iff :
    ofEntities? es = .error fault ↔ NameFault.first? es = some fault := by
  unfold ofEntities?
  split
  · rename_i hnone
    simp [hnone]
  · rename_i found hsome
    simp [hsome]

/-- The acceptable lists are those that become graphs. -/
theorem exists_ofEntities?_iff : (∃ g, ofEntities? es = .ok g) ↔ NameFault.Acceptable es := by
  simp only [ofEntities?_eq_ok_iff, ← NameFault.first?_eq_none_iff]
  constructor
  · intro h
    obtain ⟨g, rfl⟩ := h
    exact g.sound
  · intro h
    exact ⟨⟨es, h⟩, rfl⟩

/-- Which lists of entities are accepted, what becomes of them, and why the others are refused. -/
structure AcceptanceExact (es : List Entity) : Prop where
  accepted : (∃ g, ofEntities? es = .ok g) ↔ NameFault.Acceptable es
  order : ∀ g, ofEntities? es = .ok g → g.entities = es
  lookup : ∀ g, ofEntities? es = .ok g →
    ∀ name e, g.get? name = some e ↔ e ∈ es ∧ e.name = name
  /-- No prefix gives two entities one class. -/
  classes : ∀ g, ofEntities? es = .ok g → ∀ naming : Naming, ∀ e ∈ es, ∀ e' ∈ es,
    naming.className e.name = naming.className e'.name → e = e'
  /-- The first entity that does not fit those before it is at fault, by the first check it
  fails. -/
  refused : ∀ fault, ofEntities? es = .error fault ↔
    ∃ before e after, es = before ++ e :: after ∧ NameFault.Acceptable before ∧
      ¬NameFault.Acceptable (before ++ [e]) ∧ NameFault.EntityFails before e fault

/-- For every list it is settled whether it becomes a graph, which one, and why not. -/
theorem acceptance_exact (es : List Entity) : AcceptanceExact es := by
  refine ⟨exists_ofEntities?_iff, fun g hg => ofEntities?_eq_ok_iff.mp hg, ?_, ?_, ?_⟩
  · intro g hg name e
    rw [← ofEntities?_eq_ok_iff.mp hg]
    exact get?_eq_some_iff
  · intro g hg naming e he e' he' heq
    obtain rfl := ofEntities?_eq_ok_iff.mp hg
    exact eq_of_className_eq he he' heq
  · intro fault
    rw [ofEntities?_eq_error_iff, NameFault.first?_eq_some_iff]
    constructor
    · intro h
      obtain ⟨before, e, after, hsplit, hbefore, hfails⟩ := h
      exact ⟨before, e, after, hsplit, hbefore, hfails.not_acceptable hbefore, hfails⟩
    · intro h
      obtain ⟨before, e, after, hsplit, hbefore, _, hfails⟩ := h
      exact ⟨before, e, after, hsplit, hbefore, hfails⟩

end Graph

end EntityModels
