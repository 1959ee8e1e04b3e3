import EntityModels.Proofs.Lists
import EntityModels.Schema.Graph

/-!
The names of a graph. A list of entities has no fault in its names when its names are identifiers
and neither they nor what is generated from them occurs twice.
-/
namespace EntityModels

namespace NameFault

/-- Neither the names nor what is generated from them are the same. -/
def Apart (first second : Declared) : Prop :=
  first.name ≠ second.name ∧ first.generated ≠ second.generated

/-- A name passes both comparisons with the earlier ones when it is apart from each of them. -/
theorem clash_eq_none_iff {earlier : List Declared} {p : Declared} {again : NameFault}
    {clash : Declared → NameFault} :
    (if earlier.any (·.name = p.name) then some again
      else (earlier.find? (·.generated = p.generated)).map clash) = none ↔
      ∀ q ∈ earlier, Apart q p := by
  split
  · rename_i h
    obtain ⟨q, hq, hname⟩ := List.any_eq_true.mp h
    simp only [decide_eq_true_eq] at hname
    simp only [reduceCtorEq, false_iff]
    exact fun hall => (hall q hq).1 hname
  · rename_i h
    have hnames : ∀ q ∈ earlier, q.name ≠ p.name := by simpa using h
    simp only [Option.map_eq_none_iff, List.find?_eq_none, decide_eq_true_eq]
    exact ⟨fun hg q hq => ⟨hnames q hq, hg q hq⟩, fun hall q hq => (hall q hq).2⟩

/-- A property passes when its name is an identifier and clashes with no property before it. -/
theorem ofProperty?_eq_none_iff {entity : String} {earlier : List Declared} {p : Declared} :
    ofProperty? entity earlier p = none ↔
      Naming.isIdentifier p.name = true ∧ ∀ q ∈ earlier, Apart q p := by
  unfold ofProperty?
  split
  · rename_i h
    simp only [Bool.not_eq_true'] at h
    simp [h]
  · rename_i h
    simp only [Bool.not_eq_true, Bool.not_eq_false'] at h
    rw [clash_eq_none_iff, h]
    simp

/-- One step of a scan in which every item is compared with all before it. -/
theorem scan_cons_iff {α : Type} {P : α → Prop} {f : α → Declared} {earlier : List Declared}
    {a : α} {rest : List α} :
    ((P a ∧ ∀ q ∈ earlier, Apart q (f a)) ∧ (∀ x ∈ rest, P x) ∧
        (∀ q ∈ earlier ++ [f a], ∀ x ∈ rest, Apart q (f x)) ∧
        rest.Pairwise fun x y => Apart (f x) (f y)) ↔
      (∀ x ∈ a :: rest, P x) ∧ (∀ q ∈ earlier, ∀ x ∈ a :: rest, Apart q (f x)) ∧
        (a :: rest).Pairwise fun x y => Apart (f x) (f y) := by
  simp only [List.forall_mem_cons, List.forall_mem_append, List.mem_singleton, forall_eq,
    List.pairwise_cons]
  constructor
  · intro hh
    obtain ⟨⟨ha, hea⟩, hrest, ⟨her, har⟩, hpairs⟩ := hh
    exact ⟨⟨ha, hrest⟩, fun q hq => ⟨hea q hq, her q hq⟩, har, hpairs⟩
  · intro hh
    obtain ⟨⟨ha, hrest⟩, he, har, hpairs⟩ := hh
    exact ⟨⟨ha, fun q hq => (he q hq).1⟩, hrest, ⟨fun q hq => (he q hq).2, har⟩, hpairs⟩

/-- Properties are in order exactly when each is an identifier and apart from all before it. -/
theorem ofProperties?_eq_none_iff {entity : String} {earlier ps : List Declared} :
    ofProperties? entity earlier ps = none ↔
      (∀ p ∈ ps, Naming.isIdentifier p.name = true) ∧
        (∀ q ∈ earlier, ∀ p ∈ ps, Apart q p) ∧ ps.Pairwise Apart := by
  induction ps generalizing earlier with
  | nil => simp [ofProperties?]
  | cons p rest ih =>
    rw [ofProperties?, Option.or_eq_none_iff, ofProperty?_eq_none_iff, ih]
    exact scan_cons_iff (P := fun p => Naming.isIdentifier p.name = true) (f := id)

/-- An entity whose own names are in order. -/
structure WellNamed (e : Entity) : Prop where
  identifier : Naming.isIdentifier e.name = true
  propertyIdentifiers : ∀ name ∈ e.declaredNames, Naming.isIdentifier name = true
  properties : (e.declaredNames.map declaredProperty).Pairwise Apart

theorem ofProperties?_declared_eq_none_iff {e : Entity}
    (he : Naming.isIdentifier e.name = true) :
    ofProperties? e.name [] (e.declaredNames.map declaredProperty) = none ↔ WellNamed e := by
  rw [ofProperties?_eq_none_iff]
  constructor
  · intro hh
    obtain ⟨hids, _, hpairs⟩ := hh
    exact ⟨he, fun n hn => hids (declaredProperty n) (List.mem_map_of_mem hn), hpairs⟩
  · intro hw
    refine ⟨fun p hp => ?_, by simp, hw.properties⟩
    obtain ⟨n, hn, rfl⟩ := List.mem_map.mp hp
    exact hw.propertyIdentifiers n hn

theorem ofEntity?_eq_none_iff {earlier : List Declared} {e : Entity} :
    ofEntity? earlier e = none ↔
      WellNamed e ∧ ∀ q ∈ earlier, Apart q (declaredEntity e.name) := by
  unfold ofEntity?
  split
  · -- the name of the entity is no identifier, so it is not well named
    rename_i h
    simp only [Bool.not_eq_true'] at h
    simp only [reduceCtorEq, false_iff, not_and]
    intro hw
    exact absurd (h.symm.trans hw.identifier) (by decide)
  · rename_i h
    simp only [Bool.not_eq_true, Bool.not_eq_false'] at h
    rw [Option.or_eq_none_iff, ofProperties?_declared_eq_none_iff h]
    apply and_congr_right
    intro _
    exact clash_eq_none_iff (p := declaredEntity e.name)

/-- Entities pass when each is well-named and no two of their classes clash, neither with each other
nor with an earlier one. -/
theorem ofEntities?_eq_none_iff {earlier : List Declared} {es : List Entity} :
    ofEntities? earlier es = none ↔
      (∀ e ∈ es, WellNamed e) ∧
        (∀ q ∈ earlier, ∀ e ∈ es, Apart q (declaredEntity e.name)) ∧
          es.Pairwise fun a b => Apart (declaredEntity a.name) (declaredEntity b.name) := by
  induction es generalizing earlier with
  | nil => simp [ofEntities?]
  | cons e rest ih =>
    rw [ofEntities?, Option.or_eq_none_iff, ofEntity?_eq_none_iff, ih]
    exact scan_cons_iff (P := WellNamed) (f := fun e => declaredEntity e.name)

end NameFault

/-- Whatever the prefix, two classes have one name when the Pascal cases of the entities are the
same. -/
theorem Naming.className_inj {naming : Naming} {n n' : String} :
    naming.className n = naming.className n' ↔ pascalCase n = pascalCase n' := by
  rw [className, className, String.append_right_inj]

namespace Graph

variable {g : Graph}

theorem wellNamed {e : Entity} (he : e ∈ g.entities) : NameFault.WellNamed e :=
  (NameFault.ofEntities?_eq_none_iff.mp g.sound).1 e he

theorem names_nodup (g : Graph) : g.names.Nodup := by
  have hpairs := (NameFault.ofEntities?_eq_none_iff.mp g.sound).2.2
  exact List.pairwise_map.mpr (hpairs.imp fun h => h.1)

theorem declaredNames_nodup {e : Entity} (he : e ∈ g.entities) : e.declaredNames.Nodup := by
  have hpairs := List.pairwise_map.mp (wellNamed he).properties
  exact hpairs.imp fun h => h.1

/-- No two properties of an entity get the same identifier. -/
theorem propertyNames_nodup {e : Entity} (he : e ∈ g.entities) :
    (e.declaredNames.map Naming.propertyName).Nodup := by
  have hpairs := List.pairwise_map.mp (wellNamed he).properties
  exact List.pairwise_map.mpr (hpairs.imp fun h => h.2)

/-- No two entities get the same class. -/
theorem pascalCases_nodup (g : Graph) : (g.names.map Naming.pascalCase).Nodup := by
  have hpairs := (NameFault.ofEntities?_eq_none_iff.mp g.sound).2.2
  rw [names, List.map_map]
  refine List.pairwise_map.mpr (hpairs.imp fun h heq => h.2 ?_)
  simpa [NameFault.declaredEntity, Naming.className] using heq

/-- A name is the name of one entity. -/
theorem eq_of_name_eq {a b : Entity} (ha : a ∈ g.entities) (hb : b ∈ g.entities)
    (h : a.name = b.name) : a = b :=
  List.inj_on_of_nodup_map g.names_nodup ha hb h

theorem eq_of_className_eq {naming : Naming} {a b : Entity} (ha : a ∈ g.entities)
    (hb : b ∈ g.entities) (h : naming.className a.name = naming.className b.name) : a = b := by
  have hnames := List.inj_on_of_nodup_map g.pascalCases_nodup (List.mem_map_of_mem ha)
    (List.mem_map_of_mem hb) (Naming.className_inj.mp h)
  exact eq_of_name_eq ha hb hnames

/-- Looking up a name gives the one entity that has it. -/
theorem get?_eq_some_iff {name : String} {e : Entity} :
    g.get? name = some e ↔ e ∈ g.entities ∧ e.name = name :=
  find?_eq_some_iff_of_nodup g.names_nodup

/-- Only a reference without a target fails to resolve, and the fault carries the reference. -/
theorem resolve_eq_error_iff {reference : String} {fault : Unresolved} :
    g.resolve reference = .error fault ↔ g.target? reference = none ∧ fault = ⟨reference⟩ := by
  unfold resolve
  cases g.target? reference <;> simp [eq_comm]

end Graph

end EntityModels
