import EntityModels.Proofs.Compilation.Agreement
import EntityModels.Proofs.Compilation.Diagnostics

/-!
An entity that is added to a graph in which nothing refers to it. It changes nothing for the others:
without what belongs to it, the new compilation is the old one.
-/
namespace EntityModels

/-- Where a test decides alike on an item and on all that the item gives, it can be made before or
after. -/
theorem filter_flatMap_eq_flatMap_filter {α β : Type} {f : α → List β} {test : α → Bool}
    {keep : β → Bool} {xs : List α} (h : ∀ x ∈ xs, ∀ y ∈ f x, keep y = test x) :
    (xs.flatMap f).filter keep = (xs.filter test).flatMap f := by
  induction xs with
  | nil => rfl
  | cons x xs ih =>
    obtain ⟨hx, hxs⟩ := List.forall_mem_cons.mp h
    rw [List.flatMap_cons, List.filter_append, ih hxs]
    cases htest : test x with
    | true =>
      have hall : (f x).filter keep = f x :=
        List.filter_eq_self.mpr fun y hy => (hx y hy).trans htest
      rw [List.filter_cons_of_pos htest, List.flatMap_cons, hall]
    | false =>
      have hnone : (f x).filter keep = [] :=
        List.filter_eq_nil_iff.mpr fun y hy => by simp [hx y hy, htest]
      rw [List.filter_cons_of_neg (by simp [htest]), hnone, List.nil_append]

namespace Graph

variable {g g' : Graph} {naming : Naming} {c c' : Compilation} {n e : Entity}

/-- The second graph is the first one with `n` at some place among its entities. -/
def Inserts (g g' : Graph) (n : Entity) : Prop :=
  ∃ before after, g.entities = before ++ after ∧ g'.entities = before ++ n :: after

/-- Nothing in the graph refers to `n`, in whatever spelling. -/
def IgnoresName (g : Graph) (n : Entity) : Prop :=
  ∀ e ∈ g.entities, ∀ reference ∈ e.references, Reference.key reference ≠ n.name

instance (g : Graph) (n : Entity) : Decidable (g.IgnoresName n) :=
  inferInstanceAs (Decidable (∀ e ∈ g.entities, ∀ reference ∈ e.references, _ ≠ _))

theorem Inserts.mem_iff (h : g.Inserts g' n) : e ∈ g'.entities ↔ e = n ∨ e ∈ g.entities := by
  obtain ⟨before, after, hg, hg'⟩ := h
  rw [hg, hg', List.mem_append, List.mem_cons, List.mem_append]
  exact or_left_comm

theorem Inserts.name_ne (h : g.Inserts g' n) (he : e ∈ g.entities) : e.name ≠ n.name := by
  obtain ⟨before, after, hg, hg'⟩ := h
  have hnames := g'.names_nodup
  rw [names, hg', List.map_append, List.map_cons] at hnames
  have hfresh := (List.nodup_middle.mp hnames).notMem
  rw [← List.map_append, ← hg] at hfresh
  exact fun heq => hfresh (heq ▸ List.mem_map_of_mem he)

/-- A new entity to which nothing refers leaves every reference of the others as it was. -/
theorem Inserts.agreesWith (h : g.Inserts g' n) (hignores : g.IgnoresName n) :
    g.AgreesWith g' := by
  intro e he reference href
  rw [target?, target?]
  apply Option.ext
  intro p
  rw [get?_eq_some_iff, get?_eq_some_iff, h.mem_iff]
  constructor
  · intro hp
    obtain ⟨rfl | hmem, hname⟩ := hp
    · exact absurd hname.symm (hignores e he reference href)
    · exact ⟨hmem, hname⟩
  · intro hp
    obtain ⟨hmem, hname⟩ := hp
    exact ⟨.inr hmem, hname⟩

/-- What becomes of an entity does not depend on the new one. -/
theorem Inserts.sameOutcome (h : g.Inserts g' n) (hignores : g.IgnoresName n)
    (hc : g.compile naming = .ok c) (hc' : g'.compile naming = .ok c') (he : e ∈ g.entities) :
    g.SameOutcome g' naming e :=
  sameOutcome_of_agreesWith (h.agreesWith hignores) (chainsSound_of_compile hc)
    (chainsSound_of_compile hc') he (h.mem_iff.mpr (.inr he))

/-- What is listed for the entities, each with the name of its entity, is listed as before apart
from what belongs to the new one. -/
theorem Inserts.filter_filterMap (h : g.Inserts g' n) {β : Type} {f f' : Entity → Option β}
    {owner : β → String} (howner : ∀ e y, f' e = some y → owner y = e.name)
    (hsame : ∀ e ∈ g.entities, f' e = f e) :
    (g'.entities.filterMap f').filter (owner · ≠ n.name) = g.entities.filterMap f := by
  have hnew : (f' n).filter (owner · ≠ n.name) = none := by
    rw [Option.filter_eq_none_iff]
    intro y hy
    simp [howner n y hy]
  have hold : ∀ e ∈ g.entities, (f' e).filter (owner · ≠ n.name) = f e := by
    intro e he
    rw [← hsame e he]
    cases hy : f' e with
    | none => rfl
    | some y => simp [howner e y hy, h.name_ne he]
  obtain ⟨before, after, hg, hg'⟩ := h
  rw [List.filter_filterMap, hg', List.filterMap_append, List.filterMap_cons, hnew,
    ← List.filterMap_append, ← hg]
  exact List.filterMap_congr hold

theorem inheritedFault?_entity {failed : List String} {fault : EntityFault}
    (h : (g.outcome naming e).inheritedFault? failed = some fault) : fault.entity = e.name := by
  unfold outcome Outcome.inheritedFault? at h
  split at h
  · simp at h
  · split at h
    · obtain ⟨parent, _, rfl⟩ := Option.map_eq_some_iff.mp h
      rfl
    · simp at h

theorem model?_fst {failed : List String} {entry : String × Model}
    (h : (g.outcome naming e).model? failed = some entry) : entry.1 = e.name := by
  unfold outcome Outcome.model? at h
  split at h
  · simp at h
  · split at h
    · simp at h
    · obtain rfl := Option.some.inj h
      rfl

/-- Without those of the new entity, the failures are the old ones in the old order. -/
theorem Inserts.failures (h : g.Inserts g' n) (hignores : g.IgnoresName n)
    (hc : g.compile naming = .ok c) (hc' : g'.compile naming = .ok c') :
    c'.failures.filter (·.entity ≠ n.name) = c.failures := by
  have hsame := fun e he => h.sameOutcome hignores hc hc' (e := e) he
  rw [failures_of_compile hc, failures_of_compile hc', List.filter_append]
  congr 1
  · exact h.filter_filterMap (fun _ _ hfault => (fault?_outcome_own hfault).entity_eq)
      fun e he => (hsame e he).fault
  · exact h.filter_filterMap (fun _ _ => inheritedFault?_entity)
      fun e he => (hsame e he).inherited

theorem Inserts.entries (h : g.Inserts g' n) (hignores : g.IgnoresName n)
    (hc : g.compile naming = .ok c) (hc' : g'.compile naming = .ok c') :
    c'.models.entries.filter (·.1 ≠ n.name) = c.models.entries := by
  rw [entries_models hc, entries_models hc']
  exact h.filter_filterMap (fun _ _ => model?_fst)
    fun e he => (h.sameOutcome hignores hc hc' he).model

theorem Inserts.models (h : g.Inserts g' n) (hignores : g.IgnoresName n)
    (hc : g.compile naming = .ok c) (hc' : g'.compile naming = .ok c') :
    c'.models.erase n.name = c.models :=
  Record.eq_of_entries_eq (h.entries hignores hc hc')

/-- A model is kept with the warnings of its own entity. -/
theorem entity_of_mem_diagnostics (hc : g.compile naming = .ok c) {entry : String × Model}
    (h : entry ∈ c.models.entries) {d : Diagnostic} (hd : d ∈ entry.2.diagnostics) :
    d.entity = entry.1 := by
  obtain ⟨e, he, hname, _, hm⟩ :=
    (models_get?_eq_some_iff hc).mp (Record.get?_eq_some_iff.mpr h)
  rw [diagnostics_of_synthesize he hm] at hd
  rw [← hname]
  exact entity_of_mem_warnings hd

theorem Inserts.diagnostics (h : g.Inserts g' n) (hignores : g.IgnoresName n)
    (hc : g.compile naming = .ok c) (hc' : g'.compile naming = .ok c') :
    c'.diagnostics.filter (·.entity ≠ n.name) = c.diagnostics := by
  rw [diagnostics_of_compile hc, diagnostics_of_compile hc', Record.values, Record.values,
    ← h.entries hignores hc hc', List.flatMap_map, List.flatMap_map]
  refine filter_flatMap_eq_flatMap_filter fun entry hentry d hd => ?_
  rw [entity_of_mem_diagnostics hc' hentry hd]

/-- What a compilation says of the entities that were there before `n`. -/
structure FramedBy (g : Graph) (n : Entity) (c c' : Compilation) : Prop where
  model : ∀ e ∈ g.entities, c'.model? e.name = c.model? e.name
  failure : ∀ e ∈ g.entities, ∀ fault : EntityFault, fault.entity = e.name →
    (fault ∈ c'.failures ↔ fault ∈ c.failures)
  /-- In the same order, once what belongs to the new entity is taken out. -/
  models : c'.models.erase n.name = c.models
  failures : c'.failures.filter (·.entity ≠ n.name) = c.failures
  diagnostics : c'.diagnostics.filter (·.entity ≠ n.name) = c.diagnostics

/-- An entity to which nothing refers changes nothing for the others, wherever it is inserted. -/
theorem framed_by_insertion (h : g.Inserts g' n) (hignores : g.IgnoresName n)
    (hc : g.compile naming = .ok c) (hc' : g'.compile naming = .ok c') :
    g.FramedBy n c c' := by
  have hmodels := h.models hignores hc hc'
  have hfailures := h.failures hignores hc hc'
  refine ⟨fun e he => ?_, fun e he fault hfault => ?_, hmodels, hfailures,
    h.diagnostics hignores hc hc'⟩
  · have hlookup := Record.get?_erase c'.models n.name e.name
    rw [hmodels, if_neg (h.name_ne he)] at hlookup
    exact hlookup.symm
  · rw [← hfailures, List.mem_filter, hfault]
    simp [h.name_ne he]

/-- A poster is made from a photo and refers to its album and to a size that no graph declares. -/
def poster : Entity where
  name := "poster"
  parent := some "schemas/photo.json"
  properties := [⟨"size", .reference "size", none⟩,
    ⟨"albums", .container .array (.reference "#album"), none⟩]

/-- The albums with posters among their entities. -/
def posters : Graph where
  entities := albums.entities.take 1 ++ poster :: albums.entities.drop 1
  sound := by decide +kernel

/-- The posters have a model and a warning of their own. Everything else is as it was. -/
theorem framed_by_insertion_posters : albums.Inserts posters poster ∧ albums.IgnoresName poster ∧
    ∃ c c', albums.compile {} = .ok c ∧ posters.compile {} = .ok c' ∧
      albums.FramedBy poster c c' ∧ c'.models.keys = ["photo", "poster", "album", "user"] ∧
      ⟨"poster", some "size", "size"⟩ ∈ c'.diagnostics := by
  have hinserts : albums.Inserts posters poster := ⟨_, _, rfl, rfl⟩
  have hignores : albums.IgnoresName poster := by decide +kernel
  have hview : (albums.compile {}).toOption.map (·.failures.length) = some 1 := by
    decide +kernel
  obtain ⟨c, hc, _⟩ := exists_ok_of_view hview
  have hview' : (posters.compile {}).toOption.map (fun c =>
      (c.models.keys, decide (⟨"poster", some "size", "size"⟩ ∈ c.diagnostics))) =
      some (["photo", "poster", "album", "user"], true) := by
    decide +kernel
  obtain ⟨c', hc', hparts⟩ := exists_ok_of_view hview'
  obtain ⟨hkeys, hwarns⟩ := Prod.mk.inj hparts
  exact ⟨hinserts, hignores, c, c', hc, hc', framed_by_insertion hinserts hignores hc hc', hkeys,
    of_decide_eq_true hwarns⟩

end Graph

end EntityModels
