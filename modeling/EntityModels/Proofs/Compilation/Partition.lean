import EntityModels.Model.Compilation
import EntityModels.Proofs.Model.Synthesis

/-!
How a compilation divides the entities of its graph. An entity has a model exactly when it and all
its ancestors synthesize; every other entity has one failure, its own or one that names its parent.
-/
namespace EntityModels

/-- Two tests cut a list into three parts. -/
theorem filter_three_perm {α : Type} (p q : α → Bool) (xs : List α) :
    (xs.filter (fun x => p x && !q x) ++
      (xs.filter (fun x => !p x) ++ xs.filter fun x => p x && q x)).Perm xs := by
  -- `p` cuts the list in two, and `q` cuts the part that passes
  have hp := List.filter_append_perm p xs
  have hq := List.filter_append_perm q (xs.filter p)
  simp only [List.filter_filter] at hq
  have hswap : (xs.filter (fun x => p x && !q x) ++ xs.filter fun x => p x && q x).Perm
      (xs.filter p) := by
    refine List.perm_append_comm.trans ?_
    simpa only [Bool.and_comm] using hq
  calc
    List.Perm _ (xs.filter (fun x => p x && !q x) ++
        (xs.filter (fun x => p x && q x) ++ xs.filter fun x => !p x)) :=
      List.Perm.append_left _ List.perm_append_comm
    _ = (xs.filter (fun x => p x && !q x) ++ xs.filter fun x => p x && q x) ++
        xs.filter fun x => !p x := (List.append_assoc _ _ _).symm
    List.Perm _ (xs.filter p ++ xs.filter fun x => !p x) := hswap.append_right _
    List.Perm _ xs := hp

namespace Graph

/-- Every entity has a sound parent chain. -/
def ChainsSound (g : Graph) : Prop := ∀ e ∈ g.entities, ∃ as, g.ancestors e = .ok as

/-- Whether an entity has a model of its own. -/
def synthesizes (g : Graph) (naming : Naming) (e : Entity) : Bool :=
  (g.synthesize naming e).toBool

/-- Whether an ancestor of the entity has no model of its own. -/
def hasFailedAncestor (g : Graph) (naming : Naming) (e : Entity) : Bool :=
  (g.lineage e).ancestors.any fun a => !g.synthesizes naming a

/-- Whether an entity and all its ancestors have models of their own. -/
def compiles (g : Graph) (naming : Naming) (e : Entity) : Bool :=
  g.synthesizes naming e && !g.hasFailedAncestor naming e

/-- Whether only an ancestor keeps an entity from having a model. -/
def isOrphaned (g : Graph) (naming : Naming) (e : Entity) : Bool :=
  g.synthesizes naming e && g.hasFailedAncestor naming e

/-- The outcome of an entity's own synthesis. -/
def outcome (g : Graph) (naming : Naming) (e : Entity) : Outcome :=
  ⟨g.lineage e, Synthesis.model ⟨g, naming⟩ (g.lineage e)⟩

/-- The faults of the entities that fail on their own. -/
def ownFailures (g : Graph) (naming : Naming) : List EntityFault :=
  g.entities.filterMap fun e => (g.outcome naming e).fault?

/-- The names of the entities that fail on their own. -/
def failedNames (g : Graph) (naming : Naming) : List String :=
  (g.ownFailures naming).map (·.entity)

/-- The faults of the entities that only an ancestor fails. -/
def inheritedFailures (g : Graph) (naming : Naming) : List EntityFault :=
  g.entities.filterMap fun e => (g.outcome naming e).inheritedFault? (g.failedNames naming)

/-- The models of the entities that compile, under their names. -/
def compiledModels (g : Graph) (naming : Naming) : List (String × Model) :=
  g.entities.filterMap fun e => (g.outcome naming e).model? (g.failedNames naming)

variable {g : Graph} {naming : Naming} {c : Compilation}

/-- A compilation succeeds when the ancestors of every entity are found, and consists of the
outcomes of its entities. -/
theorem compile_eq_ok_iff :
    g.compile naming = .ok c ↔
      g.ChainsSound ∧ c = .ofOutcomes naming (g.entities.map (g.outcome naming)) := by
  rw [compile, bind_eq_ok_iff]
  constructor
  · intro hh
    obtain ⟨ls, hls, hc⟩ := hh
    obtain ⟨hsound, rfl⟩ := lineages_eq_ok_iff.mp hls
    obtain rfl := Except.ok.inj hc
    refine ⟨hsound, ?_⟩
    rw [List.map_map]
    rfl
  · intro hh
    obtain ⟨hsound, rfl⟩ := hh
    refine ⟨_, lineages_eq_ok_iff.mpr ⟨hsound, rfl⟩, ?_⟩
    rw [List.map_map]
    rfl

theorem chainsSound_of_compile (hc : g.compile naming = .ok c) : g.ChainsSound :=
  (compile_eq_ok_iff.mp hc).1

theorem models_of_compile (hc : g.compile naming = .ok c) :
    c.models = .ofList (g.compiledModels naming) := by
  obtain ⟨_, rfl⟩ := compile_eq_ok_iff.mp hc
  simp only [Compilation.ofOutcomes, List.filterMap_map]
  rfl

theorem failures_of_compile (hc : g.compile naming = .ok c) :
    c.failures = g.ownFailures naming ++ g.inheritedFailures naming := by
  obtain ⟨_, rfl⟩ := compile_eq_ok_iff.mp hc
  simp only [Compilation.ofOutcomes, List.filterMap_map]
  rfl

/-- Only models that survive have their diagnostics listed. -/
theorem diagnostics_of_compile (hc : g.compile naming = .ok c) :
    c.diagnostics = c.models.values.flatMap (·.diagnostics) := by
  obtain ⟨_, rfl⟩ := compile_eq_ok_iff.mp hc
  rfl

theorem synthesizes_iff {e : Entity} :
    g.synthesizes naming e = true ↔ ∃ m, g.synthesize naming e = .ok m := by
  unfold synthesizes
  cases g.synthesize naming e <;> simp [Except.toBool]

/-- An entity compiles when it and all its ancestors synthesize. -/
theorem compiles_iff {e : Entity} {as : List Entity} (h : g.ancestors e = .ok as) :
    g.compiles naming e = true ↔
      g.synthesizes naming e = true ∧ ∀ a ∈ as, g.synthesizes naming a = true := by
  simp [compiles, hasFailedAncestor, lineage_of_ancestors h]

/-- What is above an entity that compiles does so too. -/
theorem compiles_of_mem {e a : Entity} {as : List Entity} (h : g.ancestors e = .ok as)
    (hc : g.compiles naming e = true) (ha : a ∈ as) : g.compiles naming a = true := by
  have hall := ((compiles_iff h).mp hc).2
  obtain ⟨xs, ys, rfl, hxs⟩ := ancestors_of_mem h ha
  exact (compiles_iff hxs).mpr ⟨hall a ha, fun x hx => hall x (List.mem_append_left _ hx)⟩

theorem fault?_outcome_eq_some_iff {e : Entity} {as : List Entity} (h : g.ancestors e = .ok as)
    {fault : EntityFault} :
    (g.outcome naming e).fault? = some fault ↔
      g.synthesize naming e = .error (.entity fault) := by
  rw [synthesize_of_ancestors h, outcome, Outcome.fault?]
  dsimp only
  cases Synthesis.model ⟨g, naming⟩ (g.lineage e) <;> simp [Except.mapError]

theorem isSome_fault?_outcome {e : Entity} {as : List Entity} (h : g.ancestors e = .ok as) :
    (g.outcome naming e).fault?.isSome = !g.synthesizes naming e := by
  rw [synthesizes, synthesize_of_ancestors h, outcome, Outcome.fault?]
  dsimp only
  cases Synthesis.model ⟨g, naming⟩ (g.lineage e) <;> rfl

/-- The fault in an outcome is one of the entity itself. -/
theorem fault?_outcome_own {e : Entity} {fault : EntityFault}
    (h : (g.outcome naming e).fault? = some fault) : fault.OwnOf e.name := by
  unfold outcome Outcome.fault? at h
  split at h
  · rename_i hfault
    obtain rfl := Option.some.inj h
    exact Synthesis.model_error hfault
  · simp at h

/-- The first failures are, one by one, those of the entities that do not synthesize. -/
theorem forall₂_ownFailures (naming : Naming) (hs : g.ChainsSound) :
    List.Forall₂ (fun e fault => fault.entity = e.name ∧
        g.synthesize naming e = .error (.entity fault))
      (g.entities.filter fun e => !g.synthesizes naming e) (g.ownFailures naming) := by
  have hsome : ∀ e ∈ g.entities, (g.outcome naming e).fault?.isSome = !g.synthesizes naming e := by
    intro e he
    obtain ⟨as, has⟩ := hs e he
    exact isSome_fault?_outcome has
  apply (forall₂_filterMap hsome).imp
  intro e fault hh
  obtain ⟨he, _, hfault⟩ := hh
  obtain ⟨as, has⟩ := hs e he
  exact ⟨(fault?_outcome_own hfault).entity_eq, (fault?_outcome_eq_some_iff has).mp hfault⟩

theorem failedNames_eq (naming : Naming) (hs : g.ChainsSound) :
    g.failedNames naming = (g.entities.filter fun e => !g.synthesizes naming e).map (·.name) :=
  (map_eq_map_of_forall₂ ((forall₂_ownFailures naming hs).imp fun _ _ h => h.1.symm)).symm

theorem mem_failedNames_iff (hs : g.ChainsSound) {a : Entity} (ha : a ∈ g.entities) :
    a.name ∈ g.failedNames naming ↔ g.synthesizes naming a = false := by
  rw [failedNames_eq naming hs, List.mem_map]
  constructor
  · intro hh
    obtain ⟨e, he, hname⟩ := hh
    obtain ⟨hmem, hfails⟩ := List.mem_filter.mp he
    obtain rfl : e = a := eq_of_name_eq hmem ha hname
    simpa using hfails
  · intro hfails
    exact ⟨a, List.mem_filter.mpr ⟨ha, by simp [hfails]⟩, rfl⟩

/-- The run looks only for ancestors that fail on their own, and that is enough. -/
theorem any_mem_failedNames (hs : g.ChainsSound) {e : Entity} {as : List Entity}
    (h : g.ancestors e = .ok as) :
    (g.lineage e).ancestors.any (·.name ∈ g.failedNames naming) =
      g.hasFailedAncestor naming e := by
  rw [hasFailedAncestor, lineage_of_ancestors h, Bool.eq_iff_iff]
  simp only [List.any_eq_true, decide_eq_true_eq, Bool.not_eq_true']
  constructor
  · intro hh
    obtain ⟨a, ha, hfailed⟩ := hh
    exact ⟨a, ha, (mem_failedNames_iff hs (ancestors_mem h ha)).mp hfailed⟩
  · intro hh
    obtain ⟨a, ha, hfails⟩ := hh
    exact ⟨a, ha, (mem_failedNames_iff hs (ancestors_mem h ha)).mpr hfails⟩

/-- An entity inherits a fault when it synthesizes below an ancestor that does not, and the fault
names its parent. -/
theorem inheritedFault?_outcome (hs : g.ChainsSound) {e : Entity} {as : List Entity}
    (h : g.ancestors e = .ok as) :
    (g.outcome naming e).inheritedFault? (g.failedNames naming) =
      if g.isOrphaned naming e then
        as.getLast?.map fun parent => .failedAncestor e.name parent.name
      else none := by
  rw [isOrphaned, ← any_mem_failedNames hs h, synthesizes, synthesize_of_ancestors h, outcome,
    Outcome.inheritedFault?]
  dsimp only
  cases Synthesis.model ⟨g, naming⟩ (g.lineage e) with
  | error fault => rfl
  | ok m =>
    simp only [Except.mapError, Except.toBool, Bool.true_and, lineage_of_ancestors h]
    rfl

theorem inheritedFault?_of_isOrphaned (hs : g.ChainsSound) {e : Entity} (he : e ∈ g.entities)
    (horphan : g.isOrphaned naming e = true) :
    ∃ parent, g.parent? e = some parent ∧
      (g.outcome naming e).inheritedFault? (g.failedNames naming) =
        some (.failedAncestor e.name parent.name) := by
  obtain ⟨as, has⟩ := hs e he
  rw [inheritedFault?_outcome hs has, if_pos horphan]
  cases as using List.reverseRecOn with
  | nil =>
    simp [isOrphaned, hasFailedAncestor, lineage_of_ancestors has] at horphan
  | append_singleton as parent => exact ⟨parent, (ancestors_concat has).1, by simp⟩

/-- The later failures are, one by one, those of the entities that only an ancestor fails. -/
theorem forall₂_inheritedFailures (naming : Naming) (hs : g.ChainsSound) :
    List.Forall₂ (fun e fault => e ∈ g.entities ∧ g.isOrphaned naming e = true ∧
        ∃ parent, g.parent? e = some parent ∧ fault = .failedAncestor e.name parent.name)
      (g.entities.filter (g.isOrphaned naming)) (g.inheritedFailures naming) := by
  have hsome : ∀ e ∈ g.entities,
      ((g.outcome naming e).inheritedFault? (g.failedNames naming)).isSome =
        g.isOrphaned naming e := by
    intro e he
    by_cases horphan : g.isOrphaned naming e = true
    · obtain ⟨parent, _, hfault⟩ := inheritedFault?_of_isOrphaned hs he horphan
      rw [hfault, horphan]
      rfl
    · obtain ⟨as, has⟩ := hs e he
      rw [inheritedFault?_outcome hs has, if_neg horphan, Bool.eq_false_iff.mpr horphan]
      rfl
  apply (forall₂_filterMap hsome).imp
  intro e fault hh
  obtain ⟨he, horphan, hfault⟩ := hh
  obtain ⟨parent, hparent, heq⟩ := inheritedFault?_of_isOrphaned hs he horphan
  exact ⟨he, horphan, parent, hparent, Option.some.inj (hfault.symm.trans heq)⟩

theorem inheritedFailures_map_entity (naming : Naming) (hs : g.ChainsSound) :
    (g.inheritedFailures naming).map (·.entity) =
      (g.entities.filter (g.isOrphaned naming)).map (·.name) := by
  refine (map_eq_map_of_forall₂ ((forall₂_inheritedFailures naming hs).imp ?_)).symm
  intro e fault hh
  obtain ⟨_, _, parent, _, rfl⟩ := hh
  rfl

/-- The model that an outcome contributes is that of an entity that compiles, under its name. -/
theorem model?_outcome_eq_some_iff (hs : g.ChainsSound) {e : Entity} (he : e ∈ g.entities)
    {entry : String × Model} :
    (g.outcome naming e).model? (g.failedNames naming) = some entry ↔
      e.name = entry.1 ∧ g.compiles naming e = true ∧ g.synthesize naming e = .ok entry.2 := by
  obtain ⟨as, has⟩ := hs e he
  rw [compiles, ← any_mem_failedNames hs has, synthesizes, synthesize_of_ancestors has, outcome,
    Outcome.model?]
  dsimp only
  cases Synthesis.model ⟨g, naming⟩ (g.lineage e) with
  | error fault => simp [Except.mapError]
  | ok m =>
    cases (g.lineage e).ancestors.any (·.name ∈ g.failedNames naming) <;>
      simp [Outcome.name, lineage, Except.mapError, Except.toBool, Prod.ext_iff]

theorem isSome_model?_outcome (hs : g.ChainsSound) {e : Entity} (he : e ∈ g.entities) :
    ((g.outcome naming e).model? (g.failedNames naming)).isSome = g.compiles naming e := by
  rw [Bool.eq_iff_iff, Option.isSome_iff_exists]
  simp only [model?_outcome_eq_some_iff hs he]
  constructor
  · intro hh
    obtain ⟨entry, _, hcompiles, _⟩ := hh
    exact hcompiles
  · intro hcompiles
    obtain ⟨m, hm⟩ := synthesizes_iff.mp (Bool.and_eq_true_iff.mp hcompiles).1
    exact ⟨(e.name, m), rfl, hcompiles, hm⟩

/-- The compiled models are those of the entities that compile, in order. -/
theorem forall₂_compiledModels (naming : Naming) (hs : g.ChainsSound) :
    List.Forall₂ (fun e entry => e ∈ g.entities ∧ e.name = entry.1 ∧
        g.synthesize naming e = .ok entry.2)
      (g.entities.filter (g.compiles naming)) (g.compiledModels naming) := by
  have hsome : ∀ e ∈ g.entities,
      ((g.outcome naming e).model? (g.failedNames naming)).isSome = g.compiles naming e :=
    fun e he => isSome_model?_outcome hs he
  apply (forall₂_filterMap hsome).imp
  intro e entry hh
  obtain ⟨he, _, hentry⟩ := hh
  obtain ⟨hname, _, hm⟩ := (model?_outcome_eq_some_iff hs he).mp hentry
  exact ⟨he, hname, hm⟩

theorem compiledModels_map_fst (naming : Naming) (hs : g.ChainsSound) :
    (g.compiledModels naming).map (·.1) =
      (g.entities.filter (g.compiles naming)).map (·.name) :=
  (map_eq_map_of_forall₂ ((forall₂_compiledModels naming hs).imp fun _ _ h => h.2.1)).symm

theorem compiledModels_nodup (naming : Naming) (hs : g.ChainsSound) :
    ((g.compiledModels naming).map (·.1)).Nodup := by
  rw [compiledModels_map_fst naming hs]
  exact (List.filter_sublist.map _).nodup g.names_nodup

theorem entries_models (hc : g.compile naming = .ok c) :
    c.models.entries = g.compiledModels naming := by
  rw [models_of_compile hc,
    Record.entries_ofList (compiledModels_nodup naming (chainsSound_of_compile hc))]

theorem keys_models (hc : g.compile naming = .ok c) :
    c.models.keys = (g.entities.filter (g.compiles naming)).map (·.name) := by
  rw [Record.keys, entries_models hc, compiledModels_map_fst naming (chainsSound_of_compile hc)]

/-- A model is kept under the name of its entity when that entity compiles. -/
theorem models_get?_eq_some_iff (hc : g.compile naming = .ok c) {name : String} {m : Model} :
    c.models.get? name = some m ↔ ∃ e ∈ g.entities, e.name = name ∧
      g.compiles naming e = true ∧ g.synthesize naming e = .ok m := by
  have hs := chainsSound_of_compile hc
  rw [Record.get?_eq_some_iff, entries_models hc, compiledModels, List.mem_filterMap]
  constructor
  · intro hh
    obtain ⟨e, he, hentry⟩ := hh
    exact ⟨e, he, (model?_outcome_eq_some_iff hs he).mp hentry⟩
  · intro hh
    obtain ⟨e, he, hentry⟩ := hh
    exact ⟨e, he, (model?_outcome_eq_some_iff hs he).mpr hentry⟩

theorem failures_map_entity (hc : g.compile naming = .ok c) :
    c.failures.map (·.entity) =
      (g.entities.filter fun e => !g.synthesizes naming e).map (·.name) ++
        (g.entities.filter (g.isOrphaned naming)).map (·.name) := by
  have hs := chainsSound_of_compile hc
  rw [failures_of_compile hc, List.map_append, inheritedFailures_map_entity naming hs,
    ← failedNames_eq naming hs]
  rfl

/-- Each entity has a model or a failure, and none has both. -/
theorem models_failures_perm (hc : g.compile naming = .ok c) :
    (c.models.keys ++ c.failures.map (·.entity)).Perm g.names := by
  rw [keys_models hc, failures_map_entity hc, ← List.map_append, ← List.map_append]
  exact (filter_three_perm (g.synthesizes naming) (g.hasFailedAncestor naming) g.entities).map _

theorem length_failures_add_size_models (hc : g.compile naming = .ok c) :
    c.failures.length + c.models.size = g.size := by
  have hlength := (models_failures_perm hc).length_eq
  rw [List.length_append, List.length_map, Record.length_keys, names, List.length_map] at hlength
  rw [size]
  omega

/-- The parent of an entity that only an ancestor fails has failed as well: on its own, or because
that ancestor is above it too. -/
theorem parent_mem_failures (hc : g.compile naming = .ok c) {e parent : Entity}
    (he : e ∈ g.entities) (horphan : g.isOrphaned naming e = true)
    (hparent : g.parent? e = some parent) : parent.name ∈ c.failures.map (·.entity) := by
  obtain ⟨as, has⟩ := chainsSound_of_compile hc e he
  rw [failures_map_entity hc, ← List.map_append]
  apply List.mem_map_of_mem
  have hmem : parent ∈ g.entities := parent?_mem hparent
  have hfailed := (Bool.and_eq_true_iff.mp horphan).2
  rw [hasFailedAncestor, lineage_of_ancestors has] at hfailed
  obtain ⟨a, ha, hfails⟩ := List.any_eq_true.mp hfailed
  cases as using List.reverseRecOn with
  | nil => simp at ha
  | append_singleton xs p =>
    -- either the parent fails on its own, or it is not the ancestor that failed
    obtain ⟨hp, hxs⟩ := ancestors_concat has
    obtain rfl : p = parent := Option.some.inj (hp.symm.trans hparent)
    by_cases hown : g.synthesizes naming p = true
    · -- then the failed ancestor stands above the parent
      have hax : a ∈ xs := by
        rcases List.mem_append.mp ha with ha | ha
        · exact ha
        · rw [List.mem_singleton.mp ha, hown] at hfails
          simp at hfails
      have habove : g.hasFailedAncestor naming p = true := by
        rw [hasFailedAncestor, lineage_of_ancestors hxs]
        exact List.any_eq_true.mpr ⟨a, hax, hfails⟩
      refine List.mem_append_right _ (List.mem_filter.mpr ⟨hmem, ?_⟩)
      rw [isOrphaned, hown, habove]
      rfl
    · exact List.mem_append_left _ (List.mem_filter.mpr ⟨hmem, by simpa using hown⟩)

/-- A model is kept when it is that of the entity and every ancestor has one. -/
theorem models_get?_name_iff (hc : g.compile naming = .ok c) {e : Entity} (he : e ∈ g.entities)
    {m : Model} :
    c.models.get? e.name = some m ↔ g.synthesize naming e = .ok m ∧
      ∃ as, g.ancestors e = .ok as ∧ ∀ a ∈ as, ∃ m', g.synthesize naming a = .ok m' := by
  rw [models_get?_eq_some_iff hc]
  constructor
  · intro h
    obtain ⟨e', he', hname, hcompiles, hm⟩ := h
    obtain rfl := eq_of_name_eq he' he hname
    obtain ⟨as, has⟩ := chainsSound_of_compile hc e' he
    have hall := ((compiles_iff has).mp hcompiles).2
    exact ⟨hm, as, has, fun a ha => synthesizes_iff.mp (hall a ha)⟩
  · intro h
    obtain ⟨hm, as, has, hall⟩ := h
    have hcompiles := (compiles_iff has).mpr
      ⟨synthesizes_iff.mpr ⟨m, hm⟩, fun a ha => synthesizes_iff.mpr (hall a ha)⟩
    exact ⟨e, he, rfl, hcompiles, hm⟩

/-- An entity that only an ancestor fails has a model that is not kept. -/
theorem isOrphaned_iff (hs : g.ChainsSound) {e : Entity} (he : e ∈ g.entities) :
    g.isOrphaned naming e = true ↔ (∃ m, g.synthesize naming e = .ok m) ∧
      ∃ as, g.ancestors e = .ok as ∧ ∃ a ∈ as, ∃ fault, g.synthesize naming a = .error fault := by
  obtain ⟨as, has⟩ := hs e he
  have hfails : ∀ a, (!g.synthesizes naming a) = true ↔
      ∃ fault, g.synthesize naming a = .error fault := by
    intro a
    rw [synthesizes]
    cases g.synthesize naming a <;> simp [Except.toBool]
  rw [isOrphaned, Bool.and_eq_true_iff, synthesizes_iff, hasFailedAncestor,
    lineage_of_ancestors has, List.any_eq_true]
  simp only [hfails, has, Except.ok.injEq, exists_eq_left']

/-- How a compilation divides the entities of a graph. -/
structure Partition (g : Graph) (naming : Naming) (c : Compilation) : Prop where
  /-- Every entity stands once, under its model or in its failure. -/
  once : (c.models.keys ++ c.failures.map (·.entity)).Perm g.names
  distinct : (c.models.keys ++ c.failures.map (·.entity)).Nodup
  count : c.failures.length + c.models.size = g.size
  /-- An entity has a model when it and its ancestors synthesize, and it is the one synthesized. -/
  model : ∀ e ∈ g.entities, ∀ m, c.models.get? e.name = some m ↔
    g.synthesize naming e = .ok m ∧
      ∃ as, g.ancestors e = .ok as ∧ ∀ a ∈ as, ∃ m', g.synthesize naming a = .ok m'
  /-- The models stand in the order of their entities. -/
  order : c.models.keys.Sublist g.names
  /-- An entity that only an ancestor fails has a model of its own, below an ancestor without
  one. -/
  orphaned : ∀ e ∈ g.entities, g.isOrphaned naming e = true ↔
    (∃ m, g.synthesize naming e = .ok m) ∧
      ∃ as, g.ancestors e = .ok as ∧ ∃ a ∈ as, ∃ fault, g.synthesize naming a = .error fault
  /-- First the entities that fail on their own, each with its fault. Then those that only an
  ancestor fails, each with its parent, which fails as well. -/
  failures : ∃ own inherited, c.failures = own ++ inherited ∧
    List.Forall₂ (fun e fault => fault.entity = e.name ∧
        g.synthesize naming e = .error (.entity fault))
      (g.entities.filter fun e => !g.synthesizes naming e) own ∧
    List.Forall₂ (fun e fault => ∃ parent, g.parent? e = some parent ∧
        fault = .failedAncestor e.name parent.name ∧
        parent.name ∈ c.failures.map (·.entity))
      (g.entities.filter (g.isOrphaned naming)) inherited

/-- A compilation divides its graph into models and failures. -/
theorem compile_partition (hc : g.compile naming = .ok c) : g.Partition naming c := by
  have hs := chainsSound_of_compile hc
  have honce := models_failures_perm hc
  refine ⟨honce, ?_, length_failures_add_size_models hc, ?_, ?_, ?_, ?_⟩
  · exact honce.nodup_iff.mpr g.names_nodup
  · intro e he m
    exact models_get?_name_iff hc he
  · rw [keys_models hc]
    exact List.filter_sublist.map _
  · intro e he
    exact isOrphaned_iff hs he
  · refine ⟨g.ownFailures naming, g.inheritedFailures naming, failures_of_compile hc,
      forall₂_ownFailures naming hs, ?_⟩
    apply (forall₂_inheritedFailures naming hs).imp
    intro e fault hfault
    obtain ⟨he, horphan, parent, hparent, rfl⟩ := hfault
    exact ⟨parent, hparent, rfl, parent_mem_failures hc he horphan hparent⟩

/-- Boards of three generations, the youngest first, and records whose root has no model. -/
def boards : Graph where
  entities := [
    { name := "audit", parent := some "journal" },
    { name := "vault", parent := some "secret_board"
      properties := [⟨"name", .text .plain, none⟩, ⟨"pin", .scalar .integer, none⟩,
        ⟨"note", .text .plain, none⟩] },
    { name := "board"
      properties := [⟨"name", .text .plain, none⟩, ⟨"url", .text .uri, none⟩] },
    { name := "secret_board", parent := some "schemas/board.json"
      properties := [⟨"owner", .reference "record", none⟩] },
    { name := "journal", parent := some "record" },
    { name := "record"
      properties := [⟨"ids", .container .array (.scalar .integer), none⟩] }]
  sound := by decide +kernel

/-- The audits fail because of the records, two generations above them, and name the journals. -/
theorem compile_boards : ∃ c, boards.compile {} = .ok c ∧
    c.models.keys = ["vault", "board", "secret_board"] ∧
    c.failures.map (·.entity) = ["record", "audit", "journal"] ∧
    c.failures.drop 1 =
      [.failedAncestor "audit" "journal", .failedAncestor "journal" "record"] := by
  have hview : (boards.compile {}).toOption.map
      (fun c => (c.models.keys, c.failures.map (·.entity), c.failures.drop 1)) =
      some (["vault", "board", "secret_board"], ["record", "audit", "journal"],
        [.failedAncestor "audit" "journal", .failedAncestor "journal" "record"]) := by
    decide +kernel
  obtain ⟨c, hsome, hparts⟩ := Option.map_eq_some_iff.mp hview
  obtain ⟨hkeys, hrest⟩ := Prod.mk.inj hparts
  obtain ⟨hentities, hinherited⟩ := Prod.mk.inj hrest
  exact ⟨c, toOption_eq_some_iff.mp hsome, hkeys, hentities, hinherited⟩

theorem compile_partition_boards : ∃ c, boards.compile {} = .ok c ∧ boards.Partition {} c := by
  obtain ⟨c, hc, _⟩ := compile_boards
  exact ⟨c, hc, compile_partition hc⟩

end Graph

end EntityModels
