import EntityModels.Proofs.Compilation.Partition
import EntityModels.Proofs.Graph.Forest

/-!
What stops a compilation and what only fails an entity. A run stops at the first entity whose
ancestors are not found, and so exactly when the parents do not form a forest. All other faults are
faults of single entities.
-/
namespace EntityModels.Graph

variable {g : Graph} {naming : Naming} {c : Compilation} {fault : HierarchyFault}

/-- The check stops at the first entity whose ancestors are not found. -/
theorem checkHierarchy_eq_error_iff :
    g.checkHierarchy = .error fault ↔ FirstFault g.ancestors g.entities fault := by
  rw [checkHierarchy, forM_eq_error_iff]
  exact firstFault_map_iff (k := fun _ _ => PUnit.unit)

theorem lineages_eq_error_iff :
    g.lineages = .error fault ↔ FirstFault g.ancestors g.entities fault := by
  rw [lineages, mapM_eq_error_iff, ← firstFault_map_iff (k := fun e as => Lineage.mk as e)]
  have hmap : (fun e => do return Lineage.mk (← g.ancestors e) e) =
      fun e => (g.ancestors e).map fun as => Lineage.mk as e := by
    funext e
    cases g.ancestors e <;> rfl
  rw [hmap]

theorem compile_eq_error_iff :
    g.compile naming = .error fault ↔ g.checkHierarchy = .error fault := by
  rw [checkHierarchy_eq_error_iff, ← lineages_eq_error_iff, compile, bind_eq_error_iff]
  constructor
  · intro h
    rcases h with h | ⟨ls, _, h⟩
    · exact h
    · simp [pure, Except.pure] at h
  · exact .inl

theorem chainsSound_of_checkHierarchy (h : g.checkHierarchy = .ok ()) : g.ChainsSound := by
  cases hrun : g.compile {} with
  | ok c => exact chainsSound_of_compile hrun
  | error fault =>
    rw [compile_eq_error_iff.mp hrun] at h
    cases h

/-- A compilation stops when the parents of the graph do not form a forest. -/
theorem exists_compile_eq_error_iff :
    (∃ fault, g.compile naming = .error fault) ↔ ¬g.IsForest := by
  rw [← forall_ancestors_ok_iff]
  constructor
  · intro h hall
    obtain ⟨fault, hfault⟩ := h
    obtain ⟨_, e, _, heq, _, hfails⟩ :=
      checkHierarchy_eq_error_iff.mp (compile_eq_error_iff.mp hfault)
    obtain ⟨as, has⟩ := hall e (by simp [heq])
    simp [has] at hfails
  · intro h
    cases hrun : g.compile naming with
    | ok c => exact absurd (chainsSound_of_compile hrun) h
    | error fault => exact ⟨fault, rfl⟩

theorem synthesize_of_ancestors_error {e : Entity} (h : g.ancestors e = .error fault) :
    g.synthesize naming e = .error (.hierarchy fault) := by
  rw [synthesize, h]

/-- A failure belongs to one entity of the graph: it is a fault of its own synthesis, or the entity
synthesizes and inherits from one that has failed. -/
theorem exists_of_mem_failures (hc : g.compile naming = .ok c) {failure : EntityFault}
    (h : failure ∈ c.failures) :
    ∃ e ∈ g.entities, failure.entity = e.name ∧
      ((g.synthesize naming e = .error (.entity failure) ∧ failure.OwnOf e.name) ∨
        ∃ ancestor, failure = .failedAncestor e.name ancestor) := by
  have hs := chainsSound_of_compile hc
  rw [failures_of_compile hc, List.mem_append] at h
  rcases h with h | h
  · obtain ⟨e, he, hfault⟩ := List.mem_filterMap.mp h
    obtain ⟨as, has⟩ := hs e he
    have hown := fault?_outcome_own hfault
    exact ⟨e, he, hown.entity_eq, .inl ⟨(fault?_outcome_eq_some_iff has).mp hfault, hown⟩⟩
  · obtain ⟨e, he, hfault⟩ := List.mem_filterMap.mp h
    obtain ⟨as, has⟩ := hs e he
    rw [inheritedFault?_outcome hs has] at hfault
    split at hfault
    · obtain ⟨parent, _, rfl⟩ := Option.map_eq_some_iff.mp hfault
      exact ⟨e, he, rfl, .inr ⟨_, rfl⟩⟩
    · simp at hfault

/-- In a run that does not stop, the fault with which an entity is synthesized fails only that
entity, and is among the failures. -/
theorem mem_failures_of_synthesize (hc : g.compile naming = .ok c) {e : Entity}
    (he : e ∈ g.entities) {returned : CompileFault} (h : g.synthesize naming e = .error returned) :
    ∃ failure ∈ c.failures, returned = .entity failure ∧ failure.entity = e.name := by
  obtain ⟨as, has⟩ := chainsSound_of_compile hc e he
  rw [synthesize_of_ancestors has] at h
  cases hmodel : Synthesis.model ⟨g, naming⟩ (g.lineage e) with
  | ok m =>
    rw [hmodel] at h
    cases h
  | error failure =>
    rw [hmodel] at h
    have hfault : (g.outcome naming e).fault? = some failure := by
      rw [outcome, Outcome.fault?, hmodel]
    refine ⟨failure, ?_, (Except.error.inj h).symm, (fault?_outcome_own hfault).entity_eq⟩
    rw [failures_of_compile hc]
    exact List.mem_append_left _ (List.mem_filterMap.mpr ⟨e, he, hfault⟩)

/-- Which faults stop a run, and which only fail an entity. -/
structure FaultsSorted (g : Graph) (naming : Naming) : Prop where
  /-- A run stops exactly when a parent is not in the graph or an entity is above itself. -/
  stops : (∃ fault, g.compile naming = .error fault) ↔
    ∃ e ∈ g.entities, g.HasUnknownParent e ∨ g.OnCycle e
  /-- The check of the hierarchy stops with the same fault. -/
  check : ∀ fault, g.compile naming = .error fault ↔ g.checkHierarchy = .error fault
  /-- The run stops with the fault of the first entity whose ancestors are not found. -/
  first : ∀ fault, g.checkHierarchy = .error fault ↔ FirstFault g.ancestors g.entities fault
  /-- The synthesis of that entity returns the same fault, and that one is run-fatal. -/
  fatal : ∀ fault, g.compile naming = .error fault → ∃ e ∈ g.entities, ∃ returned,
    g.synthesize naming e = .error returned ∧ returned = .hierarchy fault ∧
      returned.isRunFatal = true
  /-- Once it has passed, the ancestors of every entity are found. -/
  sound : ∀ c, g.compile naming = .ok c → ∀ e ∈ g.entities, ∃ as, g.ancestors e = .ok as
  /-- In a run that does not stop, no synthesis returns a run-fatal fault. Each one that it returns
  names the entity and is a failure of the run. -/
  returned : ∀ c, g.compile naming = .ok c → ∀ e ∈ g.entities, ∀ returned,
    g.synthesize naming e = .error returned →
      returned.isRunFatal = false ∧ returned.subject = e.name ∧
        ∃ failure ∈ c.failures, returned = .entity failure
  /-- No failure of a run is run-fatal, and each names its entity: one whose synthesis returns it,
  or one with an ancestor that failed. -/
  failures : ∀ c, g.compile naming = .ok c → ∀ failure ∈ c.failures,
    (CompileFault.entity failure).isRunFatal = false ∧
    ∃ e ∈ g.entities, failure.entity = e.name ∧ (CompileFault.entity failure).subject = e.name ∧
      ((g.synthesize naming e = .error (.entity failure) ∧
        ((∃ property element, failure = .containerElement e.name property element) ∨
          ∃ property ancestor inherited,
            failure = .inheritedCollision e.name property ancestor inherited)) ∨
        ∃ ancestor, failure = .failedAncestor e.name ancestor)

/-- What stops a compilation and what fails an entity are told apart in every graph. -/
theorem faults_sorted (g : Graph) (naming : Naming) : g.FaultsSorted naming where
  stops := by rw [exists_compile_eq_error_iff, not_isForest_iff]
  check _ := compile_eq_error_iff
  first _ := checkHierarchy_eq_error_iff
  fatal fault hfault := by
    obtain ⟨_, e, _, heq, _, hfails⟩ :=
      checkHierarchy_eq_error_iff.mp (compile_eq_error_iff.mp hfault)
    exact ⟨e, by simp [heq], _, synthesize_of_ancestors_error hfails, rfl, rfl⟩
  sound _ hc := chainsSound_of_compile hc
  returned c hc e he returned hreturned := by
    obtain ⟨failure, hmem, rfl, hentity⟩ := mem_failures_of_synthesize hc he hreturned
    exact ⟨rfl, hentity, failure, hmem, rfl⟩
  failures c hc failure hmem := by
    obtain ⟨e, he, hentity, hsource⟩ := exists_of_mem_failures hc hmem
    exact ⟨rfl, e, he, hentity, hentity, hsource⟩

/-- Two folders that lie in each other, behind one that lies in neither. -/
def nested : Graph where
  entities := [{ name := "shelf" }, { name := "folder", parent := some "schemas/drawer.json" },
    { name := "drawer", parent := some "#folder" }]
  sound := by decide +kernel

theorem faults_sorted_nested : ∃ e ∈ nested.entities, nested.OnCycle e ∧
    nested.compile {} = .error (.cyclicChain "folder" ["folder", "drawer", "folder"]) := by
  have hup : nested.IsParent { name := "folder", parent := some "schemas/drawer.json" }
      { name := "drawer", parent := some "#folder" } := by
    unfold IsParent
    decide +kernel
  have hdown : nested.IsParent { name := "drawer", parent := some "#folder" }
      { name := "folder", parent := some "schemas/drawer.json" } := by
    unfold IsParent
    decide +kernel
  refine ⟨_, by simp [nested], .tail (.single hup) hdown, ?_⟩
  rw [(faults_sorted nested {}).check]
  decide +kernel

end EntityModels.Graph
