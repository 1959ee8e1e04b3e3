import EntityModels.Instance.Builder
import EntityModels.Proofs.Compilation.Partition

/-!
The chains of a compilation. The models that a graph compiles to are closed under ancestors, so the
walk up their parent links meets the same entities as the climb in the graph, and it ends although
it does not look whether it has met an entity before.
-/
namespace EntityModels

/-- A walk up the parent links: the models met so far, the last met first, and the entity that is
looked up next, if there is one. -/
structure Walk where
  met : List Model
  next : Option String

namespace Compilation

/-- One turn of a walk. -/
def turn (c : Compilation) (w : Walk) : Except InstanceFault Walk :=
  match w.next with
  | none => .ok w
  | some name =>
    match c.model? name with
    | none => .error (.unknownEntity name)
    | some model => .ok ⟨model :: w.met, model.modelClass.parent.map (·.entity)⟩

/-- A walk after a number of turns. -/
def walk (c : Compilation) : Nat → Walk → Except InstanceFault Walk
  | 0, w => .ok w
  | n + 1, w => c.turn w >>= c.walk n

variable {c : Compilation}

/-- A turn that finds a model goes on to its parent link. -/
theorem walk_succ_of_model? {name : String} {m : Model} (h : c.model? name = some m) (n : Nat)
    (met : List Model) :
    c.walk (n + 1) ⟨met, some name⟩ =
      c.walk n ⟨m :: met, m.modelClass.parent.map (·.entity)⟩ := by
  simp [walk, turn, h, bind, Except.bind]

theorem parents_of_root {unmet : Record Model} {m : Model} (h : m.modelClass.parent = none) :
    parents unmet m = .ok [] := by
  rw [parents]
  split
  · rfl
  · rename_i link hlink
    simp [h] at hlink

/-- Above a model stands the model to which it is linked, and above that the rest of the chain. -/
theorem parents_of_link {unmet : Record Model} {m parent : Model} {link : ParentLink}
    (hlink : m.modelClass.parent = some link) (hfound : unmet.get? link.entity = some parent) :
    parents unmet m =
      (parents (unmet.erase link.entity) parent).map (· ++ [parent]) := by
  rw [parents]
  split
  · rename_i hnone
    simp [hlink] at hnone
  · rename_i link' hlink'
    obtain rfl : link' = link := Option.some.inj (hlink'.symm.trans hlink)
    split
    · rename_i hnone
      simp [hfound] at hnone
    · rename_i parent' hfound'
      obtain rfl : parent' = parent := Option.some.inj (hfound'.symm.trans hfound)
      cases parents (unmet.erase link'.entity) parent' <;> rfl

end Compilation

namespace Graph

variable {g : Graph} {naming : Naming} {c : Compilation}

/-- An entity that compiles has its own model in the compilation. -/
theorem model?_of_compiles (hc : g.compile naming = .ok c) {e : Entity} {m : Model}
    (he : e ∈ g.entities) (hcompiles : g.compiles naming e = true)
    (hm : g.synthesize naming e = .ok m) : c.model? e.name = some m :=
  (models_get?_eq_some_iff hc).mpr ⟨e, he, rfl, hcompiles, hm⟩

/-- An entity with a model is in the graph and compiles. -/
theorem exists_of_mem_keys (hc : g.compile naming = .ok c) {name : String}
    (h : name ∈ c.models.keys) :
    ∃ e ∈ g.entities, e.name = name ∧ g.compiles naming e = true := by
  rw [keys_models hc] at h
  obtain ⟨e, he, hname⟩ := List.mem_map.mp h
  obtain ⟨hmem, hcompiles⟩ := List.mem_filter.mp he
  exact ⟨e, hmem, hname, hcompiles⟩

/-- The models that entities synthesize to, in the same order. -/
def ModelsOf (g : Graph) (naming : Naming) (es : List Entity) (ms : List Model) : Prop :=
  es.map (g.synthesize naming) = ms.map .ok

theorem modelsOf_nil_iff {ms : List Model} : g.ModelsOf naming [] ms ↔ ms = [] := by
  simp [ModelsOf, eq_comm]

theorem modelsOf_concat_iff {es : List Entity} {e : Entity} {ms : List Model} :
    g.ModelsOf naming (es ++ [e]) ms ↔
      ∃ above m, ms = above ++ [m] ∧ g.ModelsOf naming es above ∧
        g.synthesize naming e = .ok m := by
  constructor
  · intro h
    rw [ModelsOf, List.map_append, eq_comm, List.map_eq_append_iff] at h
    obtain ⟨above, last, rfl, habove, hlast⟩ := h
    obtain ⟨m, rfl, hm⟩ := List.map_eq_singleton_iff.mp hlast
    exact ⟨above, m, rfl, habove.symm, hm.symm⟩
  · intro h
    obtain ⟨above, m, rfl, habove, hm⟩ := h
    rw [ModelsOf, List.map_append, List.map_append, habove, List.map_singleton,
      List.map_singleton, hm]

theorem ModelsOf.exists_of_mem {es : List Entity} {ms : List Model} (h : g.ModelsOf naming es ms)
    {m : Model} (hm : m ∈ ms) : ∃ e ∈ es, g.synthesize naming e = .ok m := by
  have hmem : Except.ok m ∈ es.map (g.synthesize naming) := h ▸ List.mem_map_of_mem hm
  exact List.mem_map.mp hmem

/-- A level of a lineage is the model of an entity of the graph whose ancestors are found as
well. -/
theorem ModelsOf.exists_lineage (hs : g.ChainsSound) {e : Entity} {as : List Entity}
    {ms : List Model} (he : e ∈ g.entities) (has : g.ancestors e = .ok as)
    (h : g.ModelsOf naming (as ++ [e]) ms) {m : Model} (hm : m ∈ ms) :
    ∃ x xs, x ∈ as ++ [e] ∧ x ∈ g.entities ∧ g.ancestors x = .ok xs ∧
      g.synthesize naming x = .ok m := by
  obtain ⟨x, hx, hxm⟩ := h.exists_of_mem hm
  have hmem := lineage_mem he has hx
  obtain ⟨xs, hxs⟩ := hs x hmem
  exact ⟨x, xs, hx, hmem, hxs, hxm⟩

theorem model_entity_of_synthesize {e : Entity} {as : List Entity} {m : Model}
    (has : g.ancestors e = .ok as) (hm : g.synthesize naming e = .ok m) : m.entity = e.name :=
  Synthesis.model_entity ((synthesize_eq_ok_iff has).mp hm)

/-- A model is that of an entity that compiles. -/
theorem exists_of_mem_values (hc : g.compile naming = .ok c) {m : Model}
    (h : m ∈ c.models.values) : ∃ e ∈ g.entities, m.entity = e.name ∧
      g.compiles naming e = true ∧ g.synthesize naming e = .ok m := by
  obtain ⟨⟨name, _⟩, hentry, rfl⟩ := List.mem_map.mp h
  have hget := Record.get?_eq_some_iff.mpr hentry
  obtain ⟨e, he, _, hcompiles, hm⟩ := (models_get?_eq_some_iff hc).mp hget
  obtain ⟨as, has⟩ := chainsSound_of_compile hc e he
  exact ⟨e, he, model_entity_of_synthesize has hm, hcompiles, hm⟩

theorem parentLink_of_root {e : Entity} {m : Model} (has : g.ancestors e = .ok [])
    (hm : g.synthesize naming e = .ok m) : m.modelClass.parent = none := by
  rw [Synthesis.model_parent ((synthesize_eq_ok_iff has).mp hm), lineage_of_ancestors has]
  rfl

/-- The link to the parent holds the name to which the parent was resolved. -/
theorem parentLink_of_concat {e p : Entity} {as : List Entity} {m : Model}
    (has : g.ancestors e = .ok (as ++ [p])) (hm : g.synthesize naming e = .ok m) :
    ∃ link, m.modelClass.parent = some link ∧ link.entity = p.name := by
  rw [Synthesis.model_parent ((synthesize_eq_ok_iff has).mp hm), lineage_of_ancestors has]
  exact ⟨Synthesis.parentLink ⟨g, naming⟩ p, by simp [Lineage.parent?], rfl⟩

/-- The parents of a model are the models of the ancestors of its entity. The entities that the walk
has already met may be missing, because no name is met twice. -/
theorem parents_of_compiles (hc : g.compile naming = .ok c) {e : Entity} {as : List Entity}
    {m : Model} {unmet : Record Model} (has : g.ancestors e = .ok as)
    (hcompiles : g.compiles naming e = true) (hm : g.synthesize naming e = .ok m)
    (hunmet : ∀ a ∈ as, unmet.get? a.name = c.model? a.name) :
    ∃ ms, Compilation.parents unmet m = .ok ms ∧ g.ModelsOf naming as ms := by
  -- from the nearest ancestor upwards, with one model less to be met at each level
  induction as using List.reverseRecOn generalizing e m unmet with
  | nil => exact ⟨[], Compilation.parents_of_root (parentLink_of_root has hm), rfl⟩
  | append_singleton as p ih =>
    obtain ⟨link, hlink, hname⟩ := parentLink_of_concat has hm
    have hpas := (ancestors_concat has).2
    have hpmem : p ∈ as ++ [p] := by simp
    have hpcompiles := compiles_of_mem has hcompiles hpmem
    obtain ⟨mp, hmp⟩ := synthesizes_iff.mp ((compiles_iff hpas).mp hpcompiles).1
    have hfound : unmet.get? link.entity = some mp := by
      rw [hname, hunmet p hpmem]
      exact model?_of_compiles hc (ancestors_mem has hpmem) hpcompiles hmp
    have hd : (as.map (·.name) ++ [p.name]).Nodup := by
      have hall := (ancestors_eq_ok_iff.mp has).2
      simpa using (List.nodup_cons.mp hall).2
    have hrest : ∀ a ∈ as, (unmet.erase link.entity).get? a.name = c.model? a.name := by
      intro a ha
      have hne : a.name ≠ link.entity := by
        rw [hname]
        exact (List.nodup_append.mp hd).2.2 _ (List.mem_map_of_mem ha) _ (by simp)
      rw [Record.get?_erase, if_neg hne, hunmet a (List.mem_append_left _ ha)]
    obtain ⟨ms, hms, hmodels⟩ := ih hpas hpcompiles hmp hrest
    refine ⟨ms ++ [mp], ?_, modelsOf_concat_iff.mpr ⟨ms, mp, rfl, hmodels, hmp⟩⟩
    rw [Compilation.parents_of_link hlink hfound, hms]
    rfl

/-- The chain of an entity that compiles holds the models of its ancestors and then its own. -/
theorem chain_of_compiles (hc : g.compile naming = .ok c) {e : Entity} {as : List Entity}
    (he : e ∈ g.entities) (has : g.ancestors e = .ok as) (hcompiles : g.compiles naming e = true) :
    ∃ ch, c.chain e.name = .ok ch ∧ g.ModelsOf naming (as ++ [e]) ch.levels := by
  obtain ⟨m, hm⟩ := synthesizes_iff.mp ((compiles_iff has).mp hcompiles).1
  have hunmet : ∀ a ∈ as, (c.models.erase e.name).get? a.name = c.model? a.name := by
    intro a ha
    have hfresh := (List.nodup_cons.mp (ancestors_eq_ok_iff.mp has).2).1
    have hne : a.name ≠ e.name := fun h => hfresh (h ▸ List.mem_map_of_mem ha)
    rw [Record.get?_erase, if_neg hne]
    rfl
  obtain ⟨ms, hms, hmodels⟩ := parents_of_compiles hc has hcompiles hm hunmet
  refine ⟨⟨ms, m⟩, ?_, modelsOf_concat_iff.mpr ⟨ms, m, rfl, hmodels, hm⟩⟩
  rw [Compilation.chain, model?_of_compiles hc he hcompiles hm]
  dsimp only
  rw [hms]
  rfl

/-- The chain of a name with a model: its levels are the models of the ancestors and the entity. -/
theorem chain_of_mem_keys (hc : g.compile naming = .ok c) {name : String}
    (h : name ∈ c.models.keys) :
    ∃ ch e as, c.chain name = .ok ch ∧ e ∈ g.entities ∧ e.name = name ∧
      g.ancestors e = .ok as ∧ g.compiles naming e = true ∧
        g.ModelsOf naming (as ++ [e]) ch.levels := by
  obtain ⟨e, he, rfl, hcompiles⟩ := exists_of_mem_keys hc h
  obtain ⟨as, has⟩ := chainsSound_of_compile hc e he
  obtain ⟨ch, hch, hlevels⟩ := chain_of_compiles hc he has hcompiles
  exact ⟨ch, e, as, hch, he, rfl, has, hcompiles, hlevels⟩

/-- Without a model there is no chain, and the fault names the entity. -/
theorem chain_of_notMem_keys {name : String} (h : name ∉ c.models.keys) :
    c.chain name = .error (.unknownEntity name) := by
  have hnone : c.model? name = none := Record.get?_eq_none_iff.mpr h
  rw [Compilation.chain, hnone]

theorem mem_keys_of_chain {name : String} {ch : Chain} (h : c.chain name = .ok ch) :
    name ∈ c.models.keys := by
  by_contra hne
  rw [chain_of_notMem_keys hne] at h
  simp at h

/-- The levels of a chain bear the names of the lineage. -/
theorem levels_map_entity {e : Entity} {as : List Entity} {ms : List Model}
    (has : g.ancestors e = .ok as) (h : g.ModelsOf naming (as ++ [e]) ms) :
    ms.map (·.entity) = as.map (·.name) ++ [e.name] := by
  induction as using List.reverseRecOn generalizing e ms with
  | nil =>
    obtain ⟨above, m, rfl, habove, hm⟩ := modelsOf_concat_iff.mp h
    obtain rfl := modelsOf_nil_iff.mp habove
    simp [model_entity_of_synthesize has hm]
  | append_singleton as p ih =>
    obtain ⟨above, m, rfl, habove, hm⟩ := modelsOf_concat_iff.mp h
    rw [List.map_append, ih (ancestors_concat has).2 habove, List.map_append,
      List.map_singleton, List.map_singleton, model_entity_of_synthesize has hm]

theorem lineage_names_nodup {e : Entity} {as : List Entity} (has : g.ancestors e = .ok as) :
    (as.map (·.name) ++ [e.name]).Nodup := by
  have hd := (ancestors_eq_ok_iff.mp has).2
  exact (List.perm_append_singleton _ _).nodup_iff.mpr hd

/-- The levels of a chain are kept under their names. -/
theorem model?_of_mem_levels (hc : g.compile naming = .ok c) {e : Entity} {as : List Entity}
    {ms : List Model} (he : e ∈ g.entities) (has : g.ancestors e = .ok as)
    (hcompiles : g.compiles naming e = true) (h : g.ModelsOf naming (as ++ [e]) ms)
    {m : Model} (hm : m ∈ ms) : c.model? m.entity = some m := by
  obtain ⟨x, hx, hxm⟩ := h.exists_of_mem hm
  have hmem : x ∈ g.entities ∧ g.compiles naming x = true := by
    rcases List.mem_append.mp hx with hx | hx
    · exact ⟨ancestors_mem has hx, compiles_of_mem has hcompiles hx⟩
    · rw [List.mem_singleton.mp hx]
      exact ⟨he, hcompiles⟩
  obtain ⟨xs, hxs⟩ := chainsSound_of_compile hc x hmem.1
  rw [model_entity_of_synthesize hxs hxm]
  exact model?_of_compiles hc hmem.1 hmem.2 hxm

/-- The walk from an entity that compiles takes one turn for each level. -/
theorem walk_of_compiles (hc : g.compile naming = .ok c) {e : Entity} {as : List Entity}
    {ms : List Model} (he : e ∈ g.entities) (has : g.ancestors e = .ok as)
    (hcompiles : g.compiles naming e = true) (h : g.ModelsOf naming (as ++ [e]) ms)
    (met : List Model) : c.walk ms.length ⟨met, some e.name⟩ = .ok ⟨ms ++ met, none⟩ := by
  induction as using List.reverseRecOn generalizing e ms met with
  | nil =>
    obtain ⟨above, m, rfl, habove, hm⟩ := modelsOf_concat_iff.mp h
    obtain rfl := modelsOf_nil_iff.mp habove
    have hmodel := model?_of_compiles hc he hcompiles hm
    rw [List.nil_append, List.length_singleton, Compilation.walk_succ_of_model? hmodel,
      parentLink_of_root has hm]
    rfl
  | append_singleton as p ih =>
    obtain ⟨above, m, rfl, habove, hm⟩ := modelsOf_concat_iff.mp h
    have hmodel := model?_of_compiles hc he hcompiles hm
    obtain ⟨link, hlink, hname⟩ := parentLink_of_concat has hm
    have hpmem : p ∈ as ++ [p] := by simp
    have hrest := ih (ancestors_mem has hpmem) (ancestors_concat has).2
      (compiles_of_mem has hcompiles hpmem) habove (m :: met)
    calc
      c.walk (above ++ [m]).length ⟨met, some e.name⟩
          = c.walk above.length ⟨m :: met, m.modelClass.parent.map (·.entity)⟩ := by
        rw [List.length_append, List.length_singleton, Compilation.walk_succ_of_model? hmodel]
      _ = c.walk above.length ⟨m :: met, some p.name⟩ := by
        rw [hlink, Option.map_some, hname]
      _ = .ok ⟨above ++ m :: met, none⟩ := hrest
      _ = .ok ⟨above ++ [m] ++ met, none⟩ := by
        rw [List.append_assoc, List.singleton_append]

theorem walk_of_notMem_keys {name : String} (h : name ∉ c.models.keys) :
    c.walk 1 ⟨[], some name⟩ = .error (.unknownEntity name) := by
  have hnone : c.model? name = none := Record.get?_eq_none_iff.mpr h
  simp [Compilation.walk, Compilation.turn, hnone, bind, Except.bind]

/-- There are no more levels than models. -/
theorem length_levels_le (hc : g.compile naming = .ok c) {e : Entity} {as : List Entity}
    {ms : List Model} (he : e ∈ g.entities) (has : g.ancestors e = .ok as)
    (hcompiles : g.compiles naming e = true) (h : g.ModelsOf naming (as ++ [e]) ms) :
    ms.length ≤ c.models.size := by
  have hd : (ms.map (·.entity)).Nodup := by
    rw [levels_map_entity has h]
    exact lineage_names_nodup has
  have hsub : ms.map (·.entity) ⊆ c.models.keys := by
    intro name hname
    obtain ⟨m, hm, rfl⟩ := List.mem_map.mp hname
    exact Record.mem_keys_iff.mpr ⟨m, model?_of_mem_levels hc he has hcompiles h hm⟩
  calc
    ms.length = (ms.map (·.entity)).length := (List.length_map _).symm
    _ ≤ c.models.keys.length := List.Nodup.length_le_of_subset hd hsub
    _ = c.models.size := Record.length_keys _

/-- For every name the walk up the parent links ends, with the chain of the name or its fault. A
name with a model has the names of the climb in the graph on its chain. A name without one is itself
what is reported as unknown. -/
theorem chain_agrees_with_ancestors (hc : g.compile naming = .ok c) (name : String) :
    (∃ n ≤ c.models.size + 1, c.walk n ⟨[], some name⟩ =
      (c.chain name).map fun ch => ⟨ch.levels, none⟩) ∧
    (name ∈ c.models.keys → ∃ ch e as, c.chain name = .ok ch ∧
      g.get? name = some e ∧ g.ancestors e = .ok as ∧
      ch.levels.map (·.entity) = as.map (·.name) ++ [name] ∧
      (ch.levels.map (·.entity)).Nodup ∧
      ∀ m ∈ ch.levels, c.model? m.entity = some m) ∧
    (name ∉ c.models.keys → c.chain name = .error (.unknownEntity name) ∧
      Builder.new c name = .error (.unknownEntity name)) := by
  refine ⟨?_, ?_, ?_⟩
  · -- with a model there is one turn for each level, without one the first turn fails
    by_cases h : name ∈ c.models.keys
    · obtain ⟨ch, e, as, hch, he, rfl, has, hcompiles, hlevels⟩ := chain_of_mem_keys hc h
      have hwalk := walk_of_compiles hc he has hcompiles hlevels []
      have hle := length_levels_le hc he has hcompiles hlevels
      refine ⟨ch.levels.length, by omega, ?_⟩
      rw [hwalk, hch, List.append_nil]
      rfl
    · refine ⟨1, by omega, ?_⟩
      rw [walk_of_notMem_keys h, chain_of_notMem_keys h]
      rfl
  · intro h
    obtain ⟨ch, e, as, hch, he, rfl, has, hcompiles, hlevels⟩ := chain_of_mem_keys hc h
    have hnames := levels_map_entity has hlevels
    refine ⟨ch, e, as, hch, get?_eq_some_iff.mpr ⟨he, rfl⟩, has, hnames, ?_, ?_⟩
    · rw [hnames]
      exact lineage_names_nodup has
    · intro m hm
      exact model?_of_mem_levels hc he has hcompiles hlevels hm
  · intro h
    refine ⟨chain_of_notMem_keys h, ?_⟩
    rw [Builder.new, chain_of_notMem_keys h]
    rfl

theorem chain_agrees_with_ancestors_boards : ∃ c, boards.compile {} = .ok c ∧
    (∃ ch, c.chain "vault" = .ok ch ∧
      ch.levels.map (·.entity) = ["board", "secret_board", "vault"]) ∧
    c.chain "audit" = .error (.unknownEntity "audit") := by
  obtain ⟨c, hc, hkeys, _⟩ := compile_boards
  obtain ⟨_, hvault, _⟩ := chain_agrees_with_ancestors hc "vault"
  obtain ⟨_, _, haudit⟩ := chain_agrees_with_ancestors hc "audit"
  obtain ⟨ch, e, as, hch, hget, has, hlevels, _⟩ := hvault (by simp [hkeys])
  have hclimb : ((boards.get? "vault").bind fun e => (boards.ancestors e).toOption.map
      fun as => as.map (·.name)) = some ["board", "secret_board"] := by decide +kernel
  have hnames : as.map (·.name) = ["board", "secret_board"] := by
    simpa [hget, has, Except.toOption] using hclimb
  refine ⟨c, hc, ⟨ch, hch, ?_⟩, (haudit (by simp [hkeys])).1⟩
  rw [hlevels, hnames]
  rfl

end Graph

end EntityModels
