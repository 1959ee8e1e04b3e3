import EntityModels.Proofs.Compilation.Classes

/-!
The hooks of a chain. The root declares the hook of its class, and every model below it refers to
the same protocol and selector.
-/
namespace EntityModels

namespace Naming

/-- Hooks of different classes have different protocols. -/
theorem protocolName_inj {first second : String} :
    protocolName first = protocolName second ↔ first = second := by
  rw [protocolName, protocolName, String.append_left_inj]

theorem initializeSelector_inj {first second : String} :
    initializeSelector first = initializeSelector second ↔ first = second := by
  rw [initializeSelector, initializeSelector, String.append_left_inj]

end Naming

namespace Graph

variable {g : Graph} {naming : Naming} {c : Compilation} {m : Model} {e : Entity}
  {as : List Entity}

theorem isRoot_of_ancestors (has : g.ancestors e = .ok as) : e.isRoot = as.isEmpty := by
  obtain ⟨hline, _⟩ := ancestors_eq_ok_iff.mp has
  rw [← List.isEmpty_reverse]
  generalize as.reverse = line at hline ⊢
  cases hline with
  | root hparent => rw [Entity.isRoot, hparent]; rfl
  | above hp =>
    obtain ⟨reference, hparent, _⟩ := Option.bind_eq_some_iff.mp hp
    rw [Entity.isRoot, hparent]
    rfl

/-- The hook is named after the class of the root and declared by the model without ancestors. -/
theorem hook_of_synthesize (has : g.ancestors e = .ok as) (hm : g.synthesize naming e = .ok m) :
    m.modelClass.hook =
      { protocolName := Naming.protocolName (naming.className (as.head?.getD e).name)
        selector := Naming.initializeSelector (naming.className (as.head?.getD e).name)
        declaredHere := as.isEmpty } := by
  have hhook := Synthesis.model_hook ((synthesize_eq_ok_iff has).mp hm)
  rw [hhook, lineage_of_ancestors has, Synthesis.hook, isRoot_of_ancestors has]
  rfl

/-- What stands before an entity of a lineage is the list of its ancestors. -/
theorem ancestors_of_lineage_split (has : g.ancestors e = .ok as) {a : Entity}
    {xs ys : List Entity} (h : as ++ [e] = xs ++ a :: ys) : g.ancestors a = .ok xs := by
  cases ys using List.reverseRecOn with
  | nil =>
    obtain ⟨rfl, hlast⟩ := List.append_inj' h rfl
    rwa [← List.singleton_inj.mp hlast]
  | append_singleton ys p =>
    rw [← List.cons_append, ← List.append_assoc] at h
    obtain ⟨rfl, _⟩ := List.append_inj' h rfl
    exact ancestors_of_append has

/-- Only the root of a chain declares a hook, and all models of the chain refer to that one. -/
theorem hooks_of_levels (has : g.ancestors e = .ok as) {ms : List Model}
    (h : g.ModelsOf naming (as ++ [e]) ms) : ∃ root below r, ms = root :: below ∧
      r ∈ as ++ [e] ∧ g.ancestors r = .ok [] ∧ g.synthesize naming r = .ok root ∧
      (∀ m ∈ ms, root.modelClass.hook = { m.modelClass.hook with declaredHere := true }) ∧
      ∀ m ∈ below, m.modelClass.hook.declaredHere = false := by
  obtain ⟨r, rest, hsplit⟩ := List.exists_cons_of_ne_nil (List.append_ne_nil_of_right_ne_nil as
    (List.cons_ne_nil e []))
  have hr : g.ancestors r = .ok [] := ancestors_of_lineage_split has hsplit
  rw [hsplit] at h
  obtain ⟨root, below, rfl, hroot, hbelow⟩ := List.map_eq_cons_iff.mp (Eq.symm h)
  have hrootHook := hook_of_synthesize hr hroot.symm
  refine ⟨root, below, r, rfl, hsplit ▸ List.mem_cons_self, hr, hroot.symm, fun m hm => ?_,
    fun m hm => ?_⟩
  · obtain ⟨a, ha, ham⟩ := ModelsOf.exists_of_mem h hm
    obtain ⟨xs, ys, hat⟩ := List.append_of_mem ha
    have hhook := hook_of_synthesize (ancestors_of_lineage_split has (hsplit.trans hat)) ham
    have hfirst : xs.head?.getD a = r := by
      cases xs with
      | nil => exact (List.cons.inj hat).1.symm
      | cons x xs => exact (List.cons.inj hat).1.symm
    rw [hrootHook, hhook, hfirst]
    rfl
  · obtain ⟨a, ha, ham⟩ := List.mem_map.mp (hbelow ▸ List.mem_map_of_mem hm)
    obtain ⟨xs, ys, rfl⟩ := List.append_of_mem ha
    have habove : g.ancestors a = .ok (r :: xs) := ancestors_of_lineage_split has hsplit
    rw [hook_of_synthesize habove ham]
    rfl

theorem mem_levels_of_modelsOf {ms : List Model} (h : g.ModelsOf naming (as ++ [e]) ms)
    (hm : g.synthesize naming e = .ok m) : m ∈ ms := by
  obtain ⟨above, last, rfl, _, hlast⟩ := modelsOf_concat_iff.mp h
  rw [Except.ok.inj (hm.symm.trans hlast)]
  exact List.mem_concat_self

/-- A hook is declared once. -/
theorem eq_of_declaredHere {r : Entity} {root : Model} (he : e ∈ g.entities)
    (has : g.ancestors e = .ok as) (hm : g.synthesize naming e = .ok m) (hr : r ∈ g.entities)
    (hancestors : g.ancestors r = .ok []) (hroot : g.synthesize naming r = .ok root)
    (hdeclared : m.modelClass.hook.declaredHere = true)
    (hnames : m.modelClass.hook.protocolName = root.modelClass.hook.protocolName ∨
      m.modelClass.hook.selector = root.modelClass.hook.selector) : m = root := by
  have hhook := hook_of_synthesize has hm
  rw [hhook] at hdeclared
  obtain rfl := List.isEmpty_iff.mp hdeclared
  rw [hhook, hook_of_synthesize hancestors hroot] at hnames
  have hclass : naming.className e.name = naming.className r.name := by
    rcases hnames with hprotocol | hselector
    · exact Naming.protocolName_inj.mp hprotocol
    · exact Naming.initializeSelector_inj.mp hselector
  obtain rfl := eq_of_className_eq he hr hclass
  exact Except.ok.inj (hm.symm.trans hroot)

end Graph

end EntityModels
