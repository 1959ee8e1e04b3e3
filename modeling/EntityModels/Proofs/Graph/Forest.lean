import EntityModels.Proofs.Graph.Ancestry
import Mathlib.Logic.Relation

/-!
Graphs whose parents form a forest: every declared parent is in the graph, and no entity is above
itself. These are the graphs in which the ancestors of every entity are found.
-/
namespace EntityModels.Graph

variable {g : Graph}

/-- One step up: the parent of `e` resolves to `p`. -/
def IsParent (g : Graph) (e p : Entity) : Prop := g.parent? e = some p

/-- A parent is declared that is not in the graph. -/
def HasUnknownParent (g : Graph) (e : Entity) : Prop :=
  ∃ reference, e.parent = some reference ∧ g.resolve reference = .error ⟨reference⟩

/-- The entity is above itself. -/
def OnCycle (g : Graph) (e : Entity) : Prop := Relation.TransGen g.IsParent e e

/-- Every declared parent is in the graph and no entity is above itself. -/
structure IsForest (g : Graph) : Prop where
  known : ∀ e ∈ g.entities, ¬g.HasUnknownParent e
  acyclic : ∀ e ∈ g.entities, ¬g.OnCycle e

theorem not_isForest_iff :
    ¬g.IsForest ↔ ∃ e ∈ g.entities, g.HasUnknownParent e ∨ g.OnCycle e := by
  constructor
  · intro h
    by_contra hnone
    push Not at hnone
    exact h ⟨fun e he => (hnone e he).1, fun e he => (hnone e he).2⟩
  · intro h hforest
    obtain ⟨e, he, hunknown | hcycle⟩ := h
    · exact hforest.known e he hunknown
    · exact hforest.acyclic e he hcycle

theorem hasUnknownParent_iff {e : Entity} :
    g.HasUnknownParent e ↔ e.parent.isSome ∧ g.parent? e = none := by
  unfold HasUnknownParent parent?
  cases e.parent <;> simp [resolve_eq_error_iff]

/-- No declared parent is missing at the foot of a line. -/
theorem Line.not_hasUnknownParent {e : Entity} {line : List Entity} (h : g.Line e line) :
    ¬g.HasUnknownParent e := by
  rw [hasUnknownParent_iff]
  cases h with
  | root hnone => simp [hnone]
  | above hp _ => simp [hp]

/-- The foot of a line is on no cycle, since a cycle passes through its one parent and would go up
the line for ever. -/
theorem Line.not_onCycle {e : Entity} {line : List Entity} (h : g.Line e line) :
    ¬g.OnCycle e := by
  induction h with
  | root hnone =>
    intro hcycle
    obtain ⟨p, hstep, _⟩ := Relation.TransGen.head'_iff.mp hcycle
    simp [IsParent, parent?, hnone] at hstep
  | @above e p line hp _ ih =>
    intro hcycle
    obtain ⟨q, hstep, hback⟩ := Relation.TransGen.head'_iff.mp hcycle
    obtain rfl : q = p := Option.some.inj (hstep.symm.trans hp)
    exact ih (Relation.TransGen.tail' hback hp)

/-- A climb that fails has met an unknown parent or a cycle. -/
theorem exists_defect_of_climb {start cursor : Entity} {met : List Entity}
    {fault : HierarchyFault} (hcursor : cursor ∈ g.entities)
    (hmet : ∀ x ∈ start :: met, x ∈ g.entities ∧ Relation.ReflTransGen g.IsParent x cursor)
    (h : g.climb start met cursor = .error fault) :
    ∃ e ∈ g.entities, g.HasUnknownParent e ∨ g.OnCycle e := by
  -- everything met so far has the cursor above it
  fun_induction climb g start met cursor with
  | case1 => simp at h
  | case2 met cursor reference hparent hnone =>
    exact ⟨cursor, hcursor, .inl ⟨reference, hparent, resolve_eq_error_iff.mpr ⟨hnone, rfl⟩⟩⟩
  | case3 met cursor reference hparent p htarget hagain =>
    have hstep : g.IsParent cursor p := parent?_eq_some hparent htarget
    obtain ⟨x, hx, hname⟩ : ∃ x ∈ start :: met, x.name = p.name := by
      rcases hagain with hstart | hmem
      · exact ⟨start, List.mem_cons_self, hstart.symm⟩
      · obtain ⟨x, hx, hname⟩ := List.mem_map.mp hmem
        exact ⟨x, List.mem_cons_of_mem _ hx, hname⟩
    obtain ⟨hxmem, hreach⟩ := hmet x hx
    have hpmem := parent?_mem hstep
    obtain rfl := eq_of_name_eq hxmem hpmem hname
    exact ⟨x, hxmem, .inr (Relation.TransGen.tail' hreach hstep)⟩
  | case4 met cursor reference hparent p htarget hagain ih =>
    have hstep : g.IsParent cursor p := parent?_eq_some hparent htarget
    have hpmem := parent?_mem hstep
    refine ih hpmem ?_ h
    intro x hx
    have hx' : x = p ∨ x ∈ start :: met := by
      simp only [List.mem_cons] at hx ⊢
      tauto
    rcases hx' with rfl | hx'
    · exact ⟨hpmem, .refl⟩
    · exact ⟨(hmet x hx').1, (hmet x hx').2.tail hstep⟩

/-- In a forest the ancestors of every entity are found. -/
theorem not_isForest_of_ancestors {e : Entity} {fault : HierarchyFault} (he : e ∈ g.entities)
    (h : g.ancestors e = .error fault) : ¬g.IsForest := by
  refine not_isForest_iff.mpr (exists_defect_of_climb he ?_ h)
  intro x hx
  obtain rfl : x = e := by simpa using hx
  exact ⟨he, .refl⟩

/-- The ancestors of all entities are found exactly when the parents form a forest. -/
theorem forall_ancestors_ok_iff :
    (∀ e ∈ g.entities, ∃ as, g.ancestors e = .ok as) ↔ g.IsForest := by
  constructor
  · intro h
    refine ⟨fun e he => ?_, fun e he => ?_⟩
    · obtain ⟨as, has⟩ := h e he
      exact (ancestors_eq_ok_iff.mp has).1.not_hasUnknownParent
    · obtain ⟨as, has⟩ := h e he
      exact (ancestors_eq_ok_iff.mp has).1.not_onCycle
  · intro h e he
    cases hclimb : g.ancestors e with
    | ok as => exact ⟨as, rfl⟩
    | error fault => exact absurd h (not_isForest_of_ancestors he hclimb)

end EntityModels.Graph
