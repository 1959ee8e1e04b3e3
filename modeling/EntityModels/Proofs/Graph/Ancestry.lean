import EntityModels.Proofs.Except
import EntityModels.Proofs.Graph.Names
import EntityModels.Schema.Hierarchy
import Mathlib.Data.List.Induction

/-!
Ancestors as lines of resolved parents. The climb succeeds exactly on the lines that end at an
entity without a parent and meet no name twice, so what it finds for an entity contains what it
finds for each of its ancestors.
-/
namespace EntityModels

namespace Graph

variable {g : Graph}

/-- The entity to which the parent of an entity resolves. -/
def parent? (g : Graph) (e : Entity) : Option Entity := e.parent.bind g.target?

/-- The line of resolved parents above an entity, the nearest first, up to one without a parent. -/
inductive Line (g : Graph) : Entity → List Entity → Prop
  | root {e : Entity} : e.parent = none → Line g e []
  | above {e p : Entity} {line : List Entity} :
    g.parent? e = some p → Line g p line → Line g e (p :: line)

theorem target?_mem {reference : String} {e : Entity} (h : g.target? reference = some e) :
    e ∈ g.entities := (get?_eq_some_iff.mp h).1

theorem parent?_eq_some {e p : Entity} {reference : String} (hparent : e.parent = some reference)
    (htarget : g.target? reference = some p) : g.parent? e = some p := by
  rw [parent?, hparent, Option.bind_some, htarget]

theorem parent?_mem {e p : Entity} (h : g.parent? e = some p) : p ∈ g.entities := by
  obtain ⟨reference, _, htarget⟩ := Option.bind_eq_some_iff.mp h
  exact target?_mem htarget

theorem Line.mem_entities {e a : Entity} {line : List Entity} (h : g.Line e line)
    (ha : a ∈ line) : a ∈ g.entities := by
  induction h with
  | root _ => simp at ha
  | above hp _ ih =>
    rcases List.mem_cons.mp ha with rfl | ha
    · exact parent?_mem hp
    · exact ih ha

theorem climb_of_parent_eq_none {start cursor : Entity} {met : List Entity}
    (h : cursor.parent = none) : g.climb start met cursor = .ok met := by
  rw [climb]
  simp [h]

/-- One turn of a climb. -/
theorem climb_of_parent_eq_some {start cursor : Entity} {met : List Entity} {reference : String}
    (h : cursor.parent = some reference) :
    g.climb start met cursor =
      match g.target? reference with
      | none => .error (.unknownParent cursor.name reference)
      | some p =>
        if p.name = start.name ∨ p.name ∈ met.map (·.name) then
          .error (.cyclicChain start.name (start.name :: met.reverse.map (·.name) ++ [p.name]))
        else g.climb start (p :: met) p := by
  rw [climb]
  split
  · rename_i hnone
    simp [h] at hnone
  · rename_i r hr
    obtain rfl : r = reference := Option.some.inj (hr.symm.trans h)
    split
    · rename_i hnone
      rw [hnone]
    · rename_i q hq
      rw [hq]
      rfl

/-- A climb goes on to the resolved parent unless it has met its name before. -/
theorem climb_of_parent? {start cursor p : Entity} {met : List Entity}
    (h : g.parent? cursor = some p) (hstart : p.name ≠ start.name)
    (hmet : p.name ∉ met.map (·.name)) :
    g.climb start met cursor = g.climb start (p :: met) p := by
  obtain ⟨reference, hparent, htarget⟩ := Option.bind_eq_some_iff.mp h
  rw [climb_of_parent_eq_some hparent, htarget]
  exact if_neg (not_or.mpr ⟨hstart, hmet⟩)

/-- The climb follows a line on which no name occurs twice to its end. -/
theorem climb_ok_of_line {start cursor : Entity} {met line : List Entity}
    (hline : g.Line cursor line)
    (hd : (start.name :: (line.reverse ++ met).map (·.name)).Nodup) :
    g.climb start met cursor = .ok (line.reverse ++ met) := by
  -- distinctness of the whole line says at each turn that the next name is new
  induction hline generalizing met with
  | root h => simpa using climb_of_parent_eq_none h
  | @above cursor p line hp _ ih =>
    have heq : (p :: line).reverse ++ met = line.reverse ++ (p :: met) := by simp
    rw [heq] at hd ⊢
    have hnew : p.name ≠ start.name ∧ p.name ∉ met.map (·.name) := by
      simp only [List.map_append, List.map_cons, List.nodup_cons, List.nodup_append,
        List.mem_append, List.mem_cons, not_or] at hd
      exact ⟨fun e => hd.1.2.1 e.symm, hd.2.2.1.1⟩
    rw [climb_of_parent? hp hnew.1 hnew.2, ih hd]

/-- What a climb finds is a line, and no name on it occurs twice. -/
theorem line_of_climb_ok {start cursor : Entity} {met as : List Entity}
    (hd : (start.name :: met.map (·.name)).Nodup) (h : g.climb start met cursor = .ok as) :
    ∃ line, as = line.reverse ++ met ∧ g.Line cursor line ∧
      (start.name :: as.map (·.name)).Nodup := by
  fun_induction climb g start met cursor with
  | case1 met cursor hnone =>
    obtain rfl : met = as := by simpa using h
    exact ⟨[], rfl, .root hnone, hd⟩
  | case2 => simp at h
  | case3 => simp at h
  | case4 met cursor reference hparent p htarget hagain ih =>
    obtain ⟨hstart, hmet⟩ := not_or.mp hagain
    have hd' : (start.name :: (p :: met).map (·.name)).Nodup := by
      simp only [List.map_cons, List.nodup_cons, List.mem_cons, not_or] at hd ⊢
      exact ⟨⟨fun e => hstart e.symm, hd.1⟩, hmet, hd.2⟩
    obtain ⟨line, rfl, hline, hnodup⟩ := ih hd' h
    have hp : g.parent? cursor = some p := parent?_eq_some hparent htarget
    exact ⟨p :: line, by simp, .above hp hline, hnodup⟩

/-- The ancestors of an entity, read upwards, are a line without a repeated name. -/
theorem ancestors_eq_ok_iff {e : Entity} {as : List Entity} :
    g.ancestors e = .ok as ↔
      g.Line e as.reverse ∧ (e.name :: as.map (·.name)).Nodup := by
  constructor
  · intro h
    obtain ⟨line, rfl, hline, hd⟩ := line_of_climb_ok (by simp) h
    exact ⟨by simpa using hline, hd⟩
  · intro hh
    obtain ⟨hline, hd⟩ := hh
    have h : g.climb e [] e = .ok (as.reverse.reverse ++ []) :=
      climb_ok_of_line hline (by simpa using hd)
    simpa [ancestors] using h

/-- An entity with ancestors is not its own parent. -/
theorem parent_ne_self {e p : Entity} {as : List Entity} (h : g.ancestors e = .ok as)
    {reference : String} (hparent : e.parent = some reference)
    (htarget : g.target? reference = some p) : p ≠ e := by
  rintro rfl
  rw [ancestors, climb_of_parent_eq_some hparent, htarget] at h
  simp at h

/-- The last ancestor is the resolved parent, and those before it are its own. -/
theorem ancestors_concat {e p : Entity} {as : List Entity} (h : g.ancestors e = .ok (as ++ [p])) :
    g.parent? e = some p ∧ g.ancestors p = .ok as := by
  obtain ⟨hline, hd⟩ := ancestors_eq_ok_iff.mp h
  rw [List.reverse_append, List.reverse_singleton, List.singleton_append] at hline
  cases hline with
  | above hp hline =>
    refine ⟨hp, ancestors_eq_ok_iff.mpr ⟨hline, ?_⟩⟩
    simp only [List.map_append, List.map_cons, List.map_nil, List.nodup_cons] at hd
    exact (List.perm_append_singleton _ _).nodup hd.2

theorem ancestors_mem {e a : Entity} {as : List Entity} (h : g.ancestors e = .ok as)
    (ha : a ∈ as) : a ∈ g.entities :=
  (ancestors_eq_ok_iff.mp h).1.mem_entities (List.mem_reverse.mpr ha)

theorem lineage_mem {e a : Entity} {as : List Entity} (he : e ∈ g.entities)
    (h : g.ancestors e = .ok as) (ha : a ∈ as ++ [e]) : a ∈ g.entities := by
  rcases List.mem_append.mp ha with ha | ha
  · exact ancestors_mem h ha
  · exact List.mem_singleton.mp ha ▸ he

/-- What stands before an ancestor is the list of its own ancestors. -/
theorem ancestors_of_append {e a : Entity} {xs ys : List Entity}
    (h : g.ancestors e = .ok (xs ++ a :: ys)) : g.ancestors a = .ok xs := by
  induction ys using List.reverseRecOn generalizing e with
  | nil => exact (ancestors_concat h).2
  | append_singleton ys p ih =>
    have hp : g.ancestors p = .ok (xs ++ a :: ys) := (ancestors_concat (by simpa using h)).2
    exact ih hp

/-- The ancestors of an ancestor are those in front of it. -/
theorem ancestors_of_mem {e a : Entity} {as : List Entity} (h : g.ancestors e = .ok as)
    (ha : a ∈ as) : ∃ xs ys, as = xs ++ a :: ys ∧ g.ancestors a = .ok xs := by
  obtain ⟨xs, ys, rfl⟩ := List.append_of_mem ha
  exact ⟨xs, ys, rfl, ancestors_of_append h⟩

/-- The lineage of an entity. Without ancestors if the climb fails. -/
def lineage (g : Graph) (e : Entity) : Lineage := ⟨(g.ancestors e).toOption.getD [], e⟩

theorem lineage_of_ancestors {e : Entity} {as : List Entity} (h : g.ancestors e = .ok as) :
    g.lineage e = ⟨as, e⟩ := by
  simp [lineage, h, Except.toOption]

/-- The lineages are found exactly when the ancestors of every entity are. -/
theorem lineages_eq_ok_iff {ls : List Lineage} :
    g.lineages = .ok ls ↔
      (∀ e ∈ g.entities, ∃ as, g.ancestors e = .ok as) ∧ ls = g.entities.map g.lineage := by
  rw [lineages, mapM_eq_ok_iff]
  -- for the induction the list must not be that of the graph in which the climb looks up parents
  generalize g.entities = es
  induction es generalizing ls with
  | nil => cases ls <;> simp
  | cons e es ih =>
    cases ls with
    | nil => simp
    | cons l ls =>
      rw [List.map_cons, List.map_cons, List.cons.injEq, ih, List.forall_mem_cons,
        List.map_cons, List.cons.injEq]
      cases he : g.ancestors e with
      | error fault => simp [bind, Except.bind]
      | ok as =>
        rw [lineage_of_ancestors he]
        simp only [bind, Except.bind, pure, Except.pure, Except.ok.injEq, exists_eq', true_and]
        constructor
        · intro hh
          obtain ⟨rfl, hall, rfl⟩ := hh
          exact ⟨hall, rfl, rfl⟩
        · intro hh
          obtain ⟨hall, rfl, rfl⟩ := hh
          exact ⟨rfl, hall, rfl⟩

end Graph

end EntityModels
