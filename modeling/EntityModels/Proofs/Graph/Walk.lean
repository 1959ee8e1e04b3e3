import EntityModels.Proofs.Graph.Forest
import Mathlib.Data.List.Chain

/-!
The walk up the parents of an entity. It follows a trail of resolved parents until it stands at an
entity without a parent, at one whose parent is not in the graph, or before one that it has met. The
main statement, `walk_exact`, says which of these it is for every entity of a graph, and that there
are never more turns than entities.
-/
namespace EntityModels.Graph

variable {g : Graph} {x : Entity} {path : List Entity}

/-- The walk from `cursor` with the ancestors `above` met so far, if it ends within so many
turns. -/
def climbWithin (g : Graph) (start : Entity) :
    (turns : Nat) → (above : List Entity) → (cursor : Entity) →
      Option (Except HierarchyFault (List Entity))
  | 0, _, _ => none
  | turns + 1, above, cursor =>
    match cursor.parent with
    | none => some (.ok above)
    | some reference =>
      match g.target? reference with
      | none => some (.error (.unknownParent cursor.name reference))
      | some parent =>
        if parent.name = start.name ∨ parent.name ∈ above.map (·.name) then
          some (.error (.cyclicChain start.name
            (start.name :: above.reverse.map (·.name) ++ [parent.name])))
        else g.climbWithin start turns (parent :: above) parent

/-- The entity at the upper end of a trail. -/
def top (x : Entity) (path : List Entity) : Entity := (x :: path).getLast (List.cons_ne_nil x path)

/-- A trail of resolved parents, the nearest first, that meets no name twice. -/
structure Trail (g : Graph) (x : Entity) (path : List Entity) : Prop where
  steps : List.IsChain g.IsParent (x :: path)
  distinct : ((x :: path).map (·.name)).Nodup

theorem top_concat (x p : Entity) (path : List Entity) : top x (path ++ [p]) = p := by
  simp [top]

theorem isChain_concat_iff {p : Entity} :
    List.IsChain g.IsParent (x :: (path ++ [p])) ↔
      List.IsChain g.IsParent (x :: path) ∧ g.IsParent (top x path) p := by
  rw [← List.cons_append, List.isChain_append]
  simp [top, List.getLast?_eq_some_getLast]

theorem Trail.here (g : Graph) (x : Entity) : g.Trail x [] := ⟨by simp, by simp⟩

/-- A trail goes on by one step to a resolved parent whose name it has not met. -/
theorem trail_concat_iff {p : Entity} :
    g.Trail x (path ++ [p]) ↔
      g.Trail x path ∧ g.IsParent (top x path) p ∧ p.name ∉ (x :: path).map (·.name) := by
  have hnodup : ((x :: (path ++ [p])).map (·.name)).Nodup ↔
      p.name ∉ (x :: path).map (·.name) ∧ ((x :: path).map (·.name)).Nodup := by
    rw [← List.cons_append, List.map_append, List.map_singleton,
      (List.perm_append_singleton _ _).nodup_iff, List.nodup_cons]
  constructor
  · intro h
    obtain ⟨hsteps, hstep⟩ := isChain_concat_iff.mp h.steps
    obtain ⟨hnew, hdistinct⟩ := hnodup.mp h.distinct
    exact ⟨⟨hsteps, hdistinct⟩, hstep, hnew⟩
  · rintro ⟨h, hstep, hnew⟩
    exact ⟨isChain_concat_iff.mpr ⟨h.steps, hstep⟩, hnodup.mpr ⟨hnew, h.distinct⟩⟩

theorem mem_entities_of_isChain (hx : x ∈ g.entities)
    (h : List.IsChain g.IsParent (x :: path)) : ∀ e ∈ x :: path, e ∈ g.entities := by
  induction path using List.reverseRecOn with
  | nil => simpa using hx
  | append_singleton path p ih =>
    obtain ⟨hsteps, hstep⟩ := isChain_concat_iff.mp h
    intro e he
    rw [← List.cons_append, List.mem_append, List.mem_singleton] at he
    rcases he with he | rfl
    · exact ih hsteps e he
    · exact parent?_mem hstep

/-- A trail is shorter than the list of entities. -/
theorem Trail.length_lt (hx : x ∈ g.entities) (h : g.Trail x path) : path.length < g.size := by
  have hsubset : (x :: path).map (·.name) ⊆ g.names :=
    List.map_subset _ (mem_entities_of_isChain hx h.steps)
  have hle := List.Nodup.length_le_of_subset h.distinct hsubset
  rw [List.length_map, names, List.length_map] at hle
  exact hle

/-- A walk that starts at the foot of a trail comes to its upper end. -/
theorem ancestors_of_trail (h : g.Trail x path) :
    g.ancestors x = g.climb x path.reverse (top x path) := by
  induction path using List.reverseRecOn with
  | nil => rfl
  | append_singleton path p ih =>
    obtain ⟨hpath, hstep, hnew⟩ := trail_concat_iff.mp h
    rw [List.map_cons, List.mem_cons, not_or] at hnew
    have hmet : p.name ∉ path.reverse.map (·.name) := by simpa using hnew.2
    rw [ih hpath, climb_of_parent? hstep hnew.1 hmet, top_concat, List.reverse_append]
    rfl

/-- Where a walk from `x` may end, and what it then gives. -/
inductive WalkEnd (g : Graph) (x : Entity) : Except HierarchyFault (List Entity) → Prop
  | root {path : List Entity} : g.Trail x path → (top x path).parent = none →
    WalkEnd g x (.ok path.reverse)
  | unknownParent {path : List Entity} {reference : String} : g.Trail x path →
    (top x path).parent = some reference → g.target? reference = none →
    WalkEnd g x (.error (.unknownParent (top x path).name reference))
  | metAgain {path : List Entity} {again : Entity} : g.Trail x path →
    g.IsParent (top x path) again → again.name ∈ (x :: path).map (·.name) →
    WalkEnd g x (.error (.cyclicChain x.name ((x :: path ++ [again]).map (·.name))))

/-- An end of a walk is what the walk up the parents returns. -/
theorem WalkEnd.eq_ancestors {outcome : Except HierarchyFault (List Entity)}
    (h : g.WalkEnd x outcome) : g.ancestors x = outcome := by
  cases h with
  | root h hnone => rw [ancestors_of_trail h, climb_of_parent_eq_none hnone]
  | unknownParent h hparent hnone =>
    rw [ancestors_of_trail h, climb_of_parent_eq_some hparent, hnone]
  | @metAgain path again h hstep hagain =>
    obtain ⟨reference, hparent, htarget⟩ := Option.bind_eq_some_iff.mp hstep
    have hmet : again.name = x.name ∨ again.name ∈ path.reverse.map (·.name) := by
      simpa using hagain
    rw [ancestors_of_trail h, climb_of_parent_eq_some hparent, htarget]
    dsimp only
    rw [if_pos hmet, List.reverse_reverse]
    simp

/-- Along a trail the walk goes on or ends, so it ends as it must. -/
theorem walkEnd_climb (h : g.Trail x path) :
    g.WalkEnd x (g.climb x path.reverse (top x path)) := by
  generalize hmet : path.reverse = met
  generalize hcursor : top x path = cursor
  -- each turn lengthens the trail by the entity to which the walk goes on
  fun_induction climb g x met cursor generalizing path with
  | case1 met cursor hnone =>
    subst hmet hcursor
    exact .root h hnone
  | case2 met cursor reference hparent hnone =>
    subst hmet hcursor
    exact .unknownParent h hparent hnone
  | case3 met cursor reference hparent p htarget hagain =>
    subst hmet hcursor
    have hstep : g.IsParent (top x path) p := parent?_eq_some hparent htarget
    have hend := WalkEnd.metAgain h hstep (by simpa using hagain)
    simpa using hend
  | case4 met cursor reference hparent p htarget hagain ih =>
    subst hmet hcursor
    have hstep : g.IsParent (top x path) p := parent?_eq_some hparent htarget
    have hnew : p.name ∉ (x :: path).map (·.name) := by simpa using hagain
    exact ih (trail_concat_iff.mpr ⟨h, hstep, hnew⟩) (by simp) (top_concat x p path)

theorem walkEnd_ancestors (g : Graph) (x : Entity) : g.WalkEnd x (g.ancestors x) :=
  walkEnd_climb (Trail.here g x)

/-- The walk returns what its trail ends at, and nothing else. -/
theorem ancestors_eq_iff {outcome : Except HierarchyFault (List Entity)} :
    g.ancestors x = outcome ↔ g.WalkEnd x outcome := by
  refine ⟨?_, WalkEnd.eq_ancestors⟩
  rintro rfl
  exact walkEnd_ancestors g x

/-- A walk along a trail ends within as many turns as there are entities that it has not met. -/
theorem climbWithin_of_trail (hx : x ∈ g.entities) {turns : Nat} (h : g.Trail x path)
    (hturns : g.size ≤ path.length + turns) :
    g.climbWithin x turns path.reverse (top x path) =
      some (g.climb x path.reverse (top x path)) := by
  induction turns generalizing path with
  | zero =>
    have hlt := h.length_lt hx
    omega
  | succ turns ih =>
    rw [climbWithin]
    split
    · rename_i hnone
      rw [climb_of_parent_eq_none hnone]
    · rename_i reference hparent
      rw [climb_of_parent_eq_some hparent]
      cases htarget : g.target? reference with
      | none => rfl
      | some p =>
        dsimp only
        split
        · rfl
        · rename_i hagain
          have hstep : g.IsParent (top x path) p := parent?_eq_some hparent htarget
          have hnew : p.name ∉ (x :: path).map (·.name) := by simpa using hagain
          have htrail := trail_concat_iff.mpr ⟨h, hstep, hnew⟩
          have hnext := ih htrail (by simp; omega)
          simpa only [List.reverse_append, List.reverse_singleton, List.singleton_append,
            top_concat] using hnext

theorem line_of_isChain {path : List Entity} (h : List.IsChain g.IsParent (x :: path))
    (hroot : (top x path).parent = none) : g.Line x path := by
  induction path generalizing x with
  | nil => exact .root hroot
  | cons p path ih =>
    rw [List.isChain_cons_cons] at h
    exact .above h.1 (ih h.2 hroot)

theorem Line.isAbove {e a : Entity} {line : List Entity} (h : g.Line e line) (ha : a ∈ line) :
    Relation.TransGen g.IsParent e a := by
  induction h with
  | root _ => simp at ha
  | above hp _ ih =>
    rcases List.mem_cons.mp ha with rfl | ha
    · exact .single hp
    · exact .head hp (ih ha)

/-- A line meets no name twice. -/
theorem Line.distinct {e : Entity} {line : List Entity} (he : e ∈ g.entities)
    (h : g.Line e line) : ((e :: line).map (·.name)).Nodup := by
  induction h with
  | root _ => simp
  | @above e p line hp hline ih =>
    rw [List.map_cons, List.nodup_cons]
    refine ⟨fun hmem => ?_, ih (parent?_mem hp)⟩
    obtain ⟨a, ha, hname⟩ := List.mem_map.mp hmem
    have habove := (Line.above hp hline).isAbove ha
    obtain rfl := eq_of_name_eq ((Line.above hp hline).mem_entities ha) he hname
    exact (Line.above hp hline).not_onCycle habove

/-- A chain of resolved parents up to an entity without one is a trail. -/
theorem trail_of_root (hx : x ∈ g.entities) (h : List.IsChain g.IsParent (x :: path))
    (hroot : (top x path).parent = none) : g.Trail x path :=
  ⟨h, (line_of_isChain h hroot).distinct hx⟩

/-- The ancestors found are the trail up to an entity without a parent, read from the top. -/
theorem ancestors_eq_ok_iff_trail {as : List Entity} :
    g.ancestors x = .ok as ↔ g.Trail x as.reverse ∧ (top x as.reverse).parent = none := by
  rw [ancestors_eq_iff]
  constructor
  · intro h
    cases h with
    | root h hnone => exact ⟨by simpa using h, by simpa using hnone⟩
  · rintro ⟨h, hnone⟩
    simpa using WalkEnd.root h hnone

/-- The same path, read from its upper end. -/
theorem isChain_append_iff {as : List Entity} :
    List.IsChain (fun p e => g.parent? e = some p) (as ++ [x]) ↔
      List.IsChain g.IsParent (x :: as.reverse) := by
  have hreverse : as ++ [x] = (x :: as.reverse).reverse := by simp
  rw [hreverse, List.isChain_reverse]
  rfl

theorem head_append_eq_top {as : List Entity} :
    (as ++ [x]).head (by simp) = top x as.reverse := by
  have hreverse : x :: as.reverse = (as ++ [x]).reverse := by simp
  simp only [top, hreverse, List.getLast_reverse]

/-- The three outcomes of the walk from an entity. -/
structure WalkExact (g : Graph) (x : Entity) : Prop where
  /-- The loop has ended after as many turns as there are entities, each with one resolved
  parent. -/
  bounded : g.climbWithin x g.size [] x = some (g.ancestors x)
  /-- The ancestors are the resolved parents up to an entity without a parent, the root first. -/
  found : ∀ as, g.ancestors x = .ok as ↔
    List.IsChain (fun p e => g.parent? e = some p) (as ++ [x]) ∧
      ((as ++ [x]).head (by simp)).parent = none
  /-- No name is met twice on the way. -/
  distinct : ∀ as, g.ancestors x = .ok as → ((as ++ [x]).map (·.name)).Nodup
  root : g.ancestors x = .ok [] ↔ x.parent = none
  /-- A parent that is not found is declared at the end of a trail. -/
  unknownParent : ∀ entity reference, g.ancestors x = .error (.unknownParent entity reference) ↔
    ∃ path, g.Trail x path ∧ entity = (top x path).name ∧
      (top x path).parent = some reference ∧ g.resolve reference = .error ⟨reference⟩
  /-- A chain that is reported is a trail and one more step, to a name on the trail. -/
  cyclic : ∀ entity chain, g.ancestors x = .error (.cyclicChain entity chain) ↔
    entity = x.name ∧ ∃ path again, g.Trail x path ∧ g.parent? (top x path) = some again ∧
      ((x :: path).map (·.name)).count again.name = 1 ∧
      chain = (x :: path).map (·.name) ++ [again.name]
  /-- There is no fourth outcome. -/
  otherwise : (∀ as, g.ancestors x ≠ .ok as) →
    (∀ entity reference, g.ancestors x ≠ .error (.unknownParent entity reference)) →
    ∃ chain, g.ancestors x = .error (.cyclicChain x.name chain)

/-- Every walk ends within the bound, in one of the three ways. -/
theorem walk_exact (hx : x ∈ g.entities) : g.WalkExact x := by
  refine ⟨?_, fun as => ?_, fun as has => ?_, ?_, fun entity reference => ?_,
    fun entity chain => ?_, fun hfound hknown => ?_⟩
  · exact climbWithin_of_trail hx (Trail.here g x) (by simp)
  · rw [ancestors_eq_ok_iff_trail, isChain_append_iff, head_append_eq_top]
    refine and_congr_left fun hroot => ⟨fun h => h.steps, fun h => trail_of_root hx h hroot⟩
  · have hdistinct := (ancestors_eq_ok_iff_trail.mp has).1.distinct
    have hreverse : as ++ [x] = (x :: as.reverse).reverse := by simp
    rwa [hreverse, List.map_reverse, List.nodup_reverse]
  · rw [ancestors_eq_ok_iff_trail]
    exact and_iff_right (Trail.here g x)
  · rw [ancestors_eq_iff]
    constructor
    · intro h
      cases h with
      | unknownParent h hparent hnone =>
        exact ⟨_, h, rfl, hparent, resolve_eq_error_iff.mpr ⟨hnone, rfl⟩⟩
    · rintro ⟨path, h, rfl, hparent, hresolve⟩
      exact .unknownParent h hparent (resolve_eq_error_iff.mp hresolve).1
  · rw [ancestors_eq_iff]
    constructor
    · intro h
      cases h with
      | metAgain h hstep hagain =>
        exact ⟨rfl, _, _, h, hstep, List.count_eq_one_of_mem h.distinct hagain, by simp⟩
    · rintro ⟨rfl, path, again, h, hstep, hcount, rfl⟩
      have hagain : again.name ∈ (x :: path).map (·.name) :=
        List.one_le_count_iff.mp hcount.ge
      simpa using WalkEnd.metAgain h hstep hagain
  · cases hwalk : g.ancestors x with
    | ok as => exact absurd hwalk (hfound as)
    | error fault =>
      cases fault with
      | unknownParent entity reference => exact absurd hwalk (hknown entity reference)
      | cyclicChain entity chain =>
        cases ancestors_eq_iff.mp hwalk
        exact ⟨_, rfl⟩

/-- A book below two folders that lie in each other. -/
def shelves : Graph where
  entities := [{ name := "book", parent := some "schemas/folder.json" },
    { name := "folder", parent := some "drawer" }, { name := "drawer", parent := some "#folder" }]
  sound := by decide +kernel

/-- The cycle is entered behind the book, which is not part of it. -/
theorem walk_exact_shelves : ∃ book ∈ shelves.entities, shelves.WalkExact book ∧
    shelves.ancestors book =
      .error (.cyclicChain "book" ["book", "folder", "drawer", "folder"]) := by
  have hbook : { name := "book", parent := some "schemas/folder.json" } ∈ shelves.entities := by
    decide +kernel
  exact ⟨_, hbook, walk_exact hbook, by decide +kernel⟩

end EntityModels.Graph
