import EntityModels.Proofs.Compilation.Agreement
import EntityModels.Proofs.Compilation.Faults
import EntityModels.Proofs.Graph.Acceptance

/-!
The order in which entities are declared. It is kept in what a compilation lists and has no other
influence: lists with the same entities are accepted alike, and what becomes of an entity does not
depend on its place.
-/
namespace EntityModels

theorem NameFault.Apart.symm {p q : Declared} (h : Apart p q) : Apart q p :=
  ⟨h.1.symm, h.2.symm⟩

/-- Whether a list is accepted does not depend on its order. -/
theorem NameFault.acceptable_perm {es es' : List Entity} (hperm : es'.Perm es) :
    Acceptable es' ↔ Acceptable es := by
  rw [← first?_eq_none_iff, ← first?_eq_none_iff, first?, first?, ofEntities?_eq_none_iff,
    ofEntities?_eq_none_iff, hperm.pairwise_iff Apart.symm]
  simp only [hperm.mem_iff]

/-- Two results of one run, but for the order of what they list. -/
structure Compilation.SameUpToOrder (c c' : Compilation) : Prop where
  models : ∀ entity, c'.model? entity = c.model? entity
  failures : c'.failures.Perm c.failures
  diagnostics : c'.diagnostics.Perm c.diagnostics

namespace Graph

variable {g g' : Graph} {naming : Naming} {c c' : Compilation}

/-- In another order the same entity is found under a name, since names are distinct. -/
theorem get?_of_perm (h : g'.entities.Perm g.entities) (name : String) :
    g'.get? name = g.get? name := by
  apply Option.ext
  intro e
  rw [get?_eq_some_iff, get?_eq_some_iff, h.mem_iff]

theorem agreesWith_of_perm (h : g'.entities.Perm g.entities) : g.AgreesWith g' :=
  fun _ _ reference _ => get?_of_perm h (Reference.key reference)

theorem chainsSound_of_perm (h : g'.entities.Perm g.entities) :
    g'.ChainsSound ↔ g.ChainsSound := by
  refine forall_congr' fun e => ?_
  rw [h.mem_iff]
  refine forall_congr' fun he => ?_
  rw [ancestors_of_agreesWith (agreesWith_of_perm h) he]

theorem sameOutcome_of_perm (h : g'.entities.Perm g.entities) (hc : g.compile naming = .ok c)
    {e : Entity} (he : e ∈ g'.entities) : g.SameOutcome g' naming e := by
  have hs := chainsSound_of_compile hc
  exact sameOutcome_of_agreesWith (agreesWith_of_perm h) hs ((chainsSound_of_perm h).mpr hs)
    (h.mem_iff.mp he) he

/-- What is taken from the entities one by one comes in another order when they do. -/
theorem filterMap_perm (h : g'.entities.Perm g.entities) {β : Type} {f f' : Entity → Option β}
    (hsame : ∀ e ∈ g'.entities, f' e = f e) :
    (g'.entities.filterMap f').Perm (g.entities.filterMap f) := by
  rw [List.filterMap_congr hsame]
  exact h.filterMap f

/-- In another order a graph compiles to the same models, failures and diagnostics. -/
theorem sameUpToOrder_of_perm (h : g'.entities.Perm g.entities) (hc : g.compile naming = .ok c)
    (hc' : g'.compile naming = .ok c') : c.SameUpToOrder c' := by
  have hsame := fun e he => sameOutcome_of_perm h hc (e := e) he
  have hentries : c'.models.entries.Perm c.models.entries := by
    rw [entries_models hc, entries_models hc']
    exact filterMap_perm h fun e he => (hsame e he).model
  refine ⟨fun entity => ?_, ?_, ?_⟩
  · apply Option.ext
    intro m
    exact Record.get?_eq_some_iff.trans (hentries.mem_iff.trans Record.get?_eq_some_iff.symm)
  · rw [failures_of_compile hc, failures_of_compile hc']
    exact (filterMap_perm h fun e he => (hsame e he).fault).append
      (filterMap_perm h fun e he => (hsame e he).inherited)
  · rw [diagnostics_of_compile hc, diagnostics_of_compile hc']
    exact (hentries.map _).flatMap_right _

theorem exists_compile_eq_error_of_perm (h : g'.entities.Perm g.entities) :
    (∃ fault, g'.compile naming = .error fault) ↔ ∃ fault, g.compile naming = .error fault := by
  rw [exists_compile_eq_error_iff, exists_compile_eq_error_iff, ← forall_ancestors_ok_iff,
    ← forall_ancestors_ok_iff]
  exact not_congr (chainsSound_of_perm h)

/-- A compilation stops in both orders or in neither, and when it does not it has the same
result. -/
structure OrderIrrelevant (g g' : Graph) (naming : Naming) : Prop where
  stops : (∃ fault, g'.compile naming = .error fault) ↔ ∃ fault, g.compile naming = .error fault
  result : ∀ c c', g.compile naming = .ok c → g'.compile naming = .ok c' → c.SameUpToOrder c'

/-- Another order is accepted as well, and leads to the same compilation up to order, or stops as
well. -/
theorem order_irrelevant {es es' : List Entity} (hg : ofEntities? es = .ok g)
    (hperm : es'.Perm es) :
    ∃ g', ofEntities? es' = .ok g' ∧ ∀ naming, g.OrderIrrelevant g' naming := by
  have haccepted := (NameFault.acceptable_perm hperm).mpr (exists_ofEntities?_iff.mp ⟨g, hg⟩)
  obtain ⟨g', hg'⟩ := exists_ofEntities?_iff.mpr haccepted
  obtain rfl := ofEntities?_eq_ok_iff.mp hg
  obtain rfl := ofEntities?_eq_ok_iff.mp hg'
  refine ⟨g', hg', fun naming => ⟨exists_compile_eq_error_of_perm hperm, ?_⟩⟩
  intro c c' hc hc'
  exact sameUpToOrder_of_perm hperm hc hc'

/-- Declared the other way round, the boards come in another order and the records still fail all
that inherits from them. -/
theorem order_irrelevant_boards : ofEntities? boards.entities = .ok boards ∧
    boards.entities.reverse.Perm boards.entities ∧ ∃ g' c c',
      ofEntities? boards.entities.reverse = .ok g' ∧
      boards.compile {} = .ok c ∧ g'.compile {} = .ok c' ∧ c.SameUpToOrder c' ∧
      c.models.keys = ["vault", "board", "secret_board"] ∧
      c'.models.keys = ["secret_board", "board", "vault"] := by
  have hboards : ofEntities? boards.entities = .ok boards := ofEntities?_eq_ok_iff.mpr rfl
  have hperm := List.reverse_perm boards.entities
  obtain ⟨g', hg', hirrelevant⟩ := order_irrelevant hboards hperm
  obtain ⟨c, hc, hkeys, _⟩ := compile_boards
  have hview : (Graph.compile ⟨boards.entities.reverse, by decide +kernel⟩ {}).toOption.map
      (·.models.keys) = some ["secret_board", "board", "vault"] := by
    decide +kernel
  obtain ⟨c', hc', hkeys'⟩ := exists_ok_of_view hview
  obtain ⟨entities, sound⟩ := g'
  obtain rfl := ofEntities?_eq_ok_iff.mp hg'
  have hsame := (hirrelevant {}).result c c' hc hc'
  exact ⟨hboards, hperm, _, c, c', hg', hc, hc', hsame, hkeys, hkeys'⟩

end Graph

end EntityModels
