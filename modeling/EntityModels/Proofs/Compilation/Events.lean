import EntityModels.CommandLine.Log
import EntityModels.Proofs.Compilation.Diagnostics
import Mathlib.Data.List.Flatten

/-!
What a compilation logs, against what it gives. An entity that synthesizes has logged each of its
warnings, in their order, so the warnings of a run are among its events. However the events of the
entities come between each other, two logs that show the same events have the same lines but for
their times and their order.
-/
namespace EntityModels

namespace Event

/-- Steps that succeed leave all their events. -/
theorem untilFault_append (events : List (List Event))
    (rest : List (Except EntityFault (List Event))) :
    untilFault (events.map .ok ++ rest) = events.flatten ++ untilFault rest := by
  induction events with
  | nil => rfl
  | cons first events ih =>
    rw [List.map_cons, List.cons_append, untilFault, ih, List.flatten_cons, List.append_assoc]

theorem filterMap_unresolved (ds : List Diagnostic) :
    (ds.map unresolved).filterMap diagnostic? = ds := by
  rw [List.filterMap_map]
  exact List.filterMap_some

theorem filterMap_unresolvedValue (ds : List Diagnostic) :
    (ds.map unresolvedValue).filterMap diagnostic? = ds := by
  rw [List.filterMap_map]
  exact List.filterMap_some

end Event

namespace Synthesis

variable {s : Synthesis} {l : Lineage} {m : Model}

theorem map_valueModel_of_additionalModel {entity : Entity} {additional : Option ValueModel}
    (h : s.additionalModel entity = .ok additional) (k : ValueModel → List Event) :
    entity.additional.toList.map (fun value => k <$> s.valueModel entity value) =
      (additional.toList.map k).map .ok := by
  rcases additionalModel_eq_ok_iff.mp h with ⟨hnone, rfl⟩ | ⟨value, model, hvalue, hmodel, rfl⟩
  · rw [hnone]
    rfl
  · rw [hvalue, Option.toList_some, List.map_singleton, hmodel]
    rfl

/-- The steps of a synthesis that succeeds. -/
theorem steps_of_model (h : s.model l = .ok m) : s.steps l =
    (m.properties.map fun p =>
        (diagnosticsOf l.entity.name p.name p.type).map Event.unresolved).map .ok ++
      ((m.additional.toList.map fun v =>
        (diagnosticsOf l.entity.name additionalName v.type).map Event.unresolvedValue).map .ok ++
      [.ok [.synthesized l.entity.name (s.classOf l.entity) l.ownProperties.length
        l.ancestors.length]]) := by
  have hproperties := (mapM_map_eq _ (fun p =>
    (diagnosticsOf l.entity.name p.name p.type).map Event.unresolved) _).trans
      (congrArg (Except.map (List.map _)) (model_ok h).properties)
  rw [steps, ← map_valueModel_of_additionalModel (model_ok h).additional,
    ← mapM_eq_ok_iff.mp hproperties, List.append_assoc]
  rfl

/-- An entity that synthesizes has logged its warnings in their order. -/
theorem filterMap_events (h : s.model l = .ok m) :
    (s.events l).filterMap Event.diagnostic? = m.diagnostics := by
  have hnone : l.entity.declaredNames.findSome? l.collision? = none :=
    List.findSome?_eq_none_iff.mpr (model_ok h).apart
  have hlast (entity className : String) (own depth : Nat) :
      (Event.untilFault [.ok [.synthesized entity className own depth]]).filterMap
        Event.diagnostic? = [] := rfl
  rw [events, hnone]
  dsimp only
  rw [steps_of_model h, Event.untilFault_append, Event.untilFault_append, List.filterMap_append,
    List.filterMap_append, hlast, List.append_nil, (model_ok h).diagnostics, List.filterMap_flatten,
    List.filterMap_flatten, List.map_map, List.map_map, List.flatMap_def, List.flatMap_def]
  congr 2
  · exact List.map_congr_left fun p _ => Event.filterMap_unresolved _
  · exact List.map_congr_left fun v _ => Event.filterMap_unresolvedValue _

end Synthesis

namespace Graph

variable {g : Graph} {naming : Naming} {c : Compilation}

/-- What an entity of a graph has logged when it synthesizes are its warnings. -/
theorem filterMap_events {e : Entity} {m : Model} (hm : g.synthesize naming e = .ok m) :
    (g.events naming e).filterMap Event.diagnostic? = m.diagnostics := by
  obtain ⟨as, has⟩ := exists_ancestors_of_synthesize hm
  have hmodel := model_of_synthesize hm
  rw [lineage_of_ancestors has] at hmodel
  rw [events, has]
  exact Synthesis.filterMap_events hmodel

/-- The warnings of a run have been logged, entity by entity. -/
theorem diagnostics_eq_flatMap_events (hc : g.compile naming = .ok c) : c.diagnostics =
    (g.entities.filter (g.compiles naming)).flatMap fun e =>
      (g.events naming e).filterMap Event.diagnostic? := by
  rw [diagnostics_eq_flatMap hc, List.flatMap_def, List.flatMap_def]
  refine congrArg List.flatten (List.map_congr_left fun e he => ?_)
  obtain ⟨he, hcompiles⟩ := List.mem_filter.mp he
  obtain ⟨m, hm⟩ := synthesizes_iff.mp (Bool.and_eq_true_iff.mp hcompiles).1
  rw [filterMap_events hm, diagnostics_of_synthesize he hm]

/-- A run warns of nothing that it has not logged. An entity that an ancestor fails may have logged
more. -/
theorem diagnostics_sublist_trace (hc : g.compile naming = .ok c) :
    c.diagnostics.Sublist
      ((g.trace naming c).sideBySide.flatten.filterMap Event.diagnostic?) := by
  rw [diagnostics_eq_flatMap_events hc, trace, List.filterMap_flatten, List.map_map,
    ← List.flatMap_def]
  exact List.filter_sublist.flatMap _

end Graph

namespace CommandLine

/-- Lists that come between each other keep their items. -/
theorem Interleaves.perm {α : Type} {lists : List (List α)} {rest : List α}
    (h : Interleaves lists rest) : rest.Perm lists.flatten := by
  induction h with
  | done h => rw [List.flatten_eq_nil_iff.mpr h]
  | @take before after list rest x _ ih =>
    rw [List.flatten_append, List.flatten_cons, List.cons_append]
    refine (ih.cons x).trans ?_
    rw [List.flatten_append, List.flatten_cons]
    exact List.perm_middle.symm

/-- Two logs that show the same events differ in the times of their lines and in their order. -/
theorem Log.shown_perm {log other : Log} (h : log.shows = other.shows) (t : Trace) :
    (log.shown t).Perm (other.shown t) := by
  rw [shown, shown, h]
  have hflatten :=
    (log.interleaves t.sideBySide).perm.trans (other.interleaves t.sideBySide).perm.symm
  exact (hflatten.append_right t.after).filter _

end CommandLine

end EntityModels
