import EntityModels.Proofs.Compilation.Types
import EntityModels.Proofs.Naming.Legality
import Mathlib.Data.List.Perm.Basic

/-!
The classes that a compilation generates, one model class and one builder class for each model. A
graph refuses two entities of one class, so model classes are apart and so are builder classes, but
it does not compare the one kind with the other.
-/
namespace EntityModels

namespace Naming

variable {naming : Naming} {n n' : String}

/-- Builders of different classes have different names. -/
theorem builderClassName_inj {first second : String} :
    builderClassName first = builderClassName second ↔ first = second := by
  rw [builderClassName, builderClassName, String.append_left_inj]

/-- A prefix stands in front of a class and of its builder alike. -/
theorem builderClassName_className (naming : Naming) (n : String) :
    builderClassName (naming.className n) =
      naming.classPrefix.getD "" ++ builderClassName (pascalCase n) := by
  rw [builderClassName, className, String.append_assoc, builderClassName]

/-- The class of one entity has the name of the builder of another exactly when the Pascal cases say
so. The prefix stands in front of both. -/
theorem className_eq_builderClassName_iff :
    naming.className n' = builderClassName (naming.className n) ↔
      pascalCase n' = builderClassName (pascalCase n) := by
  rw [builderClassName_className, className, String.append_right_inj]

/-- No name has the class of the builder of another one. -/
def BuildersApart (names : List String) : Prop :=
  ∀ n ∈ names, ∀ n' ∈ names, pascalCase n' ≠ builderClassName (pascalCase n)

instance (names : List String) : Decidable (BuildersApart names) :=
  inferInstanceAs (Decidable (∀ n ∈ names, ∀ n' ∈ names, _ ≠ _))

/-- The classes that are generated for a list of entities, each followed by its builder. -/
def generatedClasses (naming : Naming) (names : List String) : List String :=
  names.flatMap fun n => [naming.className n, builderClassName (naming.className n)]

/-- All generated classes are the model classes and their builder classes, in some order. -/
theorem generatedClasses_perm (naming : Naming) (names : List String) :
    (naming.generatedClasses names).Perm
      (names.map naming.className ++ (names.map naming.className).map builderClassName) := by
  rw [List.map_map, List.map_eq_flatMap, List.map_eq_flatMap]
  exact (List.flatMap_append_perm names (fun n => [naming.className n])
    fun n => [builderClassName (naming.className n)]).symm

theorem classNames_nodup (naming : Naming) {names : List String}
    (h : (names.map pascalCase).Nodup) : (names.map naming.className).Nodup := by
  refine h.of_map.map_on fun n hn n' hn' heq => ?_
  exact List.inj_on_of_nodup_map h hn hn' (className_inj.mp heq)

/-- Whether generated classes are apart does not depend on the prefix. -/
theorem generatedClasses_nodup_iff {names : List String} (h : (names.map pascalCase).Nodup) :
    (naming.generatedClasses names).Nodup ↔ BuildersApart names := by
  have hclasses := classNames_nodup naming h
  have hbuilders := hclasses.map fun _ _ heq => builderClassName_inj.mp heq
  rw [(generatedClasses_perm naming names).nodup_iff, List.nodup_append]
  constructor
  · intro hall n hn n' hn' hbuilder
    have hclash : naming.className n' = builderClassName (naming.className n) :=
      className_eq_builderClassName_iff.mpr hbuilder
    refine hall.2.2 _ (List.mem_map_of_mem hn') _ ?_ hclash
    exact List.mem_map_of_mem (List.mem_map_of_mem hn)
  · intro hapart
    refine ⟨hclasses, hbuilders, ?_⟩
    intro first hfirst builder hbuilder heq
    obtain ⟨n', hn', rfl⟩ := List.mem_map.mp hfirst
    obtain ⟨second, hsecond, rfl⟩ := List.mem_map.mp hbuilder
    obtain ⟨n, hn, rfl⟩ := List.mem_map.mp hsecond
    exact hapart n hn n' hn' (className_eq_builderClassName_iff.mp heq)

end Naming

/-- Where a model names the class of an entity: its own, its parent's, and those in its types. -/
inductive Model.NamesClass (m : Model) : String → String → Prop
  | own : NamesClass m m.entity m.modelClass.className
  | parent {link : ParentLink} (h : m.modelClass.parent = some link) :
    NamesClass m link.entity link.className
  | type {type : TargetType} {typeName : String} {rule : CoercionRule} {entity className : String}
    (h : m.Types type typeName rule) (hoccurs : TargetType.Occurs (.model entity className) type) :
    NamesClass m entity className

namespace Graph

variable {g : Graph} {naming : Naming} {c : Compilation} {m : Model}

/-- The link of a model is that of an entity. -/
theorem exists_of_parent {e : Entity} (hm : g.synthesize naming e = .ok m) {link : ParentLink}
    (h : m.modelClass.parent = some link) :
    ∃ p ∈ g.entities, link = Synthesis.parentLink ⟨g, naming⟩ p := by
  obtain ⟨as, has⟩ := exists_ancestors_of_synthesize hm
  rw [Synthesis.model_parent ((synthesize_eq_ok_iff has).mp hm)] at h
  obtain ⟨p, hp, rfl⟩ := Option.map_eq_some_iff.mp h
  rw [Lineage.parent?, lineage_of_ancestors has] at hp
  exact ⟨p, ancestors_mem has (List.mem_of_getLast? hp), rfl⟩

/-- A class is named as the prefix and the name of its entity say, wherever it is named. -/
theorem exists_of_namesClass {e : Entity} (he : e ∈ g.entities) (hm : g.synthesize naming e = .ok m)
    {entity className : String} (h : m.NamesClass entity className) :
    ∃ e' ∈ g.entities, e'.name = entity ∧ className = naming.className e'.name := by
  cases h with
  | own =>
    have hentity := Synthesis.model_entity (model_of_synthesize hm)
    exact ⟨e, he, hentity.symm, (classNames_of_synthesize hm).1⟩
  | parent hlink =>
    obtain ⟨p, hp, rfl⟩ := exists_of_parent hm hlink
    exact ⟨p, hp, rfl, rfl⟩
  | type htypes hoccurs =>
    obtain ⟨v, rfl, _⟩ := exists_variant_of_types he hm htypes
    exact exists_of_occurs_model hoccurs

/-- The models have the classes of their names. -/
theorem classNames_of_mem_entries (hc : g.compile naming = .ok c) {entry : String × Model}
    (h : entry ∈ c.models.entries) :
    entry.2.modelClass.className = naming.className entry.1 ∧
      entry.2.modelClass.builderClassName =
        Naming.builderClassName (naming.className entry.1) := by
  obtain ⟨e, _, hname, _, hm⟩ :=
    (models_get?_eq_some_iff hc).mp (Record.get?_eq_some_iff.mpr h)
  rw [← hname]
  exact classNames_of_synthesize hm

theorem pascalCases_keys_nodup (hc : g.compile naming = .ok c) :
    (c.models.keys.map Naming.pascalCase).Nodup := by
  rw [keys_models hc]
  exact ((List.filter_sublist.map _).map _).nodup g.pascalCases_nodup

/-- The model classes of a compilation are apart, and so are its builder classes. A model class is a
builder class as well just when an entity has the name of another one with `Builder` behind it. -/
theorem generatedClasses_apart_iff (hc : g.compile naming = .ok c) :
    (c.models.values.map (·.modelClass.className)).Nodup ∧
    (c.models.values.map (·.modelClass.builderClassName)).Nodup ∧
    ((c.models.values.flatMap fun m =>
        [m.modelClass.className, m.modelClass.builderClassName]).Nodup ↔
      Naming.BuildersApart c.models.keys) := by
  have hkeys := pascalCases_keys_nodup hc
  have hclasses := Naming.classNames_nodup naming hkeys
  have hmodel : c.models.values.map (·.modelClass.className) =
      c.models.keys.map naming.className := by
    rw [Record.values, Record.keys, List.map_map, List.map_map]
    exact List.map_congr_left fun entry h => (classNames_of_mem_entries hc h).1
  have hbuilder : c.models.values.map (·.modelClass.builderClassName) =
      (c.models.keys.map naming.className).map Naming.builderClassName := by
    rw [Record.values, Record.keys, List.map_map, List.map_map, List.map_map]
    exact List.map_congr_left fun entry h => (classNames_of_mem_entries hc h).2
  have hboth : (c.models.values.flatMap fun m =>
      [m.modelClass.className, m.modelClass.builderClassName]) =
        naming.generatedClasses c.models.keys := by
    rw [Naming.generatedClasses, Record.values, Record.keys, List.flatMap_map, List.flatMap_map]
    refine List.flatMap_congr fun entry h => ?_
    obtain ⟨hclass, hbuilderClass⟩ := classNames_of_mem_entries hc h
    rw [hclass, hbuilderClass]
  refine ⟨hmodel ▸ hclasses, ?_, ?_⟩
  · rw [hbuilder]
    exact hclasses.map fun _ _ heq => Naming.builderClassName_inj.mp heq
  · rw [hboth]
    exact Naming.generatedClasses_nodup_iff hkeys

theorem generatedClasses_apart_boards : ∃ c, boards.compile {} = .ok c ∧
    Naming.BuildersApart c.models.keys ∧ (c.models.values.flatMap fun m =>
      [m.modelClass.className, m.modelClass.builderClassName]).Nodup := by
  obtain ⟨c, hc, hkeys, _⟩ := compile_boards
  have hapart : Naming.BuildersApart c.models.keys := by
    rw [hkeys]
    decide +kernel
  exact ⟨c, hc, hapart, (generatedClasses_apart_iff hc).2.2.mpr hapart⟩

/-- Pages, and an entity with the class of their builder. -/
def pages : Graph where
  entities := [{ name := "page" }, { name := "page_builder" }]
  sound := by decide +kernel

theorem generatedClasses_pages : ∃ c, pages.compile {} = .ok c ∧
    (c.models.values.flatMap fun m => [m.modelClass.className, m.modelClass.builderClassName]) =
      ["Page", "PageBuilder", "PageBuilder", "PageBuilderBuilder"] ∧
    ¬(c.models.values.flatMap fun m =>
      [m.modelClass.className, m.modelClass.builderClassName]).Nodup := by
  have hview : (pages.compile {}).toOption.map (fun c => c.models.values.flatMap fun m =>
      [m.modelClass.className, m.modelClass.builderClassName]) =
      some ["Page", "PageBuilder", "PageBuilder", "PageBuilderBuilder"] := by
    decide +kernel
  obtain ⟨c, hc, hclasses⟩ := exists_ok_of_view hview
  refine ⟨c, hc, hclasses, ?_⟩
  rw [hclasses]
  decide

end Graph

end EntityModels
