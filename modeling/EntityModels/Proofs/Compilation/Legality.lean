import EntityModels.Proofs.Compilation.Classes
import EntityModels.Proofs.Target.Spelling

/-!
Which of the names in a compilation are identifiers, and which are empty. A class with a prefix
always has an identifier, since the prefix begins it. All other generated names begin with what
follows the underscores in front of the declared name, which may be a digit or nothing.
-/
namespace EntityModels

namespace Graph

open Naming

variable {g : Graph} {naming : Naming} {c : Compilation}

/-- A class without a name is that of underscores only. -/
theorem className_empty_of_occurs (hlegal : ∀ p, naming.classPrefix = some p → isIdentifier p)
    {v : Variant} {entity : String}
    (h : TargetType.Occurs (.model entity "") (.ofVariant g naming v)) :
    naming.classPrefix = none ∧ stem entity = [] := by
  obtain ⟨e, he, rfl, hclass⟩ := exists_of_occurs_model h
  exact (className_eq_empty_iff hlegal (wellNamed he).identifier).mp hclass.symm

/-- Which classes and properties have identifiers, and which types and constructed classes have no
name. Without a prefix, a reference to an entity named with underscores only looks like one that
does not resolve. -/
structure LegalityExact (naming : Naming) (c : Compilation) : Prop where
  classes : ∀ m ∈ c.models.values, ∀ entity className, m.NamesClass entity className →
    (isIdentifier className ↔ naming.classPrefix.isSome ∨ leadsWithLetter entity)
  properties : ∀ m ∈ c.models.values, ∀ pm ∈ m.properties,
    (isIdentifier pm.propertyName ↔ leadsWithLetter pm.name)
  typeNames : ∀ m ∈ c.models.values, ∀ type typeName rule, m.Types type typeName rule →
    (typeName = "" ↔ (∃ target, type = .unresolved target) ∨
      ∃ entity, type = .model entity "" ∧ naming.classPrefix = none ∧ stem entity = [])
  constructs : ∀ m ∈ c.models.values, ∀ type typeName rule, m.Types type typeName rule →
    ∀ target, rule.leaf = .construct target "" ↔ type.leaf = .unresolved target ∨
      (type.leaf = .model target "" ∧ naming.classPrefix = none ∧ stem target = [])

/-- Whether a generated name is an identifier is decided by the declared name and the prefix. -/
theorem legality_exact (hc : g.compile naming = .ok c)
    (hlegal : ∀ p, naming.classPrefix = some p → isIdentifier p) : LegalityExact naming c := by
  refine ⟨?_, ?_, ?_, ?_⟩
  · intro m hmem entity className h
    obtain ⟨e, he, _, _, hm⟩ := exists_of_mem_values hc hmem
    obtain ⟨e', he', rfl, rfl⟩ := exists_of_namesClass he hm h
    exact isIdentifier_className_iff hlegal (wellNamed he').identifier
  · intro m hmem pm hpm
    obtain ⟨e, he, _, _, hm⟩ := exists_of_mem_values hc hmem
    obtain ⟨p, hp, hdescribes⟩ := exists_of_forall₂_right (forall₂_properties he hm) hpm
    have hdeclared := (Lineage.mem_ownNames_iff.mp (List.mem_map_of_mem hp)).1
    have hidentifier := (wellNamed he).propertyIdentifiers p.name hdeclared
    rw [hdescribes.propertyName, hdescribes.name, propertyName, isIdentifier_camelCase hidentifier]
  · intro m hmem type typeName rule h
    obtain ⟨e, he, _, _, hm⟩ := exists_of_mem_values hc hmem
    obtain ⟨v, rfl, rfl, _⟩ := exists_variant_of_types he hm h
    rw [TargetType.spelling_eq_empty_iff]
    refine or_congr_right (exists_congr fun entity => iff_self_and.mpr fun htype => ?_)
    have hoccurs : TargetType.Occurs (.model entity "") (.ofVariant g naming v) := by
      rw [htype]
      exact .here
    exact className_empty_of_occurs hlegal hoccurs
  · intro m hmem type typeName rule h target
    obtain ⟨e, he, _, _, hm⟩ := exists_of_mem_values hc hmem
    rw [(agrees_of_types he hm h).1.construct, or_comm, and_iff_left rfl]
    obtain ⟨v, rfl, _⟩ := exists_variant_of_types he hm h
    refine or_congr_right (iff_self_and.mpr fun hleaf => ?_)
    exact className_empty_of_occurs hlegal (hleaf ▸ TargetType.occurs_leaf _)

/-- An entity of an underscore only, with a property that is numbered, and tags that refer to it. -/
def marks : Graph where
  entities := [
    { name := "_", properties := [⟨"_1", .text .plain, none⟩] },
    { name := "tag"
      properties := [⟨"mark", .reference "#_", none⟩, ⟨"lost", .reference "#nowhere", none⟩] }]
  sound := by decide +kernel

/-- A prefix makes the class of the underscore an identifier, but not its property. -/
theorem legality_exact_prefixed : ∃ c, marks.compile ⟨some "AB"⟩ = .ok c ∧
    c.models.keys = ["_", "tag"] ∧
    (∀ m ∈ c.models.values, isIdentifier m.modelClass.className) ∧
    ∀ m ∈ c.models.values, ∀ pm ∈ m.properties, pm.name = "_1" → ¬isIdentifier pm.propertyName := by
  have hview : (marks.compile ⟨some "AB"⟩).toOption.map (·.models.keys) = some ["_", "tag"] := by
    decide +kernel
  obtain ⟨c, hc, hkeys⟩ := exists_ok_of_view hview
  have hexact : LegalityExact ⟨some "AB"⟩ c := legality_exact hc fun p hp => by
    obtain rfl := Option.some.inj hp
    decide
  refine ⟨c, hc, hkeys, fun m hmem => (hexact.classes m hmem _ _ .own).mpr (.inl rfl), ?_⟩
  intro m hmem pm hpm hname
  rw [hexact.properties m hmem pm hpm, hname]
  decide

/-- The reference to the underscore resolves, but has no class name, like the one that does not. -/
theorem marks_illegal : ∃ c, marks.compile {} = .ok c ∧
    c.models.values.map (·.modelClass.className) = ["", "Tag"] ∧
    c.models.values.map (fun m => m.properties.map (·.propertyName)) = [["1"], ["mark", "lost"]] ∧
    c.models.values.map (fun m => m.properties.map (·.coercion)) =
      [[.direct none], [.construct "_" "", .construct "#nowhere" ""]] ∧
    ¬(∀ m ∈ c.models.values, isIdentifier m.modelClass.className) ∧
    ¬(∀ m ∈ c.models.values, ∀ pm ∈ m.properties, isIdentifier pm.propertyName) := by
  have hview : (marks.compile {}).toOption.map (fun c =>
      (c.models.values.map (·.modelClass.className),
        c.models.values.map (fun m => m.properties.map (·.propertyName)),
        c.models.values.map (fun m => m.properties.map (·.coercion)))) =
      some (["", "Tag"], [["1"], ["mark", "lost"]],
        [[.direct none], [.construct "_" "", .construct "#nowhere" ""]]) := by
    decide +kernel
  obtain ⟨c, hc, hparts⟩ := exists_ok_of_view hview
  obtain ⟨hclasses, hrest⟩ := Prod.mk.inj hparts
  obtain ⟨hproperties, hrules⟩ := Prod.mk.inj hrest
  refine ⟨c, hc, hclasses, hproperties, hrules, fun hall => ?_, fun hall => ?_⟩
  · have hempty : "" ∈ c.models.values.map (·.modelClass.className) := by
      rw [hclasses]
      exact List.mem_cons_self
    obtain ⟨m, hmem, hclass⟩ := List.mem_map.mp hempty
    exact ne_empty_of_isIdentifier (hall m hmem) hclass
  · have hnumbered : ["1"] ∈ c.models.values.map (fun m => m.properties.map (·.propertyName)) := by
      rw [hproperties]
      exact List.mem_cons_self
    obtain ⟨m, hmem, hnames⟩ := List.mem_map.mp hnumbered
    obtain ⟨pm, hpm, hname⟩ := List.mem_map.mp (hnames ▸ List.mem_cons_self)
    exact absurd (hname ▸ hall m hmem pm hpm) (by decide)

end Graph

end EntityModels
