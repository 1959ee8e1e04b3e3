import EntityModels.Proofs.Compilation.Numbering
import EntityModels.Proofs.Target.Unresolved

/-!
The warnings of a compilation. They are those of the entities with models, in the order of the
models, and each stands for one reference that does not resolve, in an own property or in the shape
of the values under undeclared keys.
-/
namespace EntityModels

namespace Graph

variable {g : Graph} {naming : Naming} {c : Compilation}

/-- The warning for a shape at a site of an entity: a property, or the values under undeclared
keys. -/
def warning? (g : Graph) (entity site : String) (v : Variant) : Option Diagnostic :=
  (g.missing? v).map fun target => ⟨entity, some site, target⟩

/-- The warnings of an entity: for its own properties, then for the values under undeclared keys. -/
def warnings (g : Graph) (e : Entity) : List Diagnostic :=
  (g.lineage e).ownProperties.filterMap (fun p => g.warning? e.name p.name p.variant) ++
    (e.additional.bind fun v => g.warning? e.name Synthesis.additionalName v).toList

/-- A site warns of the reference it mentions when that leads nowhere. -/
theorem warning?_eq_some_iff {entity site : String} {v : Variant} {d : Diagnostic} :
    g.warning? entity site v = some d ↔ d.entity = entity ∧ d.property = some site ∧
      v.Mentions d.target ∧ g.resolve d.target = .error ⟨d.target⟩ := by
  rw [warning?, Option.map_eq_some_iff]
  constructor
  · intro h
    obtain ⟨t, ht, rfl⟩ := h
    obtain ⟨hmentions, hnone⟩ := missing?_eq_some_iff.mp ht
    exact ⟨rfl, rfl, hmentions, resolve_eq_error_iff.mpr ⟨hnone, rfl⟩⟩
  · intro h
    obtain ⟨rfl, hsite, hmentions, hfails⟩ := h
    refine ⟨d.target, missing?_eq_some_iff.mpr ⟨hmentions, ?_⟩, ?_⟩
    · exact (resolve_eq_error_iff.mp hfails).1
    · rw [← hsite]

/-- Where an entity has shapes of its own: at its own properties and under undeclared keys. -/
inductive Site (g : Graph) (e : Entity) : String → Variant → Prop
  | property {p : Property} (h : p ∈ (g.lineage e).ownProperties) : Site g e p.name p.variant
  | additional {v : Variant} (h : e.additional = some v) : Site g e Synthesis.additionalName v

theorem mem_warnings_iff {e : Entity} {d : Diagnostic} :
    d ∈ g.warnings e ↔ ∃ site v, g.Site e site v ∧ g.warning? e.name site v = some d := by
  simp only [warnings, List.mem_append, List.mem_filterMap, Option.mem_toList,
    Option.bind_eq_some_iff]
  constructor
  · intro h
    rcases h with ⟨p, hp, hd⟩ | ⟨v, hv, hd⟩
    · exact ⟨p.name, p.variant, .property hp, hd⟩
    · exact ⟨_, v, .additional hv, hd⟩
  · intro h
    obtain ⟨site, v, hsite, hd⟩ := h
    cases hsite with
    | property hp => exact .inl ⟨_, hp, hd⟩
    | additional hv => exact .inr ⟨v, hv, hd⟩

theorem entity_of_mem_warnings {e : Entity} {d : Diagnostic} (h : d ∈ g.warnings e) :
    d.entity = e.name := by
  obtain ⟨_, _, _, hd⟩ := mem_warnings_iff.mp h
  exact (warning?_eq_some_iff.mp hd).1

/-- What a lowered type reports is what its site warns of. -/
theorem diagnosticsOf_ofVariant {entity site : String} {v : Variant} :
    Synthesis.diagnosticsOf entity site (.ofVariant g naming v) =
      (g.warning? entity site v).toList := by
  rw [Synthesis.diagnosticsOf, unresolvedTargets_ofVariant, warning?]
  cases g.missing? v <;> rfl

/-- A type reports each reference in it that is not resolved, under the name of its site. -/
theorem mem_diagnosticsOf_iff {entity site site' t : String} {type : TargetType} :
    ⟨entity, some site', t⟩ ∈ Synthesis.diagnosticsOf entity site type ↔
      site = site' ∧ type.HasUnresolved t := by
  rw [← TargetType.mem_unresolvedTargets_iff]
  simp [Synthesis.diagnosticsOf, and_comm]

/-- A model warns of exactly what its entity is to be warned of. -/
theorem diagnostics_of_synthesize {e : Entity} {m : Model} (he : e ∈ g.entities)
    (hm : g.synthesize naming e = .ok m) : m.diagnostics = g.warnings e := by
  obtain ⟨as, has⟩ := exists_ancestors_of_synthesize hm
  have hmodel := (synthesize_eq_ok_iff has).mp hm
  have haligned := forall₂_properties he hm
  have hadditional := Synthesis.additionalModel_ok (Synthesis.model_ok hmodel).additional
  rw [(Synthesis.model_ok hmodel).diagnostics, warnings]
  congr 1
  · -- property by property the two lists take the same warning, or none
    have heach : (g.lineage e).ownProperties.map
          (fun p => (g.warning? e.name p.name p.variant).toList) =
        m.properties.map fun pm => Synthesis.diagnosticsOf e.name pm.name pm.type := by
      refine map_eq_map_of_forall₂ (haligned.imp fun p pm h => ?_)
      rw [h.name, h.type]
      exact diagnosticsOf_ofVariant.symm
    rw [List.filterMap_eq_flatMap_toList, List.flatMap_def, List.flatMap_def, heach]
    rfl
  · have hentity : (g.lineage e).entity = e := rfl
    rw [hentity] at hadditional ⊢
    cases hshape : e.additional with
    | none =>
      rw [hshape] at hadditional
      rw [Option.map_eq_none_iff.mp hadditional]
      rfl
    | some v =>
      rw [hshape] at hadditional
      obtain ⟨vm, hvm, htype⟩ := Option.map_eq_some_iff.mp hadditional
      rw [hvm, Option.toList_some, List.flatMap_singleton, htype]
      exact diagnosticsOf_ofVariant

/-- The diagnostics of a compilation are the warnings of the entities that compile, in their
order. -/
theorem diagnostics_eq_flatMap (hc : g.compile naming = .ok c) :
    c.diagnostics = (g.entities.filter (g.compiles naming)).flatMap g.warnings := by
  have hs := chainsSound_of_compile hc
  have heach : (g.entities.filter (g.compiles naming)).map g.warnings =
      (g.compiledModels naming).map fun entry => entry.2.diagnostics := by
    refine map_eq_map_of_forall₂ ((forall₂_compiledModels naming hs).imp fun e entry h => ?_)
    obtain ⟨he, _, hm⟩ := h
    exact (diagnostics_of_synthesize he hm).symm
  rw [diagnostics_of_compile hc, Record.values, entries_models hc, List.flatMap_map,
    List.flatMap_def, List.flatMap_def, heach]

theorem mem_diagnostics_iff (hc : g.compile naming = .ok c) {d : Diagnostic} :
    d ∈ c.diagnostics ↔
      ∃ e ∈ g.entities, g.compiles naming e = true ∧ d ∈ g.warnings e := by
  rw [diagnostics_eq_flatMap hc, List.mem_flatMap]
  simp only [List.mem_filter, and_assoc]

/-- An entity that compiles has its own warnings in the compilation, and nobody else has them, since
names are distinct. -/
theorem mem_diagnostics_of_compiles (hc : g.compile naming = .ok c) {e : Entity}
    (he : e ∈ g.entities) (hcompiles : g.compiles naming e = true) {d : Diagnostic}
    (hd : d.entity = e.name) : d ∈ c.diagnostics ↔ d ∈ g.warnings e := by
  rw [mem_diagnostics_iff hc]
  constructor
  · intro h
    obtain ⟨e', he', _, hmem⟩ := h
    obtain rfl := eq_of_name_eq he' he ((entity_of_mem_warnings hmem).symm.trans hd)
    exact hmem
  · intro h
    exact ⟨e, he, hcompiles, h⟩

/-- A site warns of its own target when that does not resolve, also where another site of the entity
has its name. -/
theorem mem_warnings_of_mentions {e : Entity} {site t : String} {v : Variant}
    (hsite : g.Site e site v) (hmentions : v.Mentions t) :
    ⟨e.name, some site, t⟩ ∈ g.warnings e ↔ g.target? t = none := by
  rw [mem_warnings_iff]
  constructor
  · intro h
    obtain ⟨_, _, _, hd⟩ := h
    obtain ⟨_, _, _, hfails⟩ := warning?_eq_some_iff.mp hd
    exact (resolve_eq_error_iff.mp hfails).1
  · intro hnone
    have hfails : g.resolve t = .error ⟨t⟩ := resolve_eq_error_iff.mpr ⟨hnone, rfl⟩
    exact ⟨site, v, hsite, warning?_eq_some_iff.mpr ⟨rfl, rfl, hmentions, hfails⟩⟩

/-- A warning under an inherited name is about the values under undeclared keys, since a redeclared
property is none of the own ones. -/
theorem additional_of_mem_warnings {e : Entity} {as : List Entity} (has : g.ancestors e = .ok as)
    {d : Diagnostic} (hd : d ∈ g.warnings e) {name : String} (hname : d.property = some name)
    (hinherited : name ∈ as.flatMap Entity.declaredNames) :
    name = Synthesis.additionalName ∧ ∃ v, e.additional = some v ∧ v.Mentions d.target := by
  obtain ⟨site, v, hsite, hwarns⟩ := mem_warnings_iff.mp hd
  obtain ⟨_, hproperty, hmentions, _⟩ := warning?_eq_some_iff.mp hwarns
  obtain rfl : site = name := Option.some.inj (hproperty.symm.trans hname)
  cases hsite with
  | property hp =>
    rw [lineage_of_ancestors has] at hp
    exact absurd hinherited (by simpa using (List.mem_filter.mp hp).2)
  | additional hv => exact ⟨rfl, v, hv, hmentions⟩

/-- A property model has an unresolved target in its type exactly where its property warns of it. -/
theorem forall₂_properties_warn (hc : g.compile naming = .ok c) {e : Entity} (he : e ∈ g.entities)
    (hcompiles : g.compiles naming e = true) {m : Model} (hm : g.synthesize naming e = .ok m) :
    List.Forall₂ (fun p pm => pm.name = p.name ∧ ∀ t, pm.type.HasUnresolved t ↔
        p.variant.Mentions t ∧ ⟨e.name, some p.name, t⟩ ∈ c.diagnostics)
      m.modelClass.ownProperties m.properties := by
  obtain ⟨as, has⟩ := exists_ancestors_of_synthesize hm
  have hmodel := (synthesize_eq_ok_iff has).mp hm
  have haligned := forall₂_properties he hm
  rw [Synthesis.model_ownProperties hmodel]
  refine forall₂_imp_of_mem haligned fun p hp pm _ h => ⟨h.name, fun t => ?_⟩
  rw [h.type, Synthesis.typeOf, hasUnresolved_ofVariant_iff, and_congr_right_iff]
  intro hmentions
  rw [mem_diagnostics_of_compiles hc he hcompiles rfl]
  exact (mem_warnings_of_mentions (.property hp) hmentions).symm

/-- The values under undeclared keys are typed as a map of their shape, which mentions what the
shape mentions. -/
theorem additional_warns (hc : g.compile naming = .ok c) {e : Entity} (he : e ∈ g.entities)
    (hcompiles : g.compiles naming e = true) {m : Model} (hm : g.synthesize naming e = .ok m)
    {vm : ValueModel} (hvm : m.additional = some vm) :
    ∃ v, e.additional = some v ∧ ∀ t, vm.type.HasUnresolved t ↔
      v.Mentions t ∧ ⟨e.name, some Synthesis.additionalName, t⟩ ∈ c.diagnostics := by
  obtain ⟨as, has⟩ := exists_ancestors_of_synthesize hm
  have hmodel := (synthesize_eq_ok_iff has).mp hm
  have hadditional : m.additional.map (·.type) = e.additional.map _ :=
    Synthesis.additionalModel_ok (Synthesis.model_ok hmodel).additional
  rw [hvm, Option.map_some] at hadditional
  obtain ⟨v, hv, htype⟩ := Option.map_eq_some_iff.mp hadditional.symm
  refine ⟨v, hv, fun t => ?_⟩
  have hmap : (Variant.container .map v).Mentions t ↔ v.Mentions t :=
    ⟨fun h => by cases h with | element h => exact h, .element⟩
  rw [← htype, Synthesis.typeOf, hasUnresolved_ofVariant_iff, hmap, and_congr_right_iff]
  intro hmentions
  rw [mem_diagnostics_of_compiles hc he hcompiles rfl]
  exact (mem_warnings_of_mentions (.additional hv) hmentions).symm

/-- A compiled entity is warned of exactly the unresolved references in the types of its model. -/
theorem mem_diagnostics_iff_hasUnresolved (hc : g.compile naming = .ok c) {e : Entity}
    (he : e ∈ g.entities) (hcompiles : g.compiles naming e = true) {m : Model}
    (hm : g.synthesize naming e = .ok m) (site t : String) :
    ⟨e.name, some site, t⟩ ∈ c.diagnostics ↔
      (∃ pm ∈ m.properties, pm.name = site ∧ pm.type.HasUnresolved t) ∨
        (site = Synthesis.additionalName ∧ ∃ vm, m.additional = some vm ∧
          vm.type.HasUnresolved t) := by
  obtain ⟨as, has⟩ := exists_ancestors_of_synthesize hm
  have hmodel := (synthesize_eq_ok_iff has).mp hm
  have hlists := (Synthesis.model_ok hmodel).diagnostics
  rw [mem_diagnostics_of_compiles hc he hcompiles rfl, ← diagnostics_of_synthesize he hm, hlists]
  have hentity : (g.lineage e).entity = e := rfl
  simp only [hentity, List.mem_append, List.mem_flatMap, Option.mem_toList, mem_diagnosticsOf_iff]
  constructor
  · intro h
    rcases h with h | ⟨vm, hvm, rfl, hunresolved⟩
    · exact .inl h
    · exact .inr ⟨rfl, vm, hvm, hunresolved⟩
  · intro h
    rcases h with h | ⟨rfl, vm, hvm, hunresolved⟩
    · exact .inl h
    · exact .inr ⟨vm, hvm, rfl, hunresolved⟩

/-- Which warnings a compilation gives, and what they say of its models. -/
structure WarningsExact (g : Graph) (c : Compilation) : Prop where
  /-- In the order of the models, and for each model those of its entity. -/
  order : ∃ es : List Entity, es ⊆ g.entities ∧ es.map (·.name) = c.models.keys ∧
    c.diagnostics = es.flatMap g.warnings
  /-- A site warns of the reference in it, as it is written, when that does not resolve. -/
  site : ∀ entity site v d, g.warning? entity site v = some d ↔
    d.entity = entity ∧ d.property = some site ∧
      v.Mentions d.target ∧ g.resolve d.target = .error ⟨d.target⟩
  /-- An entity that is warned of has a model. -/
  kept : ∀ d ∈ c.diagnostics, d.entity ∈ c.models.keys ∧ d.entity ∉ c.failures.map (·.entity)
  /-- A redeclared property warns of nothing: only the values under undeclared keys may have its
  name. -/
  inherited : ∀ e ∈ g.entities, ∀ as, g.ancestors e = .ok as →
    ∀ d ∈ c.diagnostics, d.entity = e.name →
      ∀ name ∈ as.flatMap Entity.declaredNames, d.property = some name →
        name = Synthesis.additionalName ∧ ∃ v, e.additional = some v ∧ v.Mentions d.target
  /-- Site by site, the type is unresolved in just what the site warns of. -/
  property : ∀ m ∈ c.models.values, List.Forall₂ (fun p pm => pm.name = p.name ∧
      ∀ t, pm.type.HasUnresolved t ↔
        p.variant.Mentions t ∧ ⟨m.entity, some p.name, t⟩ ∈ c.diagnostics)
    m.modelClass.ownProperties m.properties
  /-- The values under undeclared keys are typed as a map, which is unresolved in just what the
  shape warns of. -/
  value : ∀ m ∈ c.models.values, ∀ vm, m.additional = some vm →
    ∃ e ∈ g.entities, e.name = m.entity ∧ ∃ v, e.additional = some v ∧
      ∀ t, vm.type.HasUnresolved t ↔
        v.Mentions t ∧ ⟨m.entity, some Synthesis.additionalName, t⟩ ∈ c.diagnostics
  /-- Name by name, since a property may be called `additionalProperties` too. -/
  named : ∀ m ∈ c.models.values, ∀ site t, ⟨m.entity, some site, t⟩ ∈ c.diagnostics ↔
    (∃ pm ∈ m.properties, pm.name = site ∧ pm.type.HasUnresolved t) ∨
      (site = Synthesis.additionalName ∧ ∃ vm, m.additional = some vm ∧ vm.type.HasUnresolved t)

/-- The diagnostics of every compilation are all its warnings and nothing else. -/
theorem warnings_exact (hc : g.compile naming = .ok c) : g.WarningsExact c := by
  refine ⟨⟨_, List.filter_subset_self _, (keys_models hc).symm,
    diagnostics_eq_flatMap hc⟩, fun _ _ _ _ => warning?_eq_some_iff, ?_, ?_, ?_, ?_, ?_⟩
  · intro d hd
    obtain ⟨e, he, hcompiles, hmem⟩ := (mem_diagnostics_iff hc).mp hd
    have hkey : d.entity ∈ c.models.keys := by
      rw [entity_of_mem_warnings hmem, keys_models hc]
      exact List.mem_map_of_mem (List.mem_filter.mpr ⟨he, hcompiles⟩)
    have hnodup := (models_failures_perm hc).nodup_iff.mpr g.names_nodup
    exact ⟨hkey, fun hfailed => (List.nodup_append.mp hnodup).2.2 _ hkey _ hfailed rfl⟩
  · intro e he as has d hd hentity name hname hsite
    obtain ⟨e', he', _, hmem⟩ := (mem_diagnostics_iff hc).mp hd
    obtain rfl := eq_of_name_eq he' he ((entity_of_mem_warnings hmem).symm.trans hentity)
    exact additional_of_mem_warnings has hmem hsite hname
  · intro m hmem
    obtain ⟨e, he, hentity, hcompiles, hm⟩ := exists_of_mem_values hc hmem
    rw [hentity]
    exact forall₂_properties_warn hc he hcompiles hm
  · intro m hmem vm hvm
    obtain ⟨e, he, hentity, hcompiles, hm⟩ := exists_of_mem_values hc hmem
    rw [hentity]
    exact ⟨e, he, rfl, additional_warns hc he hcompiles hm hvm⟩
  · intro m hmem site t
    obtain ⟨e, he, hentity, hcompiles, hm⟩ := exists_of_mem_values hc hmem
    rw [hentity]
    exact mem_diagnostics_iff_hasUnresolved hc he hcompiles hm site t

/-- Albums whose references point out of the graph at several depths, a photo that declares the
cover again, and a scan that fails. -/
def albums : Graph where
  entities := [
    { name := "photo", parent := some "album"
      properties := [⟨"cover", .reference "ghost", none⟩,
        ⟨"place", .reference "#/definitions/place", none⟩] },
    { name := "album"
      properties := [⟨"cover", .reference "schemas/image.json", none⟩,
        ⟨"owner", .reference "schemas/user.json", none⟩,
        ⟨"tags", .container .array (.container .map (.reference "#tag")), none⟩]
      additional := some (.container .array (.reference "label")) },
    { name := "scan"
      properties := [⟨"source", .reference "scanner", none⟩,
        ⟨"pages", .container .array (.scalar .integer), none⟩] },
    { name := "user" }]
  sound := by decide +kernel

theorem warnings_exact_albums : ∃ c, albums.compile {} = .ok c ∧ albums.WarningsExact c ∧
    c.diagnostics = [⟨"photo", some "place", "#/definitions/place"⟩,
      ⟨"album", some "cover", "schemas/image.json"⟩, ⟨"album", some "tags", "#tag"⟩,
      ⟨"album", some "additionalProperties", "label"⟩] := by
  have hview : (albums.compile {}).toOption.map (·.diagnostics) =
      some [⟨"photo", some "place", "#/definitions/place"⟩,
        ⟨"album", some "cover", "schemas/image.json"⟩, ⟨"album", some "tags", "#tag"⟩,
        ⟨"album", some "additionalProperties", "label"⟩] := by
    decide +kernel
  obtain ⟨c, hsome, hdiagnostics⟩ := Option.map_eq_some_iff.mp hview
  have hc := toOption_eq_some_iff.mp hsome
  exact ⟨c, hc, warnings_exact hc, hdiagnostics⟩

end Graph

end EntityModels
