import EntityModels.Proofs.Model.Synthesis
import EntityModels.Proofs.Naming.Words

/-!
The flags of the own properties of a class. A graph refuses two properties of one identifier, which
is in camel case, but the name of a flag ends in Pascal case. Flags are apart all the same, except
where one property has the name of another with underscores in front of it.
-/
namespace EntityModels

namespace Naming

/-- Two flags of a class have one name when the Pascal cases of the properties are the same. -/
theorem dirtyOptionName_inj {className n n' : String} :
    dirtyOptionName className n = dirtyOptionName className n' ↔ pascalCase n = pascalCase n' := by
  rw [dirtyOptionName, dirtyOptionName, String.append_right_inj]

/-- No name without an underscore in front has the Pascal case of one with an underscore. -/
def UnderscoresApart (names : List String) : Prop :=
  ∀ n ∈ names, ∀ n' ∈ names, hasLeadingUnderscore n = false → hasLeadingUnderscore n' = true →
    pascalCase n ≠ pascalCase n'

instance (names : List String) : Decidable (UnderscoresApart names) :=
  inferInstanceAs (Decidable (∀ n ∈ names, ∀ n' ∈ names, _ → _ → _))

/-- Identifiers that are apart in camel case have flags that are apart just when no underscore
brings two of them together. -/
theorem flags_nodup_iff {names : List String} (className : String)
    (hidentifier : ∀ n ∈ names, isIdentifier n) (hcamel : (names.map propertyName).Nodup) :
    (names.map (dirtyOptionName className)).Nodup ↔ UnderscoresApart names := by
  constructor
  · intro hflags n hn n' hn' hlead hlead' hpascal
    have heq : n = n' := List.inj_on_of_nodup_map hflags hn hn' (dirtyOptionName_inj.mpr hpascal)
    rw [heq, hlead'] at hlead
    exact absurd hlead (by decide)
  · intro hapart
    refine hcamel.of_map.map_on fun n hn n' hn' hflag => ?_
    -- two names with one flag begin alike, so they have one identifier and are one name
    have hpascal := dirtyOptionName_inj.mp hflag
    have halike : hasLeadingUnderscore n = hasLeadingUnderscore n' := by
      cases hlead : hasLeadingUnderscore n <;> cases hlead' : hasLeadingUnderscore n'
      · rfl
      · exact absurd hpascal (hapart n hn n' hn' hlead hlead')
      · exact absurd hpascal.symm (hapart n' hn' n hn hlead' hlead)
      · rfl
    have hsame :=
      camelCase_eq_of_pascalCase_eq (hidentifier n hn) (hidentifier n' hn') halike hpascal
    exact List.inj_on_of_nodup_map hcamel hn hn' hsame

end Naming

namespace Graph

open Naming

variable {g : Graph} {naming : Naming} {e : Entity} {m : Model}

theorem properties_map_name (he : e ∈ g.entities) (hm : g.synthesize naming e = .ok m) :
    m.properties.map (·.name) = (g.lineage e).ownNames := by
  have haligned := forall₂_properties he hm
  exact (map_eq_map_of_forall₂ (haligned.imp fun p pm h => h.name.symm)).symm

/-- Each flag is generated from the class and the name of its property. -/
theorem properties_map_dirtyOptionName (he : e ∈ g.entities)
    (hm : g.synthesize naming e = .ok m) :
    m.properties.map (·.dirtyOptionName) =
      (m.properties.map (·.name)).map (dirtyOptionName (naming.className e.name)) := by
  have haligned := forall₂_properties he hm
  rw [properties_map_name he hm, Lineage.ownNames, List.map_map]
  exact (map_eq_map_of_forall₂ (haligned.imp fun p pm h => h.dirtyOptionName.symm)).symm

/-- The flags of a class are apart unless an underscore brings the names of two own properties
together. -/
theorem dirtyOptionNames_nodup_iff (he : e ∈ g.entities) (hm : g.synthesize naming e = .ok m) :
    (m.properties.map (·.dirtyOptionName)).Nodup ↔
      UnderscoresApart (m.properties.map (·.name)) := by
  rw [properties_map_dirtyOptionName he hm, properties_map_name he hm]
  have hdeclared : ∀ n ∈ (g.lineage e).ownNames, n ∈ e.declaredNames :=
    fun n hn => (Lineage.mem_ownNames_iff.mp hn).1
  refine flags_nodup_iff _ ?_ ?_
  · intro n hn
    exact (wellNamed he).propertyIdentifiers n (hdeclared n hn)
  · refine (ownNames_nodup_of_mem he).map_on fun n hn n' hn' heq => ?_
    exact List.inj_on_of_nodup_map (propertyNames_nodup he) (hdeclared n hn) (hdeclared n' hn') heq

def drafts : Graph where
  entities := [
    { name := "draft"
      properties := [⟨"title", .text .plain, none⟩, ⟨"_body", .text .plain, none⟩,
        ⟨"body_id", .scalar .integer, none⟩] }]
  sound := by decide +kernel

theorem dirtyOptionNames_nodup_drafts : ∃ e m, drafts.get? "draft" = some e ∧
    drafts.synthesize {} e = .ok m ∧ (m.properties.map (·.dirtyOptionName)).Nodup := by
  have hview : ((drafts.get? "draft").bind fun e => (drafts.synthesize {} e).toOption).map
      (fun m => m.properties.map (·.name)) = some ["title", "_body", "body_id"] := by
    decide +kernel
  obtain ⟨m, hsome, hnames⟩ := Option.map_eq_some_iff.mp hview
  obtain ⟨e, he, hm⟩ := Option.bind_eq_some_iff.mp hsome
  have hsynthesized := toOption_eq_some_iff.mp hm
  refine ⟨e, m, he, hsynthesized, ?_⟩
  rw [dirtyOptionNames_nodup_iff (get?_eq_some_iff.mp he).1 hsynthesized, hnames]
  decide +kernel

/-- Pins with two properties whose names differ in an underscore only. -/
def pins : Graph where
  entities := [
    { name := "pin", properties := [⟨"p", .text .plain, none⟩, ⟨"_p", .text .plain, none⟩] }]
  sound := by decide +kernel

/-- The identifiers of the properties are apart, but not their flags. -/
theorem dirtyOptionNames_pins : ∃ e ∈ pins.entities, ∃ m, pins.synthesize {} e = .ok m ∧
    m.properties.map (·.propertyName) = ["p", "P"] ∧
    m.properties.map (·.dirtyOptionName) = ["PinDirtyPropertyP", "PinDirtyPropertyP"] ∧
    ¬(m.properties.map (·.dirtyOptionName)).Nodup := by
  have hview : ((pins.get? "pin").bind fun e => (pins.synthesize {} e).toOption).map
      (fun m => (m.properties.map (·.propertyName), m.properties.map (·.dirtyOptionName))) =
      some (["p", "P"], ["PinDirtyPropertyP", "PinDirtyPropertyP"]) := by
    decide +kernel
  obtain ⟨m, hsome, hparts⟩ := Option.map_eq_some_iff.mp hview
  obtain ⟨e, he, hm⟩ := Option.bind_eq_some_iff.mp hsome
  obtain ⟨hnames, hflags⟩ := Prod.mk.inj hparts
  refine ⟨e, (get?_eq_some_iff.mp he).1, m, toOption_eq_some_iff.mp hm, hnames, hflags, ?_⟩
  rw [hflags]
  decide

end Graph

end EntityModels
