import EntityModels.Proofs.Compilation.Hooks
import EntityModels.Proofs.Model.References

/-!
Closure of a clean compilation under the references between its classes. Classes, builders and hooks
are named where they are referred to, apart from the models that have them. When no entity fails,
there is such a model for every name, and only one.
-/
namespace EntityModels

/-- An entity has a model, and its class has the name. -/
def Compilation.HasClass (c : Compilation) (entity className : String) : Prop :=
  ∃ m, c.model? entity = some m ∧ m.modelClass.className = className

namespace Graph

variable {g : Graph} {naming : Naming} {c : Compilation} {m : Model}
  {entity other className : String}

/-- In a clean compilation every entity of the graph has its model. -/
theorem exists_model_of_isClean (hc : g.compile naming = .ok c) (hclean : c.isClean = true)
    {e : Entity} (he : e ∈ g.entities) :
    ∃ m, c.model? e.name = some m ∧ g.synthesize naming e = .ok m := by
  have hfailures : c.failures = [] := List.isEmpty_iff.mp hclean
  have hnames := models_failures_perm hc
  rw [hfailures, List.map_nil, List.append_nil] at hnames
  have hkey : e.name ∈ c.models.keys := hnames.mem_iff.mpr (List.mem_map_of_mem he)
  obtain ⟨m, hm⟩ := Record.mem_keys_iff.mp hkey
  exact ⟨m, hm, ((models_get?_name_iff hc he).mp hm).1⟩

theorem exists_of_hasClass (hc : g.compile naming = .ok c) (h : c.HasClass entity className) :
    ∃ e ∈ g.entities, e.name = entity ∧ className = naming.className e.name := by
  obtain ⟨m, hget, rfl⟩ := h
  obtain ⟨e, he, hname, _, hm⟩ := (models_get?_eq_some_iff hc).mp hget
  exact ⟨e, he, hname, (classNames_of_synthesize hm).1⟩

theorem hasClass_of_mem (hc : g.compile naming = .ok c) (hclean : c.isClean = true)
    {e : Entity} (he : e ∈ g.entities) : c.HasClass e.name (naming.className e.name) := by
  obtain ⟨m, hget, hm⟩ := exists_model_of_isClean hc hclean he
  exact ⟨m, hget, (classNames_of_synthesize hm).1⟩

theorem hasClass_unique {other : String} (h : c.HasClass entity className)
    (h' : c.HasClass entity other) : className = other := by
  obtain ⟨m, hget, rfl⟩ := h
  obtain ⟨m', hget', rfl⟩ := h'
  rw [Option.some.inj (hget.symm.trans hget')]

/-- No two entities have one class. -/
theorem eq_of_hasClass (hc : g.compile naming = .ok c) (h : c.HasClass entity className)
    (h' : c.HasClass other className) : other = entity := by
  obtain ⟨e, he, rfl, rfl⟩ := exists_of_hasClass hc h
  obtain ⟨e', he', rfl, hclass⟩ := exists_of_hasClass hc h'
  rw [eq_of_className_eq he' he hclass.symm]

/-- Wherever a model of a clean compilation names a class, the compilation has it. -/
theorem hasClass_of_namesClass (hc : g.compile naming = .ok c) (hclean : c.isClean = true)
    (hmem : m ∈ c.models.values) (h : m.NamesClass entity className) :
    c.HasClass entity className := by
  obtain ⟨e, he, _, _, hm⟩ := exists_of_mem_values hc hmem
  obtain ⟨e', he', rfl, rfl⟩ := exists_of_namesClass he hm h
  exact hasClass_of_mem hc hclean he'

/-- The parent to which a model is linked has a model, with the class and the builder that the link
names. -/
theorem exists_parent_model (hc : g.compile naming = .ok c) (hclean : c.isClean = true)
    (hmem : m ∈ c.models.values) {link : ParentLink} (hlink : m.modelClass.parent = some link) :
    ∃ p, c.model? link.entity = some p ∧ p.modelClass.className = link.className ∧
      p.modelClass.builderClassName = link.builderClassName := by
  obtain ⟨e, he, _, _, hm⟩ := exists_of_mem_values hc hmem
  obtain ⟨p, hp, rfl⟩ := exists_of_parent hm hlink
  obtain ⟨pm, hget, hpm⟩ := exists_model_of_isClean hc hclean hp
  exact ⟨pm, hget, classNames_of_synthesize hpm⟩

/-- The root of its chain declares the hook of a model, and no other model does. -/
theorem exists_root_hook (hc : g.compile naming = .ok c) (hmem : m ∈ c.models.values) :
    ∃ ch root below, c.chain m.entity = .ok ch ∧ ch.levels = root :: below ∧
      c.model? root.entity = some root ∧
      root.modelClass.hook = { m.modelClass.hook with declaredHere := true } ∧
      (∀ m' ∈ below, m'.modelClass.hook.declaredHere = false) ∧
      ∀ m' ∈ c.models.values, m'.modelClass.hook.declaredHere = true →
        m'.modelClass.hook.protocolName = m.modelClass.hook.protocolName ∨
          m'.modelClass.hook.selector = m.modelClass.hook.selector → m' = root := by
  obtain ⟨e, he, hname, hcompiles, hm⟩ := exists_of_mem_values hc hmem
  obtain ⟨as, has⟩ := exists_ancestors_of_synthesize hm
  obtain ⟨ch, hch, hlevels⟩ := chain_of_compiles hc he has hcompiles
  obtain ⟨root, below, r, hsplit, hr, hancestors, hroot, hhooks, hbelow⟩ :=
    hooks_of_levels has hlevels
  have hget := model?_of_mem_levels hc he has hcompiles hlevels (hsplit ▸ List.mem_cons_self)
  have hhook := hhooks m (mem_levels_of_modelsOf hlevels hm)
  refine ⟨ch, root, below, hname ▸ hch, hsplit, hget, hhook, hbelow, ?_⟩
  intro m' hmem' hdeclared hnames
  obtain ⟨e', he', _, _, hm'⟩ := exists_of_mem_values hc hmem'
  obtain ⟨as', has'⟩ := exists_ancestors_of_synthesize hm'
  refine eq_of_declaredHere he' has' hm' (lineage_mem he has hr) hancestors hroot hdeclared ?_
  rwa [hhook]

/-- A forward reference is the class of one entity, and not of the one that has it. -/
theorem exists_of_mem_forwardReferences (hc : g.compile naming = .ok c) (hclean : c.isClean = true)
    (hmem : m ∈ c.models.values) (h : className ∈ m.modelClass.forwardReferences) :
    ∃ entity, entity ≠ m.entity ∧ c.HasClass entity className ∧
      ∀ other, c.HasClass other className → other = entity := by
  obtain ⟨e, he, _, _, hm⟩ := exists_of_mem_values hc hmem
  obtain ⟨hne, pm, hpm, entity, hoccurs⟩ :=
    (Synthesis.mem_forwardReferences_iff (model_of_synthesize hm)).mp h
  have hclass := hasClass_of_namesClass hc hclean hmem (.type (.property hpm) hoccurs)
  have hown := hasClass_of_namesClass hc hclean hmem .own
  refine ⟨entity, ?_, hclass, fun other => eq_of_hasClass hc hclass⟩
  rintro rfl
  exact hne (hasClass_unique hclass hown)

/-- Every class, builder and hook that a model names is one that a model of the compilation has. -/
structure ReferencesClosed (c : Compilation) : Prop where
  /-- Own classes, parents, types and rules name classes of models, however deep. -/
  classes : ∀ m ∈ c.models.values, ∀ entity className, m.NamesClass entity className →
    c.HasClass entity className
  /-- A parent link leads to a model with the class and the builder of the link. -/
  parents : ∀ m ∈ c.models.values, ∀ link, m.modelClass.parent = some link →
    ∃ p, c.model? link.entity = some p ∧ p.modelClass.className = link.className ∧
      p.modelClass.builderClassName = link.builderClassName
  /-- The root of a chain, and nothing else in the compilation, declares the protocol and the
  selector of the models on it. -/
  hooks : ∀ m ∈ c.models.values, ∃ ch root below, c.chain m.entity = .ok ch ∧
    ch.levels = root :: below ∧ c.model? root.entity = some root ∧
    root.modelClass.hook = { m.modelClass.hook with declaredHere := true } ∧
    (∀ m' ∈ below, m'.modelClass.hook.declaredHere = false) ∧
    ∀ m' ∈ c.models.values, m'.modelClass.hook.declaredHere = true →
      m'.modelClass.hook.protocolName = m.modelClass.hook.protocolName ∨
        m'.modelClass.hook.selector = m.modelClass.hook.selector → m' = root
  /-- A forward reference is the class of one entity, and not the class itself. -/
  forward : ∀ m ∈ c.models.values, ∀ className ∈ m.modelClass.forwardReferences,
    ∃ entity, entity ≠ m.entity ∧ c.HasClass entity className ∧
      ∀ other, c.HasClass other className → other = entity

/-- Whatever a clean compilation refers to is in it. -/
theorem references_closed (hc : g.compile naming = .ok c) (hclean : c.isClean = true) :
    ReferencesClosed c := by
  refine ⟨?_, ?_, ?_, ?_⟩
  · intro m hmem entity className h
    exact hasClass_of_namesClass hc hclean hmem h
  · intro m hmem link hlink
    exact exists_parent_model hc hclean hmem hlink
  · intro m hmem
    exact exists_root_hook hc hmem
  · intro m hmem className h
    exact exists_of_mem_forwardReferences hc hclean hmem h

/-- Shops that refer to one another and to what they sell, in every spelling and in containers. -/
def shops : Graph where
  entities := [
    { name := "branch_shop", parent := some "schemas/shop.json"
      properties := [⟨"rivals", .container .array (.reference "#branch_shop"), none⟩,
        ⟨"owner", .reference "schemas/user.json", none⟩] },
    { name := "shop"
      properties := [
        ⟨"stock", .container .map (.container .array (.reference "item")), none⟩,
        ⟨"branches", .container .array (.reference "branch_shop.json"), none⟩]
      additional := some (.reference "#item") },
    { name := "item", properties := [⟨"seller", .reference "schemas/#shop.json", none⟩] },
    { name := "user" }]
  sound := by decide +kernel

theorem references_closed_shops : ∃ c, shops.compile {} = .ok c ∧ c.isClean = true ∧
    c.models.values.map (·.modelClass.forwardReferences) =
      [["User"], ["BranchShop", "Item"], ["Shop"], []] ∧ ReferencesClosed c := by
  have hview : (shops.compile {}).toOption.map (fun c =>
      (c.isClean, c.models.values.map (·.modelClass.forwardReferences))) =
      some (true, [["User"], ["BranchShop", "Item"], ["Shop"], []]) := by
    decide +kernel
  obtain ⟨c, hc, hparts⟩ := exists_ok_of_view hview
  obtain ⟨hclean, hforward⟩ := Prod.mk.inj hparts
  exact ⟨c, hc, hclean, hforward, references_closed hc hclean⟩

end Graph

end EntityModels
