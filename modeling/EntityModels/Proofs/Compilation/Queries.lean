import EntityModels.Proofs.Compilation.Faults
import EntityModels.Proofs.Graph.Memo

/-!
The computations that look references up while others do: the walk up a parent chain, the types and
rules of references, the synthesis of an entity, and a compilation, in which all entities are
synthesized side by side. With plain lookups each has the answer of its namesake, and so it has with
a memo that any number of them share.
-/
namespace EntityModels

namespace Query

variable {g : Graph} {naming : Naming}

set_option linter.unusedVariables false in
/-- Walks up from `cursor`, as `Graph.climb` does. -/
def climb (g : Graph) (start : Entity) (above : List Entity) (cursor : Entity) :
    ExceptT HierarchyFault (Query g) (List Entity) :=
  match cursor.parent with
  | none => pure above
  | some reference => .ask reference fun
    | none => .done (.error (.unknownParent cursor.name reference))
    | some parent =>
      if again : parent.val.name = start.name ∨ parent.val.name ∈ above.map (·.name) then
        .done (.error (.cyclicChain start.name
          (start.name :: above.reverse.map (·.name) ++ [parent.val.name])))
      else climb g start (parent.val :: above) parent.val
termination_by (g.unmet above).length
decreasing_by
  exact Graph.length_unmet_cons_lt (List.mem_map_of_mem parent.property) fun h => again (.inr h)

theorem result_climb_of_parent {start cursor : Entity} {above : List Entity} {reference : String}
    (h : cursor.parent = some reference) :
    result (climb g start above cursor) =
      match g.found? reference with
      | none => .error (.unknownParent cursor.name reference)
      | some parent =>
        if parent.val.name = start.name ∨ parent.val.name ∈ above.map (·.name) then
          .error (.cyclicChain start.name
            (start.name :: above.reverse.map (·.name) ++ [parent.val.name]))
        else result (climb g start (parent.val :: above) parent.val) := by
  rw [climb, h]
  change (match g.found? reference with | none => _ | some parent => _ : Query g _).eval = _
  cases g.found? reference with
  | none => rfl
  | some parent =>
    dsimp only
    split_ifs <;> rfl

theorem result_climb (start : Entity) (above : List Entity) (cursor : Entity) :
    result (climb g start above cursor) = g.climb start above cursor := by
  fun_induction g.climb start above cursor with
  | case1 above cursor hparent =>
    rw [climb, hparent]
    rfl
  | case2 above cursor reference hparent hnone =>
    rw [result_climb_of_parent hparent, Graph.found?_eq_none_iff.mpr hnone]
  | case3 above cursor reference hparent parent hsome hagain =>
    obtain ⟨found, hfound, rfl⟩ := Graph.exists_found_of_target? hsome
    rw [result_climb_of_parent hparent, hfound]
    exact if_pos hagain
  | case4 above cursor reference hparent parent hsome hagain ih =>
    obtain ⟨found, hfound, rfl⟩ := Graph.exists_found_of_target? hsome
    rw [result_climb_of_parent hparent, hfound]
    exact (if_neg hagain).trans ih

def ancestors (g : Graph) (entity : Entity) : ExceptT HierarchyFault (Query g) (List Entity) :=
  climb g entity [] entity

@[simp] theorem result_ancestors (entity : Entity) :
    result (ancestors g entity) = g.ancestors entity :=
  result_climb entity [] entity

def checkHierarchy (g : Graph) : ExceptT HierarchyFault (Query g) Unit :=
  g.entities.forM fun entity => do discard (ancestors g entity)

@[simp] theorem result_checkHierarchy : result (checkHierarchy g) = g.checkHierarchy := by
  rw [checkHierarchy, result_forM, Graph.checkHierarchy]
  refine congrArg (List.forM g.entities) (funext fun entity => ?_)
  change result (Function.const _ PUnit.unit <$> ancestors g entity) = _
  rw [result_map, result_ancestors]
  rfl

def typeOfReference (g : Graph) (naming : Naming) (reference : String) : Query g TargetType := do
  match ← resolve g reference with
  | .ok entity => return .model entity.name (naming.className entity.name)
  | .error _ => return .unresolved reference

def typeOf (g : Graph) (naming : Naming) : Variant → Query g TargetType
  | .scalar kind => return .primitive (.ofScalar kind)
  | .text format => return .ofFormat format
  | .untyped kind => return .untyped kind
  | .container kind element => return .container kind (← typeOf g naming element)
  | .reference target => typeOfReference g naming target

def coercionOfReference (g : Graph) (naming : Naming) (reference : String) :
    Query g CoercionRule := do
  match ← resolve g reference with
  | .ok entity => return .construct entity.name (naming.className entity.name)
  | .error _ => return .construct reference ""

def coercionOf (g : Graph) (naming : Naming) : Variant → ExceptT ElementFault (Query g) CoercionRule
  | .scalar kind => return .direct (some (.ofScalar kind))
  | .text format => return .ofFormat format
  | .untyped _ => return .direct none
  | .container kind element => do
    if ← ofExcept (Variant.container kind element).needsTransform then
      return .elementwise kind (← coercionOf g naming element)
    else return .direct none
  | .reference target => liftM (coercionOfReference g naming target)

@[simp] theorem eval_typeOf (v : Variant) : (typeOf g naming v).eval = .ofVariant g naming v := by
  induction v with
  | scalar | text | untyped => rfl
  | container kind element ih =>
    rw [typeOf, eval_bind, ih]
    rfl
  | reference target =>
    rw [typeOf, typeOfReference, eval_bind, eval_resolve, Graph.resolve, TargetType.ofVariant,
      TargetType.ofReference]
    cases g.target? target <;> rfl

@[simp] theorem result_coercionOf (v : Variant) :
    result (coercionOf g naming v) = CoercionRule.ofVariant g naming v := by
  induction v with
  | scalar | text | untyped => rfl
  | container kind element ih =>
    rw [coercionOf, result_bind, result_ofExcept, CoercionRule.ofVariant]
    refine congrArg (Variant.needsTransform _ >>= ·) (funext fun needs => ?_)
    cases needs with
    | false => rfl
    | true =>
      rw [if_pos rfl, if_pos rfl, result_bind, ih]
      rfl
  | reference target =>
    rw [coercionOf, result_lift, coercionOfReference, eval_bind, eval_resolve, Graph.resolve,
      CoercionRule.ofVariant, CoercionRule.ofReference]
    cases g.target? target <;> rfl

def propertyModel (g : Graph) (naming : Naming) (entity : Entity) (p : Property) (bit : Nat) :
    ExceptT EntityFault (Query g) PropertyModel := do
  let type ← typeOf g naming p.variant
  let coercion ← (coercionOf g naming p.variant).adapt (.containerElement entity.name p.name)
  return Synthesis.propertyModelOf ⟨g, naming⟩ entity p bit type coercion

def valueModel (g : Graph) (naming : Naming) (entity : Entity) (value : Variant) :
    ExceptT EntityFault (Query g) ValueModel := do
  let shape := Variant.container .map value
  let coercion ← (coercionOf g naming shape).adapt
    (.containerElement entity.name Synthesis.additionalName)
  let type ← typeOf g naming shape
  return Synthesis.valueModelOf type coercion

def additionalModel (g : Graph) (naming : Naming) (entity : Entity) :
    ExceptT EntityFault (Query g) (Option ValueModel) :=
  match entity.additional with
  | none => return none
  | some value => some <$> valueModel g naming entity value

def propertyModels (g : Graph) (naming : Naming) (l : Lineage) :
    ExceptT EntityFault (Query g) (List PropertyModel) :=
  (l.ownProperties.zip (assignDirtyBits l.ownProperties).values).mapM fun (p, bit) =>
    propertyModel g naming l.entity p bit

def model (g : Graph) (naming : Naming) (l : Lineage) : ExceptT EntityFault (Query g) Model := do
  if let some fault := l.entity.declaredNames.findSome? l.collision? then throw fault
  let properties ← propertyModels g naming l
  let additional ← additionalModel g naming l.entity
  return Synthesis.modelOf ⟨g, naming⟩ l properties additional

@[simp] theorem result_propertyModel (entity : Entity) (p : Property) (bit : Nat) :
    result (propertyModel g naming entity p bit) =
      Synthesis.propertyModel ⟨g, naming⟩ entity p bit := by
  rw [propertyModel, result_bind, result_lift, eval_typeOf, Synthesis.propertyModel,
    Synthesis.coercionOf]
  change result (_ >>= _) = _
  rw [result_bind, result_adapt, result_coercionOf]
  cases CoercionRule.ofVariant g naming p.variant <;> rfl

@[simp] theorem result_propertyModels (l : Lineage) :
    result (propertyModels g naming l) = Synthesis.propertyModels ⟨g, naming⟩ l := by
  rw [propertyModels, result_mapM, Synthesis.propertyModels]
  simp only [result_propertyModel]

@[simp] theorem result_valueModel (entity : Entity) (value : Variant) :
    result (valueModel g naming entity value) =
      Synthesis.valueModel ⟨g, naming⟩ entity value := by
  rw [valueModel, result_bind, result_adapt, result_coercionOf, Synthesis.valueModel,
    Synthesis.coercionOf]
  dsimp only
  cases CoercionRule.ofVariant g naming (.container .map value) with
  | error fault => rfl
  | ok coercion =>
    change result (_ >>= _) = _
    rw [result_bind, result_lift, eval_typeOf]
    rfl

@[simp] theorem result_additionalModel (entity : Entity) :
    result (additionalModel g naming entity) = Synthesis.additionalModel ⟨g, naming⟩ entity := by
  rw [additionalModel, Synthesis.additionalModel]
  cases entity.additional with
  | none => rfl
  | some value =>
    dsimp only
    rw [result_map, result_valueModel]

@[simp] theorem result_model (l : Lineage) :
    result (model g naming l) = Synthesis.model ⟨g, naming⟩ l := by
  rw [model, Synthesis.model]
  cases l.entity.declaredNames.findSome? l.collision? with
  | some fault => rfl
  | none =>
    dsimp only
    simp only [result_bind, result_propertyModels, result_additionalModel, result_pure]
    rfl

def synthesize (g : Graph) (naming : Naming) (entity : Entity) :
    ExceptT CompileFault (Query g) Model := do
  let above ← (ancestors g entity).adapt .hierarchy
  (model g naming ⟨above, entity⟩).adapt .entity

@[simp] theorem result_synthesize (entity : Entity) :
    result (synthesize g naming entity) = g.synthesize naming entity := by
  rw [synthesize, result_bind, result_adapt, result_ancestors, Graph.synthesize]
  cases g.ancestors entity with
  | error fault => rfl
  | ok above =>
    change result ((model g naming ⟨above, entity⟩).adapt CompileFault.entity) = _
    rw [result_adapt, result_model]
    dsimp only
    cases Synthesis.model ⟨g, naming⟩ ⟨above, entity⟩ <;> rfl

/-- The synthesis of one entity. Its ancestors are not kept. -/
def attempt (g : Graph) (naming : Naming) (entity : Entity) :
    ExceptT HierarchyFault (Query g) Outcome := do
  match ← (synthesize g naming entity).run with
  | .ok model => return ⟨⟨[], entity⟩, .ok model⟩
  | .error (.entity fault) => return ⟨⟨[], entity⟩, .error fault⟩
  -- a hierarchy that has been checked has no such fault
  | .error (.hierarchy fault) => throw fault

/-- Looks up the ancestors of an entity with a model, if any entity has failed. -/
def lookAbove (g : Graph) (failed : List String) (o : Outcome) :
    ExceptT HierarchyFault (Query g) Outcome :=
  if failed = [] ∨ o.fault?.isSome then return o
  else return { o with lineage := ⟨← ancestors g o.lineage.entity, o.lineage.entity⟩ }

/-- Compiles the graph. All entities are synthesized side by side. -/
def compile (g : Graph) (naming : Naming) : ExceptT HierarchyFault (Query g) Compilation := do
  checkHierarchy g
  let attempts ← all (g.entities.map fun entity => (attempt g naming entity).run)
  let outcomes ← ofExcept (attempts.mapM id)
  let failed := (outcomes.filterMap Outcome.fault?).map (·.entity)
  return .ofOutcomes naming (← outcomes.mapM (lookAbove g failed))

/-- An outcome without the ancestors. -/
def bare (o : Outcome) : Outcome := ⟨⟨[], o.lineage.entity⟩, o.result⟩

/-- An outcome with its ancestors only where something depends on them. -/
def lookedAbove (failed : List String) (o : Outcome) : Outcome :=
  if failed = [] ∨ o.fault?.isSome then bare o else o

variable {entity : Entity} {failed : List String}

theorem fault?_bare (o : Outcome) : (bare o).fault? = o.fault? := rfl

/-- Where the ancestors are found, an attempt gives the outcome without them. -/
theorem result_attempt (h : g.ChainsSound) (he : entity ∈ g.entities) :
    result (attempt g naming entity) = .ok (bare (g.outcome naming entity)) := by
  obtain ⟨above, habove⟩ := h entity he
  rw [attempt, result_bind, result_lift, Graph.outcome, Graph.lineage_of_ancestors habove]
  change result (match result (synthesize g naming entity) with
    | .ok model => _
    | .error (.entity fault) => _
    | .error (.hierarchy fault) => _) = _
  rw [result_synthesize, Graph.synthesize, habove]
  dsimp only
  rw [bare]
  cases Synthesis.model ⟨g, naming⟩ ⟨above, entity⟩ <;> rfl

/-- The second look at the ancestors completes an outcome where something depends on them. -/
theorem result_lookAbove (h : g.ChainsSound) (he : entity ∈ g.entities) :
    result (lookAbove g failed (bare (g.outcome naming entity))) =
      .ok (lookedAbove failed (g.outcome naming entity)) := by
  obtain ⟨above, habove⟩ := h entity he
  rw [lookAbove, lookedAbove, fault?_bare]
  split_ifs
  · rfl
  · rw [result_bind, bare, Graph.outcome, Graph.lineage_of_ancestors habove, result_ancestors,
      habove]
    rfl

theorem fault?_lookedAbove (o : Outcome) : (lookedAbove failed o).fault? = o.fault? := by
  rw [lookedAbove]
  split_ifs <;> rfl

/-- Where the ancestors are not kept, no inherited fault depends on them. -/
theorem inheritedFault?_lookedAbove (o : Outcome) :
    (lookedAbove failed o).inheritedFault? failed = o.inheritedFault? failed := by
  rw [lookedAbove]
  split_ifs with h
  · rw [Outcome.inheritedFault?, Outcome.inheritedFault?, bare]
    cases hresult : o.result with
    | error fault => rfl
    | ok model =>
      obtain rfl : failed = [] := by simpa [Outcome.fault?, hresult] using h
      simp
  · rfl

theorem model?_lookedAbove (o : Outcome) :
    (lookedAbove failed o).model? failed = o.model? failed := by
  rw [lookedAbove]
  split_ifs with h
  · rw [Outcome.model?, Outcome.model?, bare]
    cases hresult : o.result with
    | error fault => rfl
    | ok model =>
      obtain rfl : failed = [] := by simpa [Outcome.fault?, hresult] using h
      simp [Outcome.name]
  · rfl

theorem filterMap_map_of_eq {α β : Type} {f : α → α} {k : α → Option β} (h : ∀ a, k (f a) = k a)
    (xs : List α) : (xs.map f).filterMap k = xs.filterMap k := by
  rw [List.filterMap_map]
  exact congrArg (List.filterMap · xs) (funext h)

/-- Leaving out the ancestors on which nothing depends changes no compilation. -/
theorem ofOutcomes_lookedAbove (outcomes : List Outcome) :
    let failed := (outcomes.filterMap Outcome.fault?).map (·.entity)
    Compilation.ofOutcomes naming (outcomes.map (lookedAbove failed)) =
      .ofOutcomes naming outcomes := by
  intro failed
  unfold Compilation.ofOutcomes
  dsimp only
  rw [filterMap_map_of_eq fault?_lookedAbove, filterMap_map_of_eq model?_lookedAbove,
    filterMap_map_of_eq inheritedFault?_lookedAbove]

theorem mapM_attempt (h : g.ChainsSound) :
    (g.entities.map fun entity => result (attempt g naming entity)).mapM id =
      .ok ((g.entities.map (g.outcome naming)).map bare) := by
  rw [mapM_eq_ok_iff, List.map_id, List.map_map, List.map_map]
  exact List.map_congr_left fun entity he => result_attempt h he

theorem mapM_lookAbove (h : g.ChainsSound) (failed : List String) :
    (((g.entities.map (g.outcome naming)).map bare).mapM fun o => result (lookAbove g failed o)) =
      .ok ((g.entities.map (g.outcome naming)).map (lookedAbove failed)) := by
  rw [mapM_eq_ok_iff, List.map_map, List.map_map, List.map_map, List.map_map]
  exact List.map_congr_left fun entity he => result_lookAbove h he

/-- A compilation side by side has the answer of its namesake: when every parent chain is sound,
neither a synthesis nor a second look at the ancestors stops it. -/
theorem result_compile : result (compile g naming) = g.compile naming := by
  cases hcheck : g.checkHierarchy with
  | error fault =>
    rw [compile, result_bind, result_checkHierarchy, hcheck, Graph.compile_eq_error_iff.mpr hcheck]
    rfl
  | ok =>
    have hsound := Graph.chainsSound_of_checkHierarchy hcheck
    rw [Graph.compile_eq_ok_iff.mpr ⟨hsound, rfl⟩, compile]
    simp only [result_bind, result_checkHierarchy, hcheck, result_lift, eval_all, result_ofExcept,
      List.map_map, Function.comp_def, result_mapM, result_pure]
    refine bind_eq_ok_iff.mpr ⟨_, rfl, bind_eq_ok_iff.mpr ⟨_, rfl, ?_⟩⟩
    refine bind_eq_ok_iff.mpr ⟨_, mapM_attempt hsound, bind_eq_ok_iff.mpr
      ⟨_, mapM_lookAbove hsound _, ?_⟩⟩
    have hfaults : ((g.entities.map (g.outcome naming)).map bare).filterMap Outcome.fault? =
        (g.entities.map (g.outcome naming)).filterMap Outcome.fault? :=
      filterMap_map_of_eq fault?_bare _
    rw [hfaults, ofOutcomes_lookedAbove]

end Query

/-- No answer shows the memo: neither that of a lookup, whatever runs before it, beside it or
between its two steps, nor that of a computation. -/
structure Graph.MemoTransparent (g : Graph) : Prop where
  /-- A memo holds places, and at the place of a reference stands its target. -/
  places : ∀ reference,
    (g.at? (g.place? (Reference.key reference))).map (·.val) = g.target? reference
  /-- The memo may be empty at the start, or hold what other tasks have entered. -/
  tasks : ∀ {ι : Type} [DecidableEq ι] {α : ι → Type} {tasks : ∀ i, Query g (α i)} {memo : Memo}
    {calls : List (Option (Call g))} {p : Pool g α}, Memo.Reachable g memo →
    Pool.Run ⟨memo, tasks⟩ calls p → p.Transparent tasks calls
  /-- With the steps that are always possible, every lookup and every task comes to its end. -/
  steps : ∀ {ι : Type} [DecidableEq ι] [Fintype ι] {α : ι → Type} {tasks : ∀ i, Query g (α i)}
    {memo : Memo} {calls : List (Option (Call g))} {p : Pool g α}, Memo.Reachable g memo →
    Pool.Run ⟨memo, tasks⟩ calls p → calls.length ≤ ∑ i, (tasks i).cost
  /-- Computations that ask for what they look up have, with plain lookups, the answers of their
  namesakes. -/
  resolve : ∀ reference, (Query.resolve g reference).eval = g.resolve reference
  ancestors : ∀ entity, Query.result (Query.ancestors g entity) = g.ancestors entity
  checkHierarchy : Query.result (Query.checkHierarchy g) = g.checkHierarchy
  synthesize : ∀ naming entity,
    Query.result (Query.synthesize g naming entity) = g.synthesize naming entity
  compile : ∀ naming, Query.result (Query.compile g naming) = g.compile naming

/-- A memo is transparent to lookups, tasks and whole computations in every graph. -/
theorem Graph.memo_transparent (g : Graph) : g.MemoTransparent where
  places := g.found?_map_val
  tasks hmemo hrun := hrun.transparent hmemo.sound
  steps hmemo hrun := (Nat.le_add_right _ _).trans (hrun.cost_le hmemo.sound)
  resolve _ := Query.eval_resolve _
  ancestors := Query.result_ancestors
  checkHierarchy := Query.result_checkHierarchy
  synthesize _ := Query.result_synthesize
  compile _ := Query.result_compile

end EntityModels
