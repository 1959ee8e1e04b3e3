import EntityModels.Proofs.Compilation.Numbering
import EntityModels.Proofs.Instance.Edits

/-!
The slots of properties. A name that a lineage declares has one slot along the chain, with the first
class from the root down that declares it, however often it is declared again. Setting a property
changes its value and its slot and nothing else.
-/
namespace EntityModels

/-- The slot of a name: one class of the chain numbers it, that of the first entity on the line that
declares it. -/
structure Chain.Owns (ch : Chain) (line : List Entity) (name : String) (m : Model) (bit : Nat) :
    Prop where
  only : ch.levels.filter (fun m => name ∈ m.modelClass.dirtyBits.keys) = [m]
  bit : m.modelClass.dirtyBits.get? name = some bit
  first : ∃ above x below, line = above ++ x :: below ∧ m.entity = x.name ∧
    name ∈ x.declaredNames ∧ ∀ a ∈ above, name ∉ a.declaredNames

theorem mem_of_filter_eq_singleton {α : Type} {p : α → Bool} {xs : List α} {x : α}
    (h : xs.filter p = [x]) : x ∈ xs ∧ p x = true := by
  refine List.mem_filter.mp ?_
  rw [h]
  exact List.mem_singleton.mpr rfl

theorem Chain.Owns.mem_levels {ch : Chain} {line : List Entity} {name : String} {m : Model}
    {bit : Nat} (h : ch.Owns line name m bit) : m ∈ ch.levels :=
  (mem_of_filter_eq_singleton h.only).1

namespace Graph

variable {g : Graph} {naming : Naming} {c : Compilation}

/-- A class numbers the names that its entity declares and no ancestor does. -/
theorem mem_keys_dirtyBits_iff {e : Entity} {as : List Entity} {m : Model} (he : e ∈ g.entities)
    (has : g.ancestors e = .ok as) (hm : g.synthesize naming e = .ok m) (name : String) :
    name ∈ m.modelClass.dirtyBits.keys ↔
      name ∈ e.declaredNames ∧ ∀ a ∈ as, name ∉ a.declaredNames := by
  rw [keys_dirtyBits he has hm, Lineage.mem_ownNames_iff, lineage_of_ancestors has]

/-- The classes that number a name are that of its first declarer. -/
theorem numbering_levels_eq {e : Entity} {as : List Entity} {ms : List Model}
    (he : e ∈ g.entities) (has : g.ancestors e = .ok as)
    (h : g.ModelsOf naming (as ++ [e]) ms) (name : String) :
    (ms.filter fun m => name ∈ m.modelClass.dirtyBits.keys).map (·.entity) =
      ((as ++ [e]).find? fun x => name ∈ x.declaredNames).toList.map (·.name) := by
  -- down the lineage: the last class numbers the name only if no entity above it declares it
  induction as using List.reverseRecOn generalizing e ms with
  | nil =>
    obtain ⟨above, m, rfl, habove, hm⟩ := modelsOf_concat_iff.mp h
    obtain rfl := modelsOf_nil_iff.mp habove
    have hkeys := mem_keys_dirtyBits_iff he has hm name
    have hname := model_entity_of_synthesize has hm
    by_cases hdeclared : name ∈ e.declaredNames <;> simp [hkeys, hdeclared, hname]
  | append_singleton as p ih =>
    obtain ⟨above, m, rfl, habove, hm⟩ := modelsOf_concat_iff.mp h
    have hrest := ih (ancestors_mem has (by simp)) (ancestors_concat has).2 habove
    have hkeys := mem_keys_dirtyBits_iff he has hm name
    have hname := model_entity_of_synthesize has hm
    have hsearch : ((as ++ [p] ++ [e]).find? fun x => name ∈ x.declaredNames) =
        ((as ++ [p]).find? fun x => name ∈ x.declaredNames).or
          ([e].find? fun x => name ∈ x.declaredNames) := List.find?_append
    rw [List.filter_append, List.map_append, hrest, hsearch]
    cases hfound : (as ++ [p]).find? fun x => name ∈ x.declaredNames with
    | some x =>
      have hx : name ∈ x.declaredNames := by simpa using List.find?_some hfound
      have hnew : name ∉ m.modelClass.dirtyBits.keys := fun hmem =>
        (hkeys.mp hmem).2 x (List.mem_of_find?_eq_some hfound) hx
      simp [hnew]
    | none =>
      have hfresh : ∀ a ∈ as ++ [p], name ∉ a.declaredNames := by
        intro a ha
        simpa using List.find?_eq_none.mp hfound a ha
      have hown : name ∈ m.modelClass.dirtyBits.keys ↔ name ∈ e.declaredNames := by
        rw [hkeys]
        exact and_iff_left hfresh
      by_cases hdeclared : name ∈ e.declaredNames <;> simp [hown, hdeclared, hname]

/-- A declared name is numbered by one class of the chain. -/
theorem exists_owns {e : Entity} {as : List Entity} {ch : Chain} {name : String}
    (he : e ∈ g.entities) (has : g.ancestors e = .ok as)
    (h : g.ModelsOf naming (as ++ [e]) ch.levels)
    (hdeclared : ∃ a ∈ as ++ [e], name ∈ a.declaredNames) :
    ∃ m bit, ch.Owns (as ++ [e]) name m bit := by
  have hlevels := numbering_levels_eq he has h name
  obtain ⟨a, ha, hname⟩ := hdeclared
  cases hfound : (as ++ [e]).find? fun x => name ∈ x.declaredNames with
  | none =>
    have hnone := List.find?_eq_none.mp hfound a ha
    exact absurd hname (by simpa using hnone)
  | some x =>
    rw [hfound, Option.toList_some, List.map_singleton] at hlevels
    obtain ⟨m, honly, hentity⟩ := List.map_eq_singleton_iff.mp hlevels
    have hkey : name ∈ m.modelClass.dirtyBits.keys := by
      simpa using (mem_of_filter_eq_singleton honly).2
    obtain ⟨bit, hbit⟩ := Record.mem_keys_iff.mp hkey
    obtain ⟨hx, above, below, hsplit, habove⟩ := List.find?_eq_some_iff_append.mp hfound
    exact ⟨m, bit, honly, hbit, above, x, below, hsplit, hentity, by simpa using hx,
      by simpa using habove⟩

theorem notMem_keys_of_undeclared {e : Entity} {as : List Entity} {ch : Chain} {name : String}
    (he : e ∈ g.entities) (has : g.ancestors e = .ok as)
    (h : g.ModelsOf naming (as ++ [e]) ch.levels)
    (hfresh : ∀ a ∈ as ++ [e], name ∉ a.declaredNames) {m : Model} (hm : m ∈ ch.levels) :
    name ∉ m.modelClass.dirtyBits.keys := by
  have hlevels := numbering_levels_eq he has h name
  have hnone : ((as ++ [e]).find? fun x => name ∈ x.declaredNames) = none :=
    List.find?_eq_none.mpr (by simpa using hfresh)
  rw [hnone, Option.toList_none, List.map_nil, List.map_eq_nil_iff] at hlevels
  simpa using List.filter_eq_nil_iff.mp hlevels m hm

end Graph

namespace Builder

variable {b : Builder} {property : String} {value : Json}

/-- The slot of a property is that of the class that owns it. -/
theorem slot?_of_owns {line : List Entity} {m : Model} {bit : Nat}
    (h : b.chain.Owns line property m bit) : b.slot? property = some (m.entity, bit) := by
  obtain ⟨above, below, hsplit, habove, _, _⟩ := List.filter_eq_cons_iff.mp h.only
  refine List.findSome?_eq_some_iff.mpr ⟨above, m, below, hsplit, ?_, ?_⟩
  · rw [slotAt?, h.bit]
    rfl
  · -- a class above the owner does not number the property
    intro m' hm'
    have hfresh : property ∉ m'.modelClass.dirtyBits.keys := by simpa using habove m' hm'
    rw [slotAt?, Record.get?_eq_none_iff.mpr hfresh]
    rfl

theorem slot?_of_notMem_keys
    (h : ∀ m ∈ b.chain.levels, property ∉ m.modelClass.dirtyBits.keys) :
    b.slot? property = none := by
  refine List.findSome?_eq_none_iff.mpr fun m hm => ?_
  rw [slotAt?, Record.get?_eq_none_iff.mpr (h m hm)]
  rfl

theorem slotted_of_slot? {owner : String} {bit : Nat}
    (h : b.slot? property = some (owner, bit)) (value : Json) :
    b.chain.Slotted ⟨owner, bit, property, value⟩ := by
  obtain ⟨m, hm, hat⟩ := List.exists_of_findSome?_eq_some h
  obtain ⟨bit', hbit, hpair⟩ := Option.map_eq_some_iff.mp hat
  obtain ⟨rfl, rfl⟩ := Prod.mk.inj hpair
  exact ⟨m, hm, rfl, hbit⟩

/-- The builder after an attempt to set a property. -/
def trySet (b : Builder) (property : String) (value : Json) : Builder :=
  (b.set property value).toOption.getD b

/-- What setting a property with a slot changes. -/
structure SetsTo (b b' : Builder) (owner : String) (bit : Nat) (property : String) (value : Json) :
    Prop where
  chain : b'.chain = b.chain
  value : b'.values.get? property = some value
  otherValues : ∀ p, p ≠ property → b'.values.get? p = b.values.get? p
  valueKeys : b'.values.keys =
    if property ∈ b.values.keys then b.values.keys else b.values.keys ++ [property]
  dirty : ∀ o x, (dirtyUnder b'.dirty o).contains x = true ↔
    (dirtyUnder b.dirty o).contains x = true ∨ owner = o ∧ bit = x
  otherOwners : ∀ o, o ≠ owner → b'.dirty.get? o = b.dirty.get? o
  ownerKeys : b'.dirty.keys =
    if owner ∈ b.dirty.keys then b.dirty.keys else b.dirty.keys ++ [owner]

/-- Marking a slot sets its property and touches nothing else. -/
theorem setsTo_mark (b : Builder) (owner : String) (bit : Nat) (property : String) (value : Json) :
    b.SetsTo (b.mark owner bit property value) owner bit property value := by
  refine ⟨rfl, ?_, ?_, Record.keys_insert _ _ _, ?_, ?_, Record.keys_insert _ _ _⟩
  · rw [mark, Record.get?_insert, if_pos rfl]
  · intro p hp
    rw [mark, Record.get?_insert, if_neg hp]
  · intro o x
    exact dirtyUnder_mark b owner property bit value o x
  · intro o ho
    rw [mark, Record.get?_insert, if_neg ho]

end Builder

namespace Graph

variable {g : Graph} {naming : Naming} {c : Compilation}

/-- Every name that an entity or one of its ancestors declares has one slot, no two names share
theirs, and every builder of the entity can set the property. Any other name is refused, by an error
that leaves the builder as it was. -/
theorem declared_name_slot {entity : String} (hc : g.compile naming = .ok c)
    (h : entity ∈ c.models.keys) :
    ∃ ch e as, c.chain entity = .ok ch ∧ g.get? entity = some e ∧ g.ancestors e = .ok as ∧
      (∀ name, (∃ a ∈ as ++ [e], name ∈ a.declaredNames) →
        ∃ m bit, ch.Owns (as ++ [e]) name m bit ∧ ∀ (b : Builder) (value : Json), b.chain = ch →
          ∃ b', b.set name value = .ok b' ∧ b.SetsTo b' m.entity bit name value) ∧
      (∀ name, (∀ a ∈ as ++ [e], name ∉ a.declaredNames) →
        (∀ m ∈ ch.levels, name ∉ m.modelClass.dirtyBits.keys) ∧
          ∀ (b : Builder) (value : Json), b.chain = ch →
            b.set name value = .error (.unknownProperty entity name) ∧
              b.trySet name value = b) ∧
      ∀ name name' m m' bit, ch.Owns (as ++ [e]) name m bit → ch.Owns (as ++ [e]) name' m' bit →
        m.entity = m'.entity → name = name' := by
  obtain ⟨ch, e, as, hch, he, rfl, has, _, hlevels⟩ := chain_of_mem_keys hc h
  refine ⟨ch, e, as, hch, get?_eq_some_iff.mpr ⟨he, rfl⟩, has, ?_, ?_, ?_⟩
  · intro name hdeclared
    obtain ⟨m, bit, howns⟩ := exists_owns he has hlevels hdeclared
    refine ⟨m, bit, howns, ?_⟩
    intro b value hb
    subst hb
    refine ⟨b.mark m.entity bit name value, ?_, Builder.setsTo_mark b m.entity bit name value⟩
    rw [Builder.set, Builder.slot?_of_owns howns]
  · intro name hfresh
    have hkeys : ∀ m ∈ ch.levels, name ∉ m.modelClass.dirtyBits.keys := fun m hm =>
      notMem_keys_of_undeclared he has hlevels hfresh hm
    refine ⟨hkeys, ?_⟩
    intro b value hb
    subst hb
    have hentity : b.entity = e.name := chain_entity hc hch
    have hset : b.set name value = .error (.unknownProperty e.name name) := by
      rw [Builder.set, Builder.slot?_of_notMem_keys hkeys, hentity]
    refine ⟨hset, ?_⟩
    rw [Builder.trySet, hset]
    rfl
  · intro name name' m m' bit howns howns' howner
    have hn := numbering_of_chain hc hch
    obtain rfl := hn.owner_inj howns.mem_levels howns'.mem_levels howner
    exact hn.name_unique howns.mem_levels howns.bit howns'.bit

/-- A vault declares the name of a board again, and the class of the board keeps its slot. -/
theorem declared_name_slot_boards : ∃ c ch line m bit, boards.compile {} = .ok c ∧
    "vault" ∈ c.models.keys ∧ c.chain "vault" = .ok ch ∧
    line.map (·.name) = ["board", "secret_board", "vault"] ∧
    ch.Owns line "name" m bit ∧ m.entity = "board" ∧
    (Builder.ofChain ch).set "safe" .null = .error (.unknownProperty "vault" "safe") := by
  obtain ⟨c, hc, hkeys, _⟩ := compile_boards
  have hmem : "vault" ∈ c.models.keys := by simp [hkeys]
  obtain ⟨ch, e, as, hch, hget, has, hdeclared, hother, _⟩ := declared_name_slot hc hmem
  have hview : ((boards.get? "vault").bind fun e => (boards.ancestors e).toOption.map
      fun as => as ++ [e]) =
      some [boards.entities[2], boards.entities[3], boards.entities[1]] := by decide +kernel
  have hline : as ++ [e] = [boards.entities[2], boards.entities[3], boards.entities[1]] := by
    simpa [hget, has, Except.toOption] using hview
  rw [hline] at hdeclared hother
  obtain ⟨m, bit, howns, _⟩ := hdeclared "name" (by decide)
  refine ⟨c, ch, _, m, bit, hc, hmem, hch, rfl, howns, ?_, ?_⟩
  · -- the board is the first on the line, and it declares the name
    obtain ⟨above, x, below, hsplit, hentity, _, habove⟩ := howns.first
    cases above with
    | nil => exact hentity.trans (congrArg Entity.name (List.cons.inj hsplit).1.symm)
    | cons a above =>
      obtain ⟨rfl, _⟩ := List.cons.inj hsplit
      exact absurd (habove _ List.mem_cons_self) (by decide)
  · exact ((hother "safe" (by decide)).2 (Builder.ofChain ch) .null rfl).1

end Graph

end EntityModels
