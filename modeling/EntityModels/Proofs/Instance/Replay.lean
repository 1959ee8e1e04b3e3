import EntityModels.Proofs.Instance.Equality
import EntityModels.Proofs.Instance.Session

/-!
Merging as replay. An instance that is made by setting properties merges into another one as if the
same properties were set on that one.
-/
namespace EntityModels

namespace Builder

/-- The builder after attempts to set some properties in turn. -/
def trySets (b : Builder) (pairs : List (String × Json)) : Builder :=
  pairs.foldl (fun b pair => b.trySet pair.1 pair.2) b

/-- Trying to set a property with a slot sets it. -/
theorem trySet_of_slot? {b : Builder} {property owner : String} {bit : Nat}
    (h : b.slot? property = some (owner, bit)) (value : Json) :
    b.trySet property value = b.mark owner bit property value := by
  rw [trySet, set, h]
  rfl

theorem trySet_of_slot?_eq_none {b : Builder} {property : String} (h : b.slot? property = none)
    (value : Json) : b.trySet property value = b := by
  rw [trySet, set, h]
  rfl

/-- Attempts to set properties are the edits of those that have a slot, and which of them have one
depends on the chain alone. -/
theorem exists_edits_of_trySets (ch : Chain) (pairs : List (String × Json)) :
    ∃ es, (∀ e ∈ es, ch.Slotted e) ∧
      ∀ b : Builder, b.chain = ch → b.trySets pairs = b.edit es := by
  induction pairs with
  | nil =>
    refine ⟨[], fun e he => absurd he List.not_mem_nil, ?_⟩
    intro b _
    rfl
  | cons pair rest ih =>
    obtain ⟨property, value⟩ := pair
    obtain ⟨es, hslotted, hes⟩ := ih
    have hslots : ∀ b : Builder, b.chain = ch → b.slot? property = (ofChain ch).slot? property := by
      intro b hb
      rw [slot?, hb]
      rfl
    cases hslot : (ofChain ch).slot? property with
    | none =>
      refine ⟨es, hslotted, ?_⟩
      intro b hb
      have hskip := trySet_of_slot?_eq_none ((hslots b hb).trans hslot) value
      rw [trySets, List.foldl_cons, hskip]
      exact hes b hb
    | some slot =>
      obtain ⟨owner, bit⟩ := slot
      refine ⟨⟨owner, bit, property, value⟩ :: es, ?_, ?_⟩
      · exact List.forall_mem_cons.mpr ⟨slotted_of_slot? (b := ofChain ch) hslot value, hslotted⟩
      · intro b hb
        have hmark := trySet_of_slot? ((hslots b hb).trans hslot) value
        rw [trySets, List.foldl_cons, hmark]
        exact hes (b.mark owner bit property value) hb

end Builder

namespace Chain

/-- Both sides give a property the value of its last edit, or else the value it has on `current`. -/
theorem merged_edit_same {ch : Chain} {current : Instance} (hn : ch.Numbering)
    (h : ch.Tracks current.values current.dirty) {es : List Edit} (hes : ∀ e ∈ es, ch.Slotted e) :
    (ch.merged current ((Builder.ofChain ch).edit es).toInstance).same
      ((Builder.seeded ch current).edit es).toInstance = true := by
  have hfresh : ch.Tracks ((Builder.ofChain ch).edit es).toInstance.values
      ((Builder.ofChain ch).edit es).toInstance.dirty :=
    Tracks.edit (b := Builder.ofChain ch) hn (Tracks.ofChain hn) hes
  have hseeded : ch.Tracks ((Builder.seeded ch current).edit es).toInstance.values
      ((Builder.seeded ch current).edit es).toInstance.dirty :=
    Tracks.edit (b := Builder.seeded ch current) hn (Tracks.seeded hn h) hes
  refine Tracks.same_of_values (Tracks.merged hn h) hseeded hn ?_ ?_
  · rw [merged_entity, Builder.toInstance, Builder.entity, Builder.chain_edit]
    rfl
  · intro property
    have hincoming : ((Builder.ofChain ch).edit es).toInstance.get? property =
        Edit.last? property es :=
      (Builder.get?_values_edit _ es property).trans Option.or_none
    calc
      (ch.merged current ((Builder.ofChain ch).edit es).toInstance).get? property
          = (((Builder.ofChain ch).edit es).toInstance.get? property).or
              (current.get? property) :=
        hfresh.merged_get? current property
      _ = (Edit.last? property es).or (current.get? property) := by rw [hincoming]
      _ = ((Builder.seeded ch current).edit es).toInstance.get? property :=
        (Builder.get?_values_edit (Builder.seeded ch current) es property).symm

end Chain

namespace Graph

/-- An instance that is made by setting properties from the start, of which some may be set again
and some may be unknown, merges into another one as if they were set on a builder seeded from that
one. -/
theorem merge_replays_edits {g : Graph} {naming : Naming} {c : Compilation} {entity : String}
    (hc : g.compile naming = .ok c) (h : entity ∈ c.models.keys) {current : Instance}
    (hcurrent : current.Reachable c entity) (pairs : List (String × Json)) {kind : InitKind}
    (hkind : kind ≠ .default) :
    ∃ start seeded out, Builder.new c entity = .ok start ∧
      Builder.ofInstance c current = .ok seeded ∧
      c.merge current (start.trySets pairs).build.built kind = .ok out ∧
      out.built.same (seeded.trySets pairs).build.built = true := by
  obtain ⟨ch, _, _, hch, _⟩ := chain_of_mem_keys hc h
  have hn := numbering_of_chain hc hch
  have hentity := chain_entity hc hch
  obtain ⟨es, hes, htries⟩ := Builder.exists_edits_of_trySets ch pairs
  have hcurrent' : c.chain current.entity = .ok ch := by rw [hcurrent.1, hch]
  -- `es` is what the attempts come to, on the fresh builder and on the seeded one
  have hsame : current.entity = ((Builder.ofChain ch).edit es).toInstance.entity := by
    rw [Builder.toInstance, Builder.entity, Builder.chain_edit, hcurrent.1]
    exact hentity.symm
  have hmerge : c.merge current ((Builder.ofChain ch).trySets pairs).build.built kind =
      .ok ⟨ch.merged current ((Builder.ofChain ch).edit es).toInstance,
        ch.mergeNotifications kind⟩ := by
    rw [htries _ rfl]
    exact Chain.merge_eq_ok hcurrent' hsame hkind
  refine ⟨Builder.ofChain ch, Builder.seeded ch current, _,
    Builder.new_eq_ok_iff.mpr ⟨ch, hch, rfl⟩,
    Builder.ofInstance_eq_ok_iff.mpr ⟨ch, hcurrent', rfl⟩, hmerge, ?_⟩
  rw [htries _ rfl]
  exact Chain.merged_edit_same hn (hcurrent.tracks hc hch) hes

/-- A name that is given twice, something that a vault does not have, and a pin. -/
def vaultPairs : List (String × Json) :=
  [("name", .string "ours"), ("safe", .null), ("pin", .nat 7), ("name", .string "yours")]

theorem merge_replays_edits_boards : ∃ c current start seeded out, boards.compile {} = .ok c ∧
    "vault" ∈ c.models.keys ∧ current.Reachable c "vault" ∧ InitKind.fromMerge ≠ .default ∧
    Builder.new c "vault" = .ok start ∧ Builder.ofInstance c current = .ok seeded ∧
    (start.trySets vaultPairs).values.entries = [("name", .string "yours"), ("pin", .nat 7)] ∧
    c.merge current (start.trySets vaultPairs).build.built .fromMerge = .ok out ∧
    out.built.same (seeded.trySets vaultPairs).build.built = true := by
  have hview : ((boards.compile {}).toOption.bind fun c => (Builder.new c "vault").toOption.map
      fun start => (c.models.keys, (start.trySets vaultPairs).values.entries)) =
      some (["vault", "board", "secret_board"],
        [("name", .string "yours"), ("pin", .nat 7)]) := by decide +kernel
  obtain ⟨c, hsome, hview⟩ := Option.bind_eq_some_iff.mp hview
  obtain ⟨start, hstart, hview⟩ := Option.map_eq_some_iff.mp hview
  obtain ⟨hkeys, hentries⟩ := Prod.mk.inj hview
  have hc := toOption_eq_some_iff.mp hsome
  have hmem : "vault" ∈ c.models.keys := by simp [hkeys]
  have hkind : InitKind.fromMerge ≠ .default := by decide
  obtain ⟨current, _, _, hcurrent, _⟩ := exists_vaults hc
  obtain ⟨start', seeded, out, hstart', hseeded, hmerge, hsame⟩ :=
    merge_replays_edits hc hmem hcurrent vaultPairs hkind
  obtain rfl : start' = start :=
    Except.ok.inj (hstart'.symm.trans (toOption_eq_some_iff.mp hstart))
  exact ⟨c, current, start', seeded, out, hc, hmem, hcurrent, hkind, hstart', hseeded, hentries,
    hmerge, hsame⟩

end Graph

end EntityModels
