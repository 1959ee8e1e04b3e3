import EntityModels.Proofs.Instance.Equality
import EntityModels.Proofs.Instance.Session

/-!
The algebra of merging. For each property a merge prefers the incoming value to the current one, and
its laws are those of preferring one optional value to another.
-/
namespace EntityModels

namespace Chain

variable {ch : Chain} {a b d i : Instance}

/-- The instance of the chain without values. -/
def fresh (ch : Chain) : Instance := (Builder.ofChain ch).build.built

namespace Tracks

theorem fresh (hn : ch.Numbering) : ch.Tracks ch.fresh.values ch.fresh.dirty := ofChain hn

theorem merged_same (ha : ch.Tracks a.values a.dirty) (hb : ch.Tracks b.values b.dirty)
    (hi : ch.Tracks i.values i.dirty) (hn : ch.Numbering) (hentity : i.entity = ch.entity)
    (h : ∀ property, (b.get? property).or (a.get? property) = i.get? property) :
    (ch.merged a b).same i = true := by
  refine same_of_values (merged hn ha) hi hn ?_ ?_
  · rw [merged_entity, hentity]
  · intro property
    rw [hb.merged_get?, h]

/-- Of three instances the last that has a property wins, however they are bracketed. -/
theorem merged_assoc (ha : ch.Tracks a.values a.dirty) (hb : ch.Tracks b.values b.dirty)
    (hd : ch.Tracks d.values d.dirty) (hn : ch.Numbering) :
    (ch.merged (ch.merged a b) d).same (ch.merged a (ch.merged b d)) = true := by
  have hbd : ch.Tracks (ch.merged b d).values (ch.merged b d).dirty := merged hn hb
  refine merged_same (merged hn ha) hd (merged hn ha) hn (merged_entity ch a _) ?_
  intro property
  calc
    (d.get? property).or ((ch.merged a b).get? property)
        = (d.get? property).or ((b.get? property).or (a.get? property)) := by
      rw [hb.merged_get?]
    _ = ((d.get? property).or (b.get? property)).or (a.get? property) := Option.or_assoc.symm
    _ = ((ch.merged b d).get? property).or (a.get? property) := by rw [hd.merged_get?]
    _ = (ch.merged a (ch.merged b d)).get? property := (hbd.merged_get? a property).symm

/-- Nothing of a fresh instance is taken over. -/
theorem merged_fresh (ha : ch.Tracks a.values a.dirty) (hn : ch.Numbering)
    (hentity : a.entity = ch.entity) : (ch.merged a ch.fresh).same a = true := by
  refine merged_same ha (fresh hn) ha hn hentity ?_
  intro property
  exact Option.none_or

/-- A fresh instance takes everything over. -/
theorem fresh_merged (ha : ch.Tracks a.values a.dirty) (hn : ch.Numbering)
    (hentity : a.entity = ch.entity) : (ch.merged ch.fresh a).same a = true := by
  refine merged_same (fresh hn) ha ha hn hentity ?_
  intro property
  exact Option.or_none

/-- An instance has nothing to take from itself. -/
theorem merged_self (ha : ch.Tracks a.values a.dirty) (hn : ch.Numbering)
    (hentity : a.entity = ch.entity) : (ch.merged a a).same a = true := by
  refine merged_same ha ha ha hn hentity ?_
  intro property
  exact Option.or_self

/-- Without a bit that is dirty on both sides no property has a value on both. -/
theorem notMem_keys_of_disjoint (ha : ch.Tracks a.values a.dirty)
    (hb : ch.Tracks b.values b.dirty) (hn : ch.Numbering)
    (hdisjoint : ∀ owner bit, ¬ ((dirtyUnder a.dirty owner).contains bit = true ∧
      (dirtyUnder b.dirty owner).contains bit = true))
    {property : String} (h : property ∈ a.values.keys) : property ∉ b.values.keys := by
  intro hb'
  obtain ⟨m, hm, bit, hslot, hdirty⟩ := (ha.keys property).mp h
  have hdirty' := (hb.mem_keys_iff hn hm hslot).mp hb'
  exact hdisjoint m.entity bit ⟨hdirty, hdirty'⟩

/-- Without a common dirty bit at most one of two instances has a property, so neither is
preferred. -/
theorem merged_comm (ha : ch.Tracks a.values a.dirty) (hb : ch.Tracks b.values b.dirty)
    (hn : ch.Numbering)
    (hdisjoint : ∀ owner bit, ¬ ((dirtyUnder a.dirty owner).contains bit = true ∧
      (dirtyUnder b.dirty owner).contains bit = true)) :
    (ch.merged a b).same (ch.merged b a) = true := by
  refine merged_same ha hb (merged hn hb) hn (merged_entity ch b a) ?_
  intro property
  rw [ha.merged_get?]
  by_cases h : property ∈ a.values.keys
  · have hnone : b.get? property = none :=
      Record.get?_eq_none_iff.mpr (notMem_keys_of_disjoint ha hb hn hdisjoint h)
    rw [hnone, Option.none_or, Option.or_none]
  · have hnone : a.get? property = none := Record.get?_eq_none_iff.mpr h
    rw [hnone, Option.none_or, Option.or_none]

/-- Building from an instance and changing nothing gives it back. -/
theorem seeded_same (ha : ch.Tracks a.values a.dirty) (hn : ch.Numbering)
    (hentity : a.entity = ch.entity) : (Builder.seeded ch a).build.built.same a = true := by
  refine same_of_values (a := (Builder.seeded ch a).build.built) (seeded hn ha) ha hn
    hentity.symm ?_
  intro property
  rfl

end Tracks

end Chain

/-- The laws of merging the instances of an entity. `fresh` is the one without values, and `m` says
what a merge makes of two of them. -/
structure MergeLaws (c : Compilation) (entity : String) (fresh : Instance)
    (m : Instance → Instance → Instance) : Prop where
  assoc : ∀ a b d, a.Reachable c entity → b.Reachable c entity → d.Reachable c entity →
    (m (m a b) d).same (m a (m b d)) = true
  fresh_right : ∀ a, a.Reachable c entity → (m a fresh).same a = true
  fresh_left : ∀ a, a.Reachable c entity → (m fresh a).same a = true
  self : ∀ a, a.Reachable c entity → (m a a).same a = true
  comm : ∀ a b, a.Reachable c entity → b.Reachable c entity →
    (∀ owner bit, ¬ ((dirtyUnder a.dirty owner).contains bit = true ∧
      (dirtyUnder b.dirty owner).contains bit = true)) → (m a b).same (m b a) = true
  seeded : ∀ a, a.Reachable c entity →
    ∃ b, Builder.ofInstance c a = .ok b ∧ b.build.built.same a = true

namespace Graph

/-- Merging is associative, has the fresh instance as its identity on both sides, changes nothing
when both instances are one, and commutes where no bit is dirty on both. -/
theorem merge_laws {g : Graph} {naming : Naming} {c : Compilation} {entity : String}
    (hc : g.compile naming = .ok c) (h : entity ∈ c.models.keys) :
    ∃ fresh m, (Builder.new c entity).map (fun b => b.build.built) = .ok fresh ∧
      (∀ a b, a.entity = entity → b.entity = entity → (m a b).entity = entity ∧
        ∀ kind, kind ≠ .default → (c.merge a b kind).map (·.built) = .ok (m a b)) ∧
      MergeLaws c entity fresh m := by
  obtain ⟨ch, _, _, hch, _⟩ := chain_of_mem_keys hc h
  have hn := numbering_of_chain hc hch
  have hentity := chain_entity hc hch
  refine ⟨ch.fresh, ch.merged, ?_, ?_, ?_⟩
  · rw [Builder.new_eq_ok_iff.mpr ⟨ch, hch, rfl⟩]
    rfl
  · intro a b ha hb
    refine ⟨by rw [Chain.merged_entity, hentity], ?_⟩
    intro kind hkind
    rw [Chain.merge_eq_ok (ha ▸ hch) (ha.trans hb.symm) hkind]
    rfl
  · refine ⟨?_, ?_, ?_, ?_, ?_, ?_⟩
    · intro a b d ha hb hd
      exact (ha.tracks hc hch).merged_assoc (hb.tracks hc hch) (hd.tracks hc hch) hn
    · intro a ha
      exact (ha.tracks hc hch).merged_fresh hn (ha.1.trans hentity.symm)
    · intro a ha
      exact (ha.tracks hc hch).fresh_merged hn (ha.1.trans hentity.symm)
    · intro a ha
      exact (ha.tracks hc hch).merged_self hn (ha.1.trans hentity.symm)
    · intro a b ha hb hdisjoint
      exact (ha.tracks hc hch).merged_comm (hb.tracks hc hch) hn hdisjoint
    · intro a ha
      refine ⟨Builder.seeded ch a, ?_, (ha.tracks hc hch).seeded_same hn (ha.1.trans hentity.symm)⟩
      exact Builder.ofInstance_eq_ok_iff.mpr ⟨ch, by rw [ha.1, hch], rfl⟩

theorem merge_laws_boards : ∃ (c : Compilation) (a b : Instance)
      (m : Instance → Instance → Instance), boards.compile {} = .ok c ∧
    "vault" ∈ c.models.keys ∧ a.Reachable c "vault" ∧ b.Reachable c "vault" ∧
    (c.merge a b .fromMerge).map (·.built) = .ok (m a b) ∧
    (m a b).values.keys = ["name", "owner", "pin"] ∧
    (m (m a b) a).same (m a (m b a)) = true := by
  obtain ⟨c, hc, hkeys, _⟩ := compile_boards
  have hmem : "vault" ∈ c.models.keys := by simp [hkeys]
  obtain ⟨a, b, out, ha, hb, hout, hproperties⟩ := exists_vaults hc
  obtain ⟨_, m, _, hmerge, hlaws⟩ := merge_laws hc hmem
  have hm := (hmerge a b ha.1 hb.1).2 .fromMerge (by decide)
  have hbuilt : out.built = m a b := by
    rw [hout] at hm
    exact Except.ok.inj hm
  exact ⟨c, a, b, m, hc, hmem, ha, hb, hm, hbuilt ▸ hproperties, hlaws.assoc a b a ha hb ha⟩

end Graph

end EntityModels
