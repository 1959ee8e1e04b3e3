import EntityModels.Proofs.Instance.Slots
import EntityModels.Proofs.Instance.Tracking

/-!
Builders and instances in use. A session is what a run of operations under one compilation has made,
in whatever order they come; an operation that fails leaves the session as it is.
-/
namespace EntityModels

/-- The builders and instances made so far, in the order in which they were made. -/
structure Session where
  builders : List Builder
  instances : List Instance

/-- What can be done with the builders and instances of a session, meant by their place in it. -/
inductive Operation where
  | new (entity : String)
  | seed (source : Nat)
  | set (builder : Nat) (property : String) (value : Json)
  | build (builder : Nat)
  | merge (current incoming : Nat) (kind : InitKind)

/-- An instance of an entity with a model whose values and dirty bits go together along the
chain. -/
def Instance.Sound (c : Compilation) (i : Instance) : Prop :=
  ∃ ch, c.chain i.entity = .ok ch ∧ ch.Tracks i.values i.dirty

/-- A builder for the chain of its entity whose values and dirty bits go together. -/
structure Builder.Sound (c : Compilation) (b : Builder) : Prop where
  chain : c.chain b.entity = .ok b.chain
  tracks : b.chain.Tracks b.values b.dirty

section

variable {g : Graph} {naming : Naming} {c : Compilation}

namespace Builder

/-- A fresh builder is sound. -/
theorem sound_of_new (hc : g.compile naming = .ok c) {entity : String} {b : Builder}
    (h : new c entity = .ok b) : b.Sound c := by
  obtain ⟨ch, hch, rfl⟩ := new_eq_ok_iff.mp h
  have hentity : ch.entity = entity := Graph.chain_entity hc hch
  refine ⟨?_, Chain.Tracks.ofChain (Graph.numbering_of_chain hc hch)⟩
  change c.chain ch.entity = .ok ch
  rw [hentity, hch]

theorem sound_of_ofInstance (hc : g.compile naming = .ok c) {i : Instance} (hi : i.Sound c)
    {b : Builder} (h : ofInstance c i = .ok b) : b.Sound c := by
  obtain ⟨ch, hch, rfl⟩ := ofInstance_eq_ok_iff.mp h
  obtain ⟨ch', hch', htracks⟩ := hi
  obtain rfl : ch' = ch := Except.ok.inj (hch'.symm.trans hch)
  have hentity : ch'.entity = i.entity := Graph.chain_entity hc hch
  refine ⟨?_, Chain.Tracks.seeded (Graph.numbering_of_chain hc hch) htracks⟩
  change c.chain ch'.entity = .ok ch'
  rw [hentity, hch]

/-- Setting a property is one slotted edit. -/
theorem exists_edit_of_set {b b' : Builder} {property : String} {value : Json}
    (h : b.set property value = .ok b') : ∃ e, b.chain.Slotted e ∧ b' = b.edit [e] := by
  rw [set] at h
  cases hslot : b.slot? property with
  | none => simp [hslot] at h
  | some slot =>
    obtain ⟨owner, bit⟩ := slot
    rw [hslot] at h
    exact ⟨⟨owner, bit, property, value⟩, slotted_of_slot? hslot value, (Except.ok.inj h).symm⟩

/-- Setting a property keeps a builder sound. -/
theorem Sound.set (hc : g.compile naming = .ok c) {b b' : Builder} (hb : b.Sound c)
    {property : String} {value : Json} (h : b.set property value = .ok b') : b'.Sound c := by
  obtain ⟨e, he, rfl⟩ := exists_edit_of_set h
  have hn := Graph.numbering_of_chain hc hb.chain
  have htracks := Chain.Tracks.edit hn hb.tracks (List.forall_mem_singleton.mpr he)
  exact ⟨hb.chain, htracks⟩

theorem Sound.build {b : Builder} (hb : b.Sound c) : b.build.built.Sound c :=
  ⟨b.chain, hb.chain, hb.tracks⟩

end Builder

/-- A merge keeps the current instance sound, whatever comes in. -/
theorem Instance.Sound.merge (hc : g.compile naming = .ok c) {current incoming : Instance}
    {kind : InitKind} {out : Constructed} (hi : current.Sound c)
    (h : c.merge current incoming kind = .ok out) : out.built.Sound c := by
  obtain ⟨ch, hch, htracks⟩ := hi
  obtain rfl := Chain.eq_of_merge hch h
  refine ⟨ch, ?_, Chain.Tracks.merged (Graph.numbering_of_chain hc hch) htracks⟩
  rw [Chain.merged_entity, Graph.chain_entity hc hch, hch]

end

namespace Session

/-- The session before the first operation. -/
def start : Session := ⟨[], []⟩

def addBuilder (s : Session) (b : Builder) : Session := { s with builders := s.builders ++ [b] }

def addInstance (s : Session) (i : Instance) : Session := { s with instances := s.instances ++ [i] }

/-- The session after an operation. None if the operation fails or means nothing that is there. -/
def attempt? (c : Compilation) (s : Session) : Operation → Option Session
  | .new entity => do
    let b ← (Builder.new c entity).toOption
    return s.addBuilder b
  | .seed source => do
    let i ← s.instances[source]?
    let b ← (Builder.ofInstance c i).toOption
    return s.addBuilder b
  | .set builder property value => do
    let b ← s.builders[builder]?
    let b' ← (b.set property value).toOption
    return { s with builders := s.builders.set builder b' }
  -- the builder stays: a copy of it may go on being set
  | .build builder => do
    let b ← s.builders[builder]?
    return s.addInstance b.build.built
  | .merge current incoming kind => do
    let i ← s.instances[current]?
    let j ← s.instances[incoming]?
    let out ← (c.merge i j kind).toOption
    return s.addInstance out.built

/-- An operation that fails changes nothing. -/
def step (c : Compilation) (s : Session) (op : Operation) : Session := (s.attempt? c op).getD s

/-- The session after some operations. -/
def run (c : Compilation) (ops : List Operation) : Session := ops.foldl (step c) start

/-- Everything in the session is sound. -/
structure Sound (c : Compilation) (s : Session) : Prop where
  builders : ∀ b ∈ s.builders, b.Sound c
  instances : ∀ i ∈ s.instances, i.Sound c

namespace Sound

variable {g : Graph} {naming : Naming} {c : Compilation} {s : Session}

theorem addBuilder (h : s.Sound c) {b : Builder} (hb : b.Sound c) : (s.addBuilder b).Sound c := by
  refine ⟨?_, h.instances⟩
  intro b' hb'
  rcases List.mem_append.mp hb' with hb' | hb'
  · exact h.builders b' hb'
  · obtain rfl := List.mem_singleton.mp hb'
    exact hb

theorem addInstance (h : s.Sound c) {i : Instance} (hi : i.Sound c) :
    (s.addInstance i).Sound c := by
  refine ⟨h.builders, ?_⟩
  intro i' hi'
  rcases List.mem_append.mp hi' with hi' | hi'
  · exact h.instances i' hi'
  · obtain rfl := List.mem_singleton.mp hi'
    exact hi

/-- An operation that succeeds keeps the session sound: what it is given comes from the session. -/
theorem attempt (hc : g.compile naming = .ok c) (h : s.Sound c) {op : Operation} {s' : Session}
    (hs : s.attempt? c op = some s') : s'.Sound c := by
  cases op with
  | new entity =>
    obtain ⟨b, hb, hs⟩ := Option.bind_eq_some_iff.mp hs
    obtain rfl := Option.some.inj hs
    exact h.addBuilder (Builder.sound_of_new hc (toOption_eq_some_iff.mp hb))
  | seed source =>
    obtain ⟨i, hi, hs⟩ := Option.bind_eq_some_iff.mp hs
    obtain ⟨b, hb, hs⟩ := Option.bind_eq_some_iff.mp hs
    obtain rfl := Option.some.inj hs
    have hsound := h.instances i (List.mem_of_getElem? hi)
    exact h.addBuilder (Builder.sound_of_ofInstance hc hsound (toOption_eq_some_iff.mp hb))
  | set builder property value =>
    obtain ⟨b, hb, hs⟩ := Option.bind_eq_some_iff.mp hs
    obtain ⟨b', hset, hs⟩ := Option.bind_eq_some_iff.mp hs
    obtain rfl := Option.some.inj hs
    have hsound := h.builders b (List.mem_of_getElem? hb)
    refine ⟨?_, h.instances⟩
    intro x hx
    rcases List.mem_or_eq_of_mem_set hx with hx | rfl
    · exact h.builders x hx
    · exact hsound.set hc (toOption_eq_some_iff.mp hset)
  | build builder =>
    obtain ⟨b, hb, hs⟩ := Option.bind_eq_some_iff.mp hs
    obtain rfl := Option.some.inj hs
    exact h.addInstance (h.builders b (List.mem_of_getElem? hb)).build
  | merge current incoming kind =>
    obtain ⟨i, hi, hs⟩ := Option.bind_eq_some_iff.mp hs
    obtain ⟨j, hj, hs⟩ := Option.bind_eq_some_iff.mp hs
    obtain ⟨out, hout, hs⟩ := Option.bind_eq_some_iff.mp hs
    obtain rfl := Option.some.inj hs
    have hsound := h.instances i (List.mem_of_getElem? hi)
    exact h.addInstance (hsound.merge hc (toOption_eq_some_iff.mp hout))

/-- No operation makes a session unsound, whether it succeeds or fails. -/
theorem step (hc : g.compile naming = .ok c) (h : s.Sound c) (op : Operation) :
    (s.step c op).Sound c := by
  rw [Session.step]
  cases hs : s.attempt? c op with
  | none => exact h
  | some s' => exact h.attempt hc hs

theorem foldl (hc : g.compile naming = .ok c) (h : s.Sound c) (ops : List Operation) :
    (ops.foldl (Session.step c) s).Sound c := by
  induction ops generalizing s with
  | nil => exact h
  | cons op ops ih => exact ih (h.step hc op)

/-- A session is sound after every run. -/
theorem run (hc : g.compile naming = .ok c) (ops : List Operation) : (Session.run c ops).Sound c :=
  foldl hc ⟨fun _ hb => absurd hb List.not_mem_nil, fun _ hi => absurd hi List.not_mem_nil⟩ ops

end Sound

end Session

/-- An instance of an entity that some run of operations makes. -/
def Instance.Reachable (c : Compilation) (entity : String) (i : Instance) : Prop :=
  i.entity = entity ∧ ∃ ops, i ∈ (Session.run c ops).instances

theorem Instance.Reachable.tracks {g : Graph} {naming : Naming} {c : Compilation} {entity : String}
    {ch : Chain} {i : Instance} (h : i.Reachable c entity) (hc : g.compile naming = .ok c)
    (hch : c.chain entity = .ok ch) : ch.Tracks i.values i.dirty := by
  obtain ⟨rfl, ops, hi⟩ := h
  obtain ⟨ch', hch', htracks⟩ := (Session.Sound.run hc ops).instances i hi
  obtain rfl : ch' = ch := Except.ok.inj (hch'.symm.trans hch)
  exact htracks

namespace Graph

/-- What holds of every instance of a session, and of every merge of two of them: the values that it
takes over are there, so that it leaves null only where one of the two has null. -/
theorem session_sound {g : Graph} {naming : Naming} {c : Compilation}
    (hc : g.compile naming = .ok c) (ops : List Operation) :
    (∀ i ∈ (Session.run c ops).instances, i.entity ∈ c.models.keys ∧
      ∃ ch, c.chain i.entity = .ok ch ∧ ch.Tracks i.values i.dirty ∧
        (∀ m ∈ ch.levels, ∀ property bit, m.modelClass.dirtyBits.get? property = some bit →
          (property ∈ i.values.keys ↔ (dirtyUnder i.dirty m.entity).contains bit = true)) ∧
        ∀ m ∈ ch.levels, ∀ entry ∈ i.dirtyProperties m,
          i.get? entry.1 = some (i.mergedValue entry.1)) ∧
    ∀ current ∈ (Session.run c ops).instances, ∀ incoming ∈ (Session.run c ops).instances,
      ∀ kind out, c.merge current incoming kind = .ok out → ∀ property,
        out.built.get? property = (incoming.get? property).or (current.get? property) ∧
        (out.built.get? property = some .null → incoming.get? property = some .null ∨
          incoming.get? property = none ∧ current.get? property = some .null) := by
  have hsound := Session.Sound.run hc ops
  constructor
  · intro i hi
    obtain ⟨ch, hch, htracks⟩ := hsound.instances i hi
    have hn := numbering_of_chain hc hch
    refine ⟨mem_keys_of_chain hch, ch, hch, htracks, ?_, ?_⟩
    · intro m hm property bit hslot
      exact htracks.mem_keys_iff hn hm hslot
    · intro m hm entry hentry
      exact htracks.get?_of_dirty hm hentry
  · intro current _ incoming hincoming kind out hout property
    obtain ⟨hsame, _, ch, hch, rfl⟩ := Chain.exists_of_merge hout
    obtain ⟨ch', hch', htracks⟩ := hsound.instances incoming hincoming
    rw [← hsame, hch] at hch'
    obtain rfl := Except.ok.inj hch'
    have hget := htracks.merged_get? current property
    refine ⟨hget, ?_⟩
    intro hnull
    rw [hget] at hnull
    exact Option.or_eq_some_iff.mp hnull

/-- Two vaults are built, the first after a property that it does not have has been refused. They
are merged, and the merged one is built on. -/
def vaultOperations : List Operation := [
  .new "vault", .set 0 "name" (.string "mine"), .set 0 "safe" .null, .build 0,
  .new "vault", .set 1 "pin" .null, .set 1 "owner" (.string "me"), .build 1,
  .merge 0 1 .fromMerge, .seed 2, .set 2 "name" (.string "ours"), .build 2]

/-- Two instances of one entity, each with a value that the other has not, and what they merge
to. -/
theorem exists_vaults {c : Compilation} (hc : boards.compile {} = .ok c) :
    ∃ a b out, a.Reachable c "vault" ∧ b.Reachable c "vault" ∧
      c.merge a b .fromMerge = .ok out ∧ out.built.values.keys = ["name", "owner", "pin"] := by
  have hview : ((boards.compile {}).toOption.bind fun c =>
      (Session.run c vaultOperations).instances[0]?.bind fun a =>
      (Session.run c vaultOperations).instances[1]?.bind fun b =>
      (c.merge a b .fromMerge).toOption.map fun out =>
        (a.entity, b.entity, out.built.values.keys)) =
      some ("vault", "vault", ["name", "owner", "pin"]) := by decide +kernel
  obtain ⟨c', hsome, hview⟩ := Option.bind_eq_some_iff.mp hview
  obtain rfl : c' = c := Except.ok.inj ((toOption_eq_some_iff.mp hsome).symm.trans hc)
  obtain ⟨a, ha, hview⟩ := Option.bind_eq_some_iff.mp hview
  obtain ⟨b, hb, hview⟩ := Option.bind_eq_some_iff.mp hview
  obtain ⟨out, hout, hview⟩ := Option.map_eq_some_iff.mp hview
  obtain ⟨hentity, hrest⟩ := Prod.mk.inj hview
  obtain ⟨hentity', hproperties⟩ := Prod.mk.inj hrest
  exact ⟨a, b, out, ⟨hentity, _, List.mem_of_getElem? ha⟩, ⟨hentity', _, List.mem_of_getElem? hb⟩,
    toOption_eq_some_iff.mp hout, hproperties⟩

theorem session_sound_boards : ∃ c current incoming out, boards.compile {} = .ok c ∧
    current ∈ (Session.run c vaultOperations).instances ∧
    incoming ∈ (Session.run c vaultOperations).instances ∧
    c.merge current incoming .fromSubmerge = .ok out ∧
    out.built.values.keys = ["name", "owner", "pin"] ∧
    current.entity ∈ c.models.keys ∧
    out.built.get? "pin" = (incoming.get? "pin").or (current.get? "pin") := by
  have hview : ((boards.compile {}).toOption.bind fun c =>
      (Session.run c vaultOperations).instances[0]?.bind fun current =>
      (Session.run c vaultOperations).instances[3]?.bind fun incoming =>
      (c.merge current incoming .fromSubmerge).toOption.map (·.built.values.keys)) =
      some ["name", "owner", "pin"] := by decide +kernel
  obtain ⟨c, hsome, hview⟩ := Option.bind_eq_some_iff.mp hview
  obtain ⟨current, hcurrent, hview⟩ := Option.bind_eq_some_iff.mp hview
  obtain ⟨incoming, hincoming, hview⟩ := Option.bind_eq_some_iff.mp hview
  obtain ⟨out, hout, hkeys⟩ := Option.map_eq_some_iff.mp hview
  have hc := toOption_eq_some_iff.mp hsome
  have hmerge := toOption_eq_some_iff.mp hout
  have hcurrent := List.mem_of_getElem? hcurrent
  have hincoming := List.mem_of_getElem? hincoming
  obtain ⟨hinstances, hmerges⟩ := session_sound hc vaultOperations
  have hpin := (hmerges current hcurrent incoming hincoming .fromSubmerge out hmerge "pin").1
  exact ⟨c, current, incoming, out, hc, hcurrent, hincoming, hmerge, hkeys,
    (hinstances current hcurrent).1, hpin⟩

end Graph

end EntityModels
