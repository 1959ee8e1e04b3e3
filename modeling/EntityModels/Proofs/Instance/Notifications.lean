import EntityModels.Proofs.Compilation.Hooks
import EntityModels.Proofs.Instance.Session

/-!
The notifications of builds and merges. Both notify every class of the hierarchy once, the root
first, and all through the selector of the one hook that the root declares. A build is the same for
all of them; a merge is one only for the class of the instances, and for those above it is a part of
that.
-/
namespace EntityModels

namespace Builder

variable {c : Compilation} {ch : Chain} {entity : String}

/-- A merge into the first of some classes, with its ancestors after it, the nearest first: they are
merged before it and on its behalf, and its own notification is the last. -/
def mergeUpward (incoming : Instance) (b : Builder) :
    InitKind → List Model → Builder × List Notification
  | _, [] => (b, [])
  | kind, level :: above =>
    let (upper, calls) := mergeUpward incoming b .fromSubmerge above
    (upper.mergeLevel incoming level, calls ++ [level.notification kind])

/-- Whatever the reason given, the classes are merged from the root down. -/
theorem mergeUpward_fst (incoming : Instance) (b : Builder) (kind : InitKind)
    (levels : List Model) :
    (mergeUpward incoming b kind levels).1 = levels.reverse.foldl (mergeLevel incoming) b := by
  induction levels generalizing kind with
  | nil => rfl
  | cons level above ih =>
    rw [List.reverse_cons, List.foldl_append, ← ih .fromSubmerge]
    rfl

/-- On behalf of another class, the calls come from the root down. -/
theorem mergeUpward_fromSubmerge_snd (incoming : Instance) (b : Builder) (levels : List Model) :
    (mergeUpward incoming b .fromSubmerge levels).2 =
      levels.reverse.map (·.notification .fromSubmerge) := by
  induction levels with
  | nil => rfl
  | cons level above ih =>
    rw [List.reverse_cons, List.map_append, ← ih]
    rfl

/-- Only the notification of the first class has the reason that is given. -/
theorem mergeUpward_levels (incoming : Instance) (b : Builder) (kind : InitKind) :
    mergeUpward incoming b kind b.chain.levels.reverse =
      (b.mergeLevels incoming, b.chain.mergeNotifications kind) := by
  have hlevels : b.chain.levels.reverse = b.chain.model :: b.chain.ancestors.reverse := by
    rw [Chain.levels, List.reverse_append, List.reverse_singleton, List.singleton_append]
  have hcalls := mergeUpward_fromSubmerge_snd incoming b b.chain.ancestors.reverse
  rw [List.reverse_reverse] at hcalls
  apply Prod.ext
  · rw [mergeUpward_fst, List.reverse_reverse]
    rfl
  · calc
      (mergeUpward incoming b kind b.chain.levels.reverse).2
          = (mergeUpward incoming b .fromSubmerge b.chain.ancestors.reverse).2 ++
              [b.chain.model.notification kind] := by
        rw [hlevels]
        rfl
      _ = b.chain.mergeNotifications kind := by
        rw [hcalls]
        rfl

/-- How a builder of an entity comes about: as a new one, from an instance, which may be a foreign
one, or by setting a property of one. -/
inductive BuildsFor (c : Compilation) (entity : String) : Builder → Prop
  | new {b : Builder} : Builder.new c entity = .ok b → BuildsFor c entity b
  | seed {i : Instance} {b : Builder} :
    i.entity = entity → Builder.ofInstance c i = .ok b → BuildsFor c entity b
  | set {b b' : Builder} {property : String} {value : Json} :
    BuildsFor c entity b → b.set property value = .ok b' → BuildsFor c entity b'

/-- No builder of an entity leaves its chain. -/
theorem BuildsFor.chain_eq {b : Builder} (h : BuildsFor c entity b)
    (hch : c.chain entity = .ok ch) : b.chain = ch := by
  induction h with
  | new hnew =>
    obtain ⟨ch', hch', rfl⟩ := new_eq_ok_iff.mp hnew
    exact Except.ok.inj (hch'.symm.trans hch)
  | seed hentity hseed =>
    obtain ⟨ch', hch', rfl⟩ := ofInstance_eq_ok_iff.mp hseed
    rw [hentity] at hch'
    exact Except.ok.inj (hch'.symm.trans hch)
  | set _ hset ih =>
    obtain ⟨e, _, rfl⟩ := exists_edit_of_set hset
    rw [chain_edit, ih]

end Builder

namespace Chain

variable {ch : Chain} {selector : String}

theorem build_notifications {b : Builder} (hchain : b.chain = ch)
    (hselector : ∀ m ∈ ch.levels, m.modelClass.hook.selector = selector) :
    b.build.notifications = ch.levels.map fun m => ⟨m.entity, selector, .default⟩ := by
  rw [Builder.build, hchain]
  apply List.map_congr_left
  intro m hm
  rw [Model.notification, hselector m hm]

/-- A merge calls every class above as part of it and the last one as what it is, all through one
selector. -/
theorem mergeNotifications_eq (kind : InitKind)
    (hselector : ∀ m ∈ ch.levels, m.modelClass.hook.selector = selector) :
    ch.mergeNotifications kind =
      (ch.ancestors.map fun m => ⟨m.entity, selector, .fromSubmerge⟩) ++
        [⟨ch.entity, selector, kind⟩] := by
  have hancestors : ∀ m ∈ ch.ancestors,
      m.notification .fromSubmerge = ⟨m.entity, selector, .fromSubmerge⟩ := by
    intro m hm
    rw [Model.notification, hselector m (List.mem_append_left _ hm)]
  have hmodel : ch.model.notification kind = ⟨ch.entity, selector, kind⟩ := by
    rw [Model.notification, hselector ch.model List.mem_concat_self]
    rfl
  rw [mergeNotifications, List.map_congr_left hancestors, hmodel]

/-- A merge goes from class to class, each after the ones above it. -/
theorem mergeUpward_of_merge {c : Compilation} {current incoming : Instance} {kind : InitKind}
    {out : Constructed} (hch : c.chain current.entity = .ok ch)
    (h : c.merge current incoming kind = .ok out) :
    ∃ b, Builder.mergeUpward incoming (.seeded ch current) kind ch.levels.reverse =
      (b, out.notifications) ∧ out.built = b.toInstance := by
  obtain rfl := eq_of_merge hch h
  refine ⟨(Builder.seeded ch current).mergeLevels incoming,
    Builder.mergeUpward_levels incoming (.seeded ch current) kind, ?_⟩
  rw [Builder.mergeLevels_eq_edit]
  rfl

end Chain

/-- What is notified for an entity with the chain `ch`, of which `root` is the first. -/
structure Compilation.NotificationsExact (c : Compilation) (entity : String) (ch : Chain)
    (root : Model) (below : List Model) : Prop where
  levels : ch.levels = root :: below
  declared : root.modelClass.hook.declaredHere = true
  inherited : ∀ m ∈ below, m.modelClass.hook.declaredHere = false
  starts : Builder.new c entity = .ok (.ofChain ch)
  build : ∀ b, Builder.BuildsFor c entity b → b.build.notifications =
    ch.levels.map fun m => ⟨m.entity, root.modelClass.hook.selector, .default⟩
  succeeds : ∀ current incoming kind, current.entity = entity →
    ((∃ out, c.merge current incoming kind = .ok out) ↔
      incoming.entity = entity ∧ kind ≠ .default)
  merge : ∀ current incoming kind out, current.entity = entity →
    c.merge current incoming kind = .ok out → out.notifications =
      (ch.ancestors.map fun m => ⟨m.entity, root.modelClass.hook.selector, .fromSubmerge⟩) ++
        [⟨entity, root.modelClass.hook.selector, kind⟩]
  /-- The calls come back down from the root, as the classes are merged. -/
  upward : ∀ current incoming kind out, current.entity = entity →
    c.merge current incoming kind = .ok out →
      ∃ b, Builder.mergeUpward incoming (.seeded ch current) kind ch.levels.reverse =
        (b, out.notifications) ∧ out.built = b.toInstance

namespace Graph

variable {g : Graph} {naming : Naming} {c : Compilation} {entity : String}

/-- The notifications of builds and merges of an entity are exact for its chain. -/
theorem notifications_exact (hc : g.compile naming = .ok c) (hentity : entity ∈ c.models.keys) :
    ∃ ch root below, c.chain entity = .ok ch ∧ c.NotificationsExact entity ch root below := by
  obtain ⟨ch, e, as, hch, _, _, has, _, hlevels⟩ := chain_of_mem_keys hc hentity
  obtain ⟨root, below, _, hsplit, _, _, _, hhooks, hbelow⟩ := hooks_of_levels has hlevels
  have hroot := hhooks root (hsplit ▸ List.mem_cons_self)
  have hselector : ∀ m ∈ ch.levels,
      m.modelClass.hook.selector = root.modelClass.hook.selector := by
    intro m hm
    exact (congrArg Hook.selector (hhooks m hm)).symm
  have hname : ch.entity = entity := chain_entity hc hch
  refine ⟨ch, root, below, hch, hsplit, ?_, hbelow, ?_, ?_, ?_, ?_, ?_⟩
  · exact congrArg Hook.declaredHere hroot
  · exact Builder.new_eq_ok_iff.mpr ⟨ch, hch, rfl⟩
  · intro b hb
    exact Chain.build_notifications (hb.chain_eq hch) hselector
  · rintro current incoming kind rfl
    exact Chain.exists_merge_iff hch
  · rintro current incoming kind out rfl hout
    obtain rfl := Chain.eq_of_merge hch hout
    rw [Chain.mergeNotifications_eq kind hselector, hname]
  · rintro current incoming kind out rfl hout
    exact Chain.mergeUpward_of_merge hch hout

/-- A merge into a vault notifies the boards above it on behalf of the vault. -/
theorem notifications_exact_boards : ∃ c out, boards.compile {} = .ok c ∧
    "vault" ∈ c.models.keys ∧ c.merge namedVault strayVault .fromMerge = .ok out ∧
    out.notifications = [⟨"board", "BoardDidInitialize:", .fromSubmerge⟩,
      ⟨"secret_board", "BoardDidInitialize:", .fromSubmerge⟩,
      ⟨"vault", "BoardDidInitialize:", .fromMerge⟩] ∧
    ∃ ch root below, c.chain "vault" = .ok ch ∧ c.NotificationsExact "vault" ch root below := by
  have hview : ((boards.compile {}).toOption.bind fun c =>
      (c.merge namedVault strayVault .fromMerge).toOption.map (·.notifications)) =
      some [⟨"board", "BoardDidInitialize:", .fromSubmerge⟩,
        ⟨"secret_board", "BoardDidInitialize:", .fromSubmerge⟩,
        ⟨"vault", "BoardDidInitialize:", .fromMerge⟩] := by
    decide +kernel
  obtain ⟨c, hsome, hview⟩ := Option.bind_eq_some_iff.mp hview
  obtain ⟨out, hout, hcalls⟩ := Option.map_eq_some_iff.mp hview
  have hc := toOption_eq_some_iff.mp hsome
  have hmerge := toOption_eq_some_iff.mp hout
  obtain ⟨_, _, _, hch, _⟩ := Chain.exists_of_merge hmerge
  have hmem : "vault" ∈ c.models.keys := mem_keys_of_chain hch
  exact ⟨c, out, hc, hmem, hmerge, hcalls, notifications_exact hc hmem⟩

end Graph

end EntityModels
