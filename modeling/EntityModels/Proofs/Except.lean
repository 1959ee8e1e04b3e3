import EntityModels.Proofs.Lists

/-!
Runs that may fail: when a run of two steps, or of one step on every item of a list, succeeds, and
where the fault of one that does not comes from.
-/
namespace EntityModels

variable {α β ε : Type}

theorem bind_eq_ok_iff {x : Except ε α} {f : α → Except ε β} {b : β} :
    (x >>= f) = .ok b ↔ ∃ a, x = .ok a ∧ f a = .ok b := by
  cases x <;> simp [bind, Except.bind]

theorem bind_eq_error_iff {x : Except ε α} {f : α → Except ε β} {fault : ε} :
    (x >>= f) = .error fault ↔ x = .error fault ∨ ∃ a, x = .ok a ∧ f a = .error fault := by
  cases x <;> simp [bind, Except.bind]

theorem toOption_eq_some_iff {x : Except ε α} {a : α} :
    x.toOption = some a ↔ x = .ok a := by
  cases x <;> simp [Except.toOption]

/-- A run fails alike whatever is made of its result. -/
theorem map_eq_error_iff {x : Except ε α} {k : α → β} {fault : ε} :
    x.map k = .error fault ↔ x = .error fault := by
  cases x <;> simp [Except.map]

/-- Rewording the fault does not change when a run succeeds, nor with what. -/
@[simp] theorem mapError_eq_ok_iff {ε ε' α : Type} {f : ε → ε'} {x : Except ε α} {a : α} :
    x.mapError f = .ok a ↔ x = .ok a := by
  cases x <;> simp [Except.mapError]

/-- A run that is seen to have a result has it. -/
theorem exists_ok_of_view {x : Except ε α} {view : α → β} {seen : β}
    (h : x.toOption.map view = some seen) : ∃ a, x = .ok a ∧ view a = seen := by
  obtain ⟨a, hsome, hview⟩ := Option.map_eq_some_iff.mp h
  exact ⟨a, toOption_eq_some_iff.mp hsome, hview⟩

/-- A run over a list succeeds when it does on every item, and then it collects the results. -/
theorem mapM_eq_ok_iff {f : α → Except ε β} {xs : List α} {ys : List β} :
    xs.mapM f = .ok ys ↔ xs.map f = ys.map .ok := by
  -- the results vary with the run over the rest
  induction xs generalizing ys with
  | nil =>
    constructor
    · intro h
      obtain rfl := Except.ok.inj h
      rfl
    · intro h
      obtain rfl := List.map_eq_nil_iff.mp h.symm
      rfl
  | cons x xs ih =>
    rw [List.mapM_cons, bind_eq_ok_iff]
    constructor
    · intro h
      obtain ⟨y, hy, h⟩ := h
      obtain ⟨rest, hrest, h⟩ := bind_eq_ok_iff.mp h
      obtain rfl := Except.ok.inj h
      rw [List.map_cons, List.map_cons, hy, ih.mp hrest]
    · intro h
      cases ys with
      | nil => exact absurd h (List.cons_ne_nil _ _)
      | cons y rest =>
        obtain ⟨hy, hrest⟩ := List.cons.inj h
        exact ⟨y, hy, bind_eq_ok_iff.mpr ⟨rest, ih.mpr hrest, rfl⟩⟩

/-- The results of a run over a list stand beside the items that they come from. -/
theorem mapM_eq_ok_iff_forall₂ {f : α → Except ε β} {xs : List α} {ys : List β} :
    xs.mapM f = .ok ys ↔ List.Forall₂ (fun x y => f x = .ok y) xs ys := by
  rw [mapM_eq_ok_iff, ← List.forall₂_eq_eq_eq, List.forall₂_map_left_iff,
    List.forall₂_map_right_iff]

/-- Two runs over a list that do the same on every item give the same. -/
theorem mapM_congr_of_mem {f k : α → Except ε β} {xs : List α} (h : ∀ x ∈ xs, f x = k x) :
    xs.mapM f = xs.mapM k := by
  induction xs with
  | nil => rfl
  | cons x xs ih =>
    obtain ⟨hx, hxs⟩ := List.forall_mem_cons.mp h
    rw [List.mapM_cons, List.mapM_cons, hx, ih hxs]

/-- To change every result of a run over a list is to change the list of the results. -/
theorem mapM_map_eq {γ : Type} (f : α → Except ε β) (k : β → γ) (xs : List α) :
    xs.mapM (fun x => (f x).map k) = (xs.mapM f).map (List.map k) := by
  induction xs with
  | nil => rfl
  | cons x xs ih =>
    rw [List.mapM_cons, List.mapM_cons, ih]
    cases f x <;> cases xs.mapM f <;> rfl

theorem toOption_ok (a : α) : (.ok a : Except ε α).toOption = some a := rfl

theorem toOption_pure (a : α) : (pure a : Except ε α).toOption = some a := rfl

/-- Up to their faults, runs are chained as optional values are. -/
theorem toOption_bind (x : Except ε α) (f : α → Except ε β) :
    (x >>= f).toOption = x.toOption >>= fun a => (f a).toOption := by
  cases x <;> rfl

theorem toOption_map (f : α → β) (x : Except ε α) :
    (f <$> x).toOption = f <$> x.toOption := by
  cases x <;> rfl

theorem toOption_mapError {ε' : Type} (f : ε → ε') (x : Except ε α) :
    (x.mapError f).toOption = x.toOption := by
  cases x <;> rfl

/-- The fault of an item of a list, after items on which the step succeeds. -/
def FirstFault (f : α → Except ε β) (xs : List α) (fault : ε) : Prop :=
  ∃ before x after, xs = before ++ x :: after ∧ (∀ y ∈ before, ∃ b, f y = .ok b) ∧
    f x = .error fault

variable {f : α → Except ε β} {fault : ε}

theorem not_firstFault_nil : ¬FirstFault f [] fault := by
  intro h
  obtain ⟨before, x, after, heq, _⟩ := h
  simp at heq

/-- The first fault of a list is that of its head, or the first one of the rest after a head without
one. -/
theorem firstFault_cons_iff {x : α} {xs : List α} :
    FirstFault f (x :: xs) fault ↔
      f x = .error fault ∨ (∃ b, f x = .ok b) ∧ FirstFault f xs fault := by
  constructor
  · intro h
    obtain ⟨before, y, after, heq, hbefore, hy⟩ := h
    cases before with
    | nil =>
      obtain ⟨rfl, rfl⟩ := List.cons.inj heq
      exact .inl hy
    | cons z before =>
      obtain ⟨rfl, rfl⟩ := List.cons.inj heq
      obtain ⟨hz, hrest⟩ := List.forall_mem_cons.mp hbefore
      exact .inr ⟨hz, before, y, after, rfl, hrest, hy⟩
  · intro h
    rcases h with hx | ⟨hx, before, y, after, rfl, hbefore, hy⟩
    · exact ⟨[], x, xs, rfl, by simp, hx⟩
    · exact ⟨x :: before, y, after, rfl, List.forall_mem_cons.mpr ⟨hx, hbefore⟩, hy⟩

/-- The first fault is the fault of the first item that has any. -/
theorem firstFault_iff_firstOf {xs : List α} :
    FirstFault f xs fault ↔
      ∃ x, FirstOf (fun x => ∃ fault, f x = .error fault) xs x ∧ f x = .error fault := by
  have hok : ∀ y, (∃ b, f y = .ok b) ↔ ¬∃ fault, f y = .error fault := by
    intro y
    cases f y <;> simp
  constructor
  · rintro ⟨before, x, after, hsplit, hbefore, hx⟩
    exact ⟨x, ⟨before, after, hsplit, fun y hy => (hok y).mp (hbefore y hy), ⟨fault, hx⟩⟩, hx⟩
  · rintro ⟨x, ⟨before, after, hsplit, hbefore, _⟩, hx⟩
    exact ⟨before, x, after, hsplit, fun y hy => (hok y).mpr (hbefore y hy), hx⟩

/-- A run over a list fails with the first fault on it. -/
theorem mapM_eq_error_iff {xs : List α} : xs.mapM f = .error fault ↔ FirstFault f xs fault := by
  induction xs with
  | nil => simp [pure, Except.pure, not_firstFault_nil]
  | cons x xs ih =>
    rw [List.mapM_cons, firstFault_cons_iff, ← ih]
    cases f x <;> cases xs.mapM f <;> simp [bind, Except.bind, pure, Except.pure]

theorem forM_eq_error_iff {f : α → Except ε PUnit} {xs : List α} :
    xs.forM f = .error fault ↔ FirstFault f xs fault := by
  induction xs with
  | nil => simp [pure, Except.pure, not_firstFault_nil]
  | cons x xs ih =>
    have hcons : (x :: xs).forM f = f x >>= fun _ => xs.forM f := rfl
    rw [hcons, firstFault_cons_iff, ← ih]
    cases f x <;> simp [bind, Except.bind]

/-- What is made of the results has no influence on the first fault. -/
theorem firstFault_map_iff {γ : Type} {k : α → β → γ} {xs : List α} :
    FirstFault (fun x => (f x).map (k x)) xs fault ↔ FirstFault f xs fault := by
  have hok : ∀ x, (∃ c, (f x).map (k x) = .ok c) ↔ ∃ b, f x = .ok b := by
    intro x
    cases f x <;> simp [Except.map]
  simp only [FirstFault, hok, map_eq_error_iff]

end EntityModels
