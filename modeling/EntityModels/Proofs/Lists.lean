import Mathlib.Data.List.Forall2
import Mathlib.Data.List.Nodup

/-!
Lists side by side: item for item related, or taken from one another by a test. Items found in a
list: the one under a key, or the first one of a kind.
-/
namespace EntityModels

/-- A partial map over a list takes the items that pass a test to their values, in order. -/
theorem forall₂_filterMap {α β : Type} {f : α → Option β} {test : α → Bool} {xs : List α}
    (h : ∀ x ∈ xs, (f x).isSome = test x) :
    List.Forall₂ (fun x y => x ∈ xs ∧ test x = true ∧ f x = some y)
      (xs.filter test) (xs.filterMap f) := by
  induction xs with
  | nil => exact .nil
  | cons x xs ih =>
    obtain ⟨hx, hxs⟩ := List.forall_mem_cons.mp h
    have hrest := (ih hxs).imp fun a b hab => And.imp_left (List.mem_cons_of_mem x) hab
    cases hf : f x with
    | none =>
      have htest : test x = false := by rw [← hx, hf]; rfl
      rw [List.filterMap_cons_none hf, List.filter_cons_of_neg (by simp [htest])]
      exact hrest
    | some y =>
      have htest : test x = true := by rw [← hx, hf]; rfl
      rw [List.filterMap_cons_some hf, List.filter_cons_of_pos htest]
      exact .cons ⟨by simp, htest, hf⟩ hrest

/-- Lists that two functions take to the same items, place by place, have one image. -/
theorem map_eq_map_of_forall₂ {α β γ : Type} {f : α → γ} {k : β → γ} {xs : List α} {ys : List β}
    (h : List.Forall₂ (fun x y => f x = k y) xs ys) : xs.map f = ys.map k := by
  induction h with
  | nil => rfl
  | cons hxy _ ih => rw [List.map_cons, List.map_cons, hxy, ih]

theorem forall₂_imp_of_mem {α β : Type} {R S : α → β → Prop} {xs : List α} {ys : List β}
    (h : List.Forall₂ R xs ys) (himp : ∀ x ∈ xs, ∀ y ∈ ys, R x y → S x y) :
    List.Forall₂ S xs ys := by
  refine List.forall₂_iff_zip.mpr ⟨h.length_eq, ?_⟩
  intro x y hzip
  obtain ⟨hx, hy⟩ := List.of_mem_zip hzip
  exact himp x hx y hy (List.forall₂_zip h hzip)

/-- Everything on the right is related to something on the left. -/
theorem exists_of_forall₂_right {α β : Type} {R : α → β → Prop} {xs : List α} {ys : List β}
    (h : List.Forall₂ R xs ys) {y : β} (hy : y ∈ ys) : ∃ x ∈ xs, R x y := by
  induction h with
  | nil => simp at hy
  | cons hxy _ ih =>
    rcases List.mem_cons.mp hy with rfl | hy
    · exact ⟨_, List.mem_cons_self, hxy⟩
    · obtain ⟨x, hx, hR⟩ := ih hy
      exact ⟨x, List.mem_cons_of_mem _ hx, hR⟩

/-- Everything on the left is related to something on the right. -/
theorem exists_of_forall₂_left {α β : Type} {R : α → β → Prop} {xs : List α} {ys : List β}
    (h : List.Forall₂ R xs ys) {x : α} (hx : x ∈ xs) : ∃ y ∈ ys, R x y :=
  exists_of_forall₂_right h.flip hx

/-- The lists have something at the same places. -/
theorem exists_getElem?_of_forall₂ {α β : Type} {R : α → β → Prop} {xs : List α} {ys : List β}
    (h : List.Forall₂ R xs ys) {i : Nat} {x : α} (hx : xs[i]? = some x) :
    ∃ y, ys[i]? = some y ∧ R x y := by
  induction h generalizing i with
  | nil => simp at hx
  | cons hxy _ ih =>
    cases i with
    | zero =>
      obtain rfl := Option.some.inj hx
      exact ⟨_, rfl, hxy⟩
    | succ i => exact ih hx

/-- Where a key tells the items of a list apart, a search by the key finds the item that has it. -/
theorem find?_eq_some_iff_of_nodup {α β : Type} [DecidableEq β] {key : α → β} {xs : List α}
    (hd : (xs.map key).Nodup) {k : β} {x : α} :
    xs.find? (fun y => key y = k) = some x ↔ x ∈ xs ∧ key x = k := by
  constructor
  · intro h
    exact ⟨List.mem_of_find?_eq_some h, by simpa using List.find?_some h⟩
  · rintro ⟨hmem, rfl⟩
    cases hfound : xs.find? fun y => key y = key x with
    | none => simpa using List.find?_eq_none.mp hfound x hmem
    | some other =>
      have hother : other ∈ xs := List.mem_of_find?_eq_some hfound
      have hkey : key other = key x := by simpa using List.find?_some hfound
      rw [List.inj_on_of_nodup_map hd hother hmem hkey]

/-- The first item of a list for which `P` holds. -/
def FirstOf {α : Type} (P : α → Prop) (xs : List α) (x : α) : Prop :=
  ∃ before after, xs = before ++ x :: after ∧ (∀ y ∈ before, ¬P y) ∧ P x

theorem FirstOf.holds {α : Type} {P : α → Prop} {xs : List α} {x : α} (h : FirstOf P xs x) :
    P x := by
  obtain ⟨_, _, _, _, hx⟩ := h
  exact hx

theorem exists_firstOf_iff {α : Type} {P : α → Prop} {xs : List α} :
    (∃ x, FirstOf P xs x) ↔ ∃ x ∈ xs, P x := by
  classical
  constructor
  · rintro ⟨x, before, after, rfl, _, hx⟩
    exact ⟨x, by simp, hx⟩
  · rintro ⟨x, hmem, hx⟩
    have hsome : (xs.find? fun x => decide (P x)).isSome :=
      List.find?_isSome.mpr ⟨x, hmem, decide_eq_true hx⟩
    obtain ⟨y, hy⟩ := Option.isSome_iff_exists.mp hsome
    obtain ⟨hP, before, after, hsplit, hbefore⟩ := List.find?_eq_some_iff_append.mp hy
    exact ⟨y, before, after, hsplit, by simpa using hbefore, of_decide_eq_true hP⟩

/-- The first item of a changed list is the first one of the list, changed. -/
theorem firstOf_map_iff {α β : Type} {f : α → β} {P : β → Prop} {xs : List α} {y : β} :
    FirstOf P (xs.map f) y ↔ ∃ x, FirstOf (fun x => P (f x)) xs x ∧ f x = y := by
  constructor
  · rintro ⟨before, after, hsplit, hbefore, hy⟩
    obtain ⟨front, rest, rfl, rfl, hrest⟩ := List.map_eq_append_iff.mp hsplit
    obtain ⟨x, back, rfl, rfl, rfl⟩ := List.map_eq_cons_iff.mp hrest
    exact ⟨x, ⟨front, back, rfl, fun z hz => hbefore _ (List.mem_map_of_mem hz), hy⟩, rfl⟩
  · rintro ⟨x, ⟨before, after, rfl, hbefore, hx⟩, rfl⟩
    refine ⟨before.map f, after.map f, by simp, fun z hz => ?_, hx⟩
    obtain ⟨w, hw, rfl⟩ := List.mem_map.mp hz
    exact hbefore w hw

end EntityModels
