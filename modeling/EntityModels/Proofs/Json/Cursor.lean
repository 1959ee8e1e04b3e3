import EntityModels.Json.Cursor

/-!
Positions in a text: which come after which, and what is left after the characters that satisfy a
test.
-/
namespace EntityModels

namespace Cursor

/-- The bound counts at least what is left. -/
def Bounded (c : Cursor) : Prop := c.rest.length ≤ c.bound

/-- A position further on in the same text, or the same position. -/
structure Precedes (c c' : Cursor) : Prop where
  length_le : c'.rest.length ≤ c.rest.length
  bound_eq : c'.bound = c.bound

theorem Precedes.refl (c : Cursor) : c.Precedes c := ⟨Nat.le_refl _, rfl⟩

theorem Precedes.trans {c c' c'' : Cursor} (h : c.Precedes c') (h' : c'.Precedes c'') :
    c.Precedes c'' :=
  ⟨Nat.le_trans h'.length_le h.length_le, h'.bound_eq.trans h.bound_eq⟩

/-- What is left of a text is within the bound further on as well. -/
theorem Bounded.of_precedes {c c' : Cursor} (h : c.Bounded) (h' : c.Precedes c') : c'.Bounded := by
  rw [Bounded, h'.bound_eq]
  exact Nat.le_trans h'.length_le h

theorem bounded_ofText (text : String) : (ofText text).Bounded := Nat.le_refl _

theorem next_of_rest {c : Cursor} {d : Char} {rest : List Char} (h : c.rest = d :: rest) :
    c.next = { c with rest, place := c.place.after d } := by
  simp only [next, h]

theorem precedes_next (c : Cursor) : c.Precedes c.next := by
  cases h : c.rest with
  | nil => simp only [next, h]; exact .refl c
  | cons d rest =>
    rw [next_of_rest h]
    exact ⟨by simp [h], rfl⟩

/-- A position further on, past at least one character. -/
structure Advances (c c' : Cursor) : Prop where
  length_lt : c'.rest.length < c.rest.length
  bound_eq : c'.bound = c.bound

theorem Advances.precedes {c c' : Cursor} (h : c.Advances c') : c.Precedes c' :=
  ⟨Nat.le_of_lt h.length_lt, h.bound_eq⟩

theorem Advances.trans {c c' c'' : Cursor} (h : c.Advances c') (h' : c'.Precedes c'') :
    c.Advances c'' :=
  ⟨Nat.lt_of_le_of_lt h'.length_le h.length_lt, h'.bound_eq.trans h.bound_eq⟩

theorem Precedes.advances {c c' c'' : Cursor} (h : c.Precedes c') (h' : c'.Advances c'') :
    c.Advances c'' :=
  ⟨Nat.lt_of_lt_of_le h'.length_lt h.length_le, h'.bound_eq.trans h.bound_eq⟩

/-- A character in front is taken by a step. -/
theorem advances_next {c : Cursor} {d : Char} (h : c.rest.head? = some d) :
    c.Advances c.next := by
  obtain ⟨rest, hrest⟩ := List.head?_eq_some_iff.mp h
  rw [next_of_rest hrest]
  exact ⟨by simp [hrest], rfl⟩

section skipWhile

variable (p : Char → Bool)

theorem skipWhile_go_congr {c c' : Cursor} (h : c.bound = c'.bound) (rest : List Char)
    (place : Place) : skipWhile.go p c rest place = skipWhile.go p c' rest place := by
  induction rest generalizing place with
  | nil => simp only [skipWhile.go, h]
  | cons d rest ih =>
    simp only [skipWhile.go]
    rw [ih, h]

/-- Characters that satisfy the test are skipped one by one. -/
theorem skipWhile_eq (c : Cursor) :
    c.skipWhile p = if c.rest.head?.any p then c.next.skipWhile p else c := by
  obtain ⟨rest, place, bound⟩ := c
  cases rest with
  | nil => rfl
  | cons d rest =>
    by_cases hd : p d = true
    · simp only [skipWhile, skipWhile.go, next, List.head?_cons, Option.any_some, hd, if_true]
      apply skipWhile_go_congr
      rfl
    · simp [skipWhile, skipWhile.go, hd]

variable {p}

/-- A character that satisfies the test is passed. -/
theorem skipWhile_next {c : Cursor} {d : Char} (h : c.rest.head? = some d) (hd : p d = true) :
    c.skipWhile p = c.next.skipWhile p := by
  rw [skipWhile_eq, h, Option.any_some, if_pos hd]

theorem skipWhile_self {c : Cursor} (h : c.rest.head?.any p = false) : c.skipWhile p = c := by
  rw [skipWhile_eq, h, if_neg Bool.false_ne_true]

/-- What is left after the characters that satisfy the test. -/
theorem skipWhile_spec (c : Cursor) :
    (c.skipWhile p).rest = c.rest.dropWhile p ∧ c.Precedes (c.skipWhile p) := by
  generalize hrest : c.rest = rest
  induction rest generalizing c with
  | nil => rw [skipWhile_self (by simp [hrest])]; exact ⟨hrest, .refl c⟩
  | cons d rest ih =>
    by_cases hd : p d = true
    · obtain ⟨hleft, hprecedes⟩ := ih c.next (by rw [next_of_rest hrest])
      rw [skipWhile_next (by rw [hrest, List.head?_cons]) hd, hleft, List.dropWhile_cons_of_pos hd]
      exact ⟨rfl, c.precedes_next.trans hprecedes⟩
    · rw [skipWhile_self (by simp [hrest, hd]), hrest, List.dropWhile_cons_of_neg hd]
      exact ⟨rfl, .refl c⟩

/-- Nothing is left to pass after passing it all. -/
theorem skipWhile_skipWhile (c : Cursor) : (c.skipWhile p).skipWhile p = c.skipWhile p := by
  refine skipWhile_self ?_
  rw [c.skipWhile_spec.1]
  cases h : (c.rest.dropWhile p).head? with
  | none => rfl
  | some d => simpa [h] using List.head?_dropWhile_not p c.rest

end skipWhile

/-- The position of the next token. -/
def token (c : Cursor) : Cursor := c.skipWhile isBlank

@[simp] theorem token_token (c : Cursor) : c.token.token = c.token := skipWhile_skipWhile c

theorem precedes_token (c : Cursor) : c.Precedes c.token := c.skipWhile_spec.2

theorem Bounded.next {c : Cursor} (h : c.Bounded) : c.next.Bounded :=
  h.of_precedes c.precedes_next

theorem Bounded.token {c : Cursor} (h : c.Bounded) : c.token.Bounded :=
  h.of_precedes c.precedes_token

end Cursor

end EntityModels
