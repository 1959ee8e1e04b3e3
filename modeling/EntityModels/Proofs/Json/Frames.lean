import EntityModels.Proofs.Json.Numbers
import EntityModels.Proofs.Json.Strings

/-!
Skipping a value with a stack of open brackets. Every step takes at least one character, so the
bound on their number has no influence; what is left to skip depends on the position, the brackets
that are open, and whether the innermost has just been opened.
-/
namespace EntityModels.Reader

variable {c c' : Cursor}

theorem forward_readWord (word : List Char) : Forward (readWord word) := by
  induction word with
  | nil => exact forward_pure _
  | cons d word ih =>
    refine forward_look.bind fun e? => ?_
    split
    · exact forward_failHere _
    · split
      · exact forward_step.bind fun _ => ih
      · exact forward_failNext _

theorem forward_readColon : Forward readColon := by
  refine forward_lookToken.bind fun d? => ?_
  split
  · exact forward_failHere _
  · split
    · exact forward_step
    · exact forward_failNext _

theorem forward_skipInto (frame : Frame) : Forward (skipInto frame) := by
  cases frame with
  | list => exact forward_pure _
  | object =>
    refine forward_lookToken.bind fun d? => ?_
    split
    · exact forward_failHere _
    · split
      · exact forward_step.bind fun _ => forward_skipString.bind fun _ => forward_readColon
      · exact forward_failNext _

/-- The start of a skipped value takes at least one character. -/
theorem advances_of_skipStart {frames : List Frame} {started : Bool × List Frame}
    (h : (skipStart frames).outcome c = .ok (started, c')) : c.Advances c' := by
  apply c.precedes_token.advances
  simp only [skipStart, outcome_bind, outcome_lookToken, ok_bind] at h
  cases hhead : c.token.rest.head? with
  | none => simp [hhead] at h
  | some d =>
    have hnext := Cursor.advances_next hhead
    have hstep {reader : Reader Unit} (hforward : Forward reader) {result : Bool × List Frame}
        (h : Reader.outcome (do step; reader; return result) c.token = .ok (started, c')) :
        c.token.Advances c' := by
      simp only [outcome_bind, outcome_step, ok_bind, bind_eq_ok_iff] at h
      obtain ⟨⟨u, c₁⟩, hreader, h⟩ := h
      obtain ⟨-, rfl⟩ := Prod.mk.inj (Except.ok.inj h)
      exact hnext.trans (hforward _ _ _ hreader)
    simp only [hhead] at h
    -- only a number without a sign is taken together with the character in front
    split at h
    · exact hstep (forward_readWord _) h
    split at h
    · exact hstep (forward_readWord _) h
    split at h
    · exact hstep (forward_readWord _) h
    split at h
    · exact hstep (fun _ _ _ hok => (advances_of_skipNumber hok).precedes) h
    split at h
    · exact hstep forward_skipString h
    split at h
    · exact hstep (forward_pure ()) h
    split at h
    · exact hstep (forward_pure ()) h
    split at h
    · rw [outcome_bind, bind_eq_ok_iff] at h
      obtain ⟨⟨u, c₁⟩, hnumber, h⟩ := h
      obtain ⟨-, rfl⟩ := Prod.mk.inj (Except.ok.inj h)
      exact advances_of_skipNumber hnumber
    · simp at h

/-- A step takes a character: the end of the bracket is one, and everything else leads to the start
of a value. -/
theorem advances_of_skipNext {opened : Bool} {frame : Frame} {frames : List Frame}
    {after : Bool × List Frame}
    (h : (skipNext opened frame frames).outcome c = .ok (after, c')) : c.Advances c' := by
  apply c.precedes_token.advances
  simp only [skipNext, outcome_bind, outcome_lookToken, ok_bind] at h
  cases hhead : c.token.rest.head? with
  | none => simp [hhead] at h
  | some d =>
    have hnext := Cursor.advances_next hhead
    have hstart {c₁ : Cursor} (hc : c.token.Precedes c₁) (h : (do
        skipInto frame; skipStart (frame :: frames) : Reader _).outcome c₁ = .ok (after, c')) :
        c.token.Advances c' := by
      rw [outcome_bind, bind_eq_ok_iff] at h
      obtain ⟨⟨u, c₂⟩, hinto, h⟩ := h
      exact (hc.trans (forward_skipInto frame _ _ _ hinto)).advances (advances_of_skipStart h)
    simp only [hhead] at h
    split at h
    · simp only [outcome_bind, outcome_step, ok_bind, outcome_pure, Except.ok.injEq,
        Prod.mk.injEq] at h
      exact h.2 ▸ hnext
    split at h
    · exact hstart (.refl _) h
    split at h
    · rw [outcome_bind, outcome_step, ok_bind] at h
      exact hstart hnext.precedes h
    · simp at h

/-- Any number of steps that is enough to take a skipped value gives the same. -/
theorem outcome_skipRest_congr {m n : Nat} {opened : Bool} {frames : List Frame} {c : Cursor}
    (hm : c.rest.length < m) (hn : c.rest.length < n) :
    (skipRest m opened frames).outcome c = (skipRest n opened frames).outcome c := by
  induction m generalizing n opened frames c with
  | zero => omega
  | succ m ih =>
    obtain ⟨n, rfl⟩ : ∃ k, n = k + 1 := ⟨n - 1, by omega⟩
    cases frames with
    | nil => rfl
    | cons frame frames =>
      simp only [skipRest, outcome_bind]
      rcases hnext : (skipNext opened frame frames).outcome c with _ | ⟨after, c'⟩
      · rfl
      · have hc' := (advances_of_skipNext hnext).length_lt
        exact ih (by dsimp only; omega) (by dsimp only; omega)

/-- Skips what is left of the values that the open brackets belong to. -/
def skipFrom (opened : Bool) (frames : List Frame) (c : Cursor) :
    Except Report (Unit × Cursor) :=
  (skipRest (c.rest.length + 1) opened frames).outcome c

/-- Skips a value inside open brackets, and what is left of theirs. -/
def skipOver (frames : List Frame) (c : Cursor) : Except Report (Unit × Cursor) :=
  (skipStart frames).outcome c >>= fun started => skipFrom started.1.1 started.1.2 started.2

/-- What is left to skip is one step and then what is left after it. -/
theorem skipFrom_cons (opened : Bool) (frame : Frame) (frames : List Frame) (c : Cursor) :
    skipFrom opened (frame :: frames) c =
      (skipNext opened frame frames).outcome c >>= fun after =>
        skipFrom after.1.1 after.1.2 after.2 := by
  rw [skipFrom]
  simp only [skipRest, outcome_bind]
  rcases hnext : (skipNext opened frame frames).outcome c with _ | ⟨after, c'⟩
  · rfl
  · have hc' := (advances_of_skipNext hnext).length_lt
    exact outcome_skipRest_congr hc' (Nat.lt_succ_self _)

section skipFrom

variable {opened : Bool} {frame : Frame} {frames : List Frame} {d : Char}

/-- The innermost bracket is left at its end. -/
theorem skipFrom_closing (h : c.token.rest.head? = some frame.closing) :
    skipFrom opened (frame :: frames) c = skipFrom false frames c.token.next := by
  rw [skipFrom_cons]
  simp only [skipNext, outcome_bind, outcome_lookToken, ok_bind, h, if_true, outcome_step,
    outcome_pure]

/-- Nothing stands before the first value inside a bracket. -/
theorem skipFrom_opened (h : c.token.rest.head? = some d) (hclose : d ≠ frame.closing) :
    skipFrom true (frame :: frames) c =
      (skipInto frame).outcome c.token >>= fun reached => skipOver (frame :: frames) reached.2 := by
  rw [skipFrom_cons]
  simp only [skipNext, outcome_bind, outcome_lookToken, ok_bind, h, hclose, if_true, if_false,
    bind_assoc]
  rfl

/-- A comma stands before every other value. -/
theorem skipFrom_comma (h : c.token.rest.head? = some ',') :
    skipFrom false (frame :: frames) c =
      (skipInto frame).outcome c.token.next >>= fun reached =>
        skipOver (frame :: frames) reached.2 := by
  have hclose : ',' ≠ frame.closing := by cases frame <;> decide
  rw [skipFrom_cons]
  simp only [skipNext, outcome_bind, outcome_lookToken, ok_bind, h, hclose, if_true, if_false,
    outcome_step, bind_assoc, Bool.false_eq_true]
  rfl

/-- Anything else inside a bracket is refused. -/
theorem fails_skipFrom (hclose : c.token.rest.head? ≠ some frame.closing)
    (h : c.token.rest.head? = none ∨ opened = false ∧ c.token.rest.head? ≠ some ',') :
    (skipFrom opened (frame :: frames) c).toOption = none := by
  rw [skipFrom_cons]
  simp only [skipNext, outcome_bind, outcome_lookToken, ok_bind]
  cases hhead : c.token.rest.head? with
  | none => rfl
  | some d =>
    rw [hhead] at h hclose
    obtain ⟨rfl, hcomma⟩ := h.resolve_left nofun
    have hd : d ≠ frame.closing := fun hd => hclose (congrArg some hd)
    have hd' : d ≠ ',' := fun hd => hcomma (congrArg some hd)
    simp only [hd, hd', if_false, Bool.false_eq_true]
    rfl

theorem skipOver_token (frames : List Frame) (c : Cursor) :
    skipOver frames c.token = skipOver frames c := by
  simp only [skipOver, skipStart, outcome_bind, outcome_lookToken, ok_bind, Cursor.token_token]

/-- No value begins at the end of a text or of a list. -/
theorem fails_skipOver (h : c.token.rest.head? = none ∨ c.token.rest.head? = some ']') :
    (skipOver frames c).toOption = none := by
  simp only [skipOver, skipStart, outcome_bind, outcome_lookToken, ok_bind]
  rcases h with h | h
  · rw [h]
    rfl
  · rw [h]
    rfl

end skipFrom

/-- A value is skipped with no bracket open around it. -/
theorem outcome_skipValue (h : c.Bounded) : skipValue.outcome c = skipOver [] c := by
  simp only [skipValue, loopBound, outcome_bind, outcome_get, ok_bind, outcome_pure, skipOver]
  rcases hstart : (skipStart []).outcome c with _ | ⟨started, c'⟩
  · rfl
  · have hc' := (advances_of_skipStart hstart).length_lt
    have hbound : c.rest.length ≤ c.bound := h
    exact outcome_skipRest_congr (by dsimp only; omega) (Nat.lt_succ_self _)

theorem forward_skipRest (steps : Nat) (opened : Bool) (frames : List Frame) :
    Forward (skipRest steps opened frames) := by
  induction steps generalizing opened frames with
  | zero => cases frames <;> exact forward_pure _
  | succ steps ih =>
    cases frames with
    | nil => exact forward_pure _
    | cons frame frames =>
      exact Forward.bind (fun _ _ _ hok => (advances_of_skipNext hok).precedes) fun _ => ih _ _

/-- A value that is skipped takes at least one character. -/
theorem advances_of_skipOver {frames : List Frame} {u : Unit}
    (h : skipOver frames c = .ok (u, c')) : c.Advances c' := by
  obtain ⟨⟨started, c₁⟩, hstart, hrest⟩ := bind_eq_ok_iff.mp h
  exact (advances_of_skipStart hstart).trans (forward_skipRest _ _ _ _ _ _ hrest)

end EntityModels.Reader
