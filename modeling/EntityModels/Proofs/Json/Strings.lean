import EntityModels.Proofs.Json.Outcome

/-!
Skipping a string reaches the same position as reading it. A surrogate pair that is read in one step
is skipped in two, as two escapes.
-/
namespace EntityModels.Reader

variable {c c' : Cursor}

/-- Takes a skipped escape after its backslash. -/
def skipEscape : Reader Unit := do
  match ← look with
  | none => failHere .eofInString
  | some c =>
    if c = 'u' then
      step
      discard readHex
    else if (escaped? c).isSome then step
    else failNext .invalidEscape

theorem forward_readHex : Forward readHex := by
  intro c n c' hok
  simp only [readHex, outcome_bind, outcome_get, ok_bind] at hok
  split at hok
  · split at hok
    · simp only [outcome_bind, outcome_step, ok_bind, outcome_pure, Except.ok.injEq,
        Prod.mk.injEq] at hok
      obtain ⟨-, rfl⟩ := hok
      exact (((c.precedes_next.trans c.next.precedes_next).trans (Cursor.precedes_next _)).trans
        (Cursor.precedes_next _))
    · simp at hok
  · simp at hok

theorem forward_skipEscape : Forward skipEscape := by
  refine forward_look.bind fun d? => ?_
  split
  · exact forward_failHere _
  · split
    · exact forward_step.bind fun _ => forward_readHex.bind fun _ => forward_pure _
    · split
      · exact forward_step
      · exact forward_failNext _

/-- Takes the closing quote of a skipped string, or a character or an escape, and goes on. -/
def skipTextFrom (goOn : Cursor → Except Report (Unit × Cursor)) (c : Cursor) :
    Except Report (Unit × Cursor) :=
  match c.rest.head? with
  | none => .error (.text .eofInString, [])
  | some d =>
    if d = '"' then .ok ((), c.next)
    else if d = '\\' then skipEscape.outcome c.next >>= fun reached => goOn reached.2
    else if d.toNat < 32 then .error (.text .controlCharacter, [])
    else goOn c.next

/-- Skipping characters takes one step at the first of them. -/
theorem outcome_skipCharacters_succ (steps : Nat) (c : Cursor) :
    (skipCharacters (steps + 1)).outcome c = skipTextFrom (skipCharacters steps).outcome c := by
  simp only [skipCharacters, skipTextFrom, outcome_bind, outcome_look, ok_bind]
  cases c.rest.head? with
  | none => rfl
  | some d =>
    by_cases hquote : d = '"'
    · simp [hquote]
    by_cases hescape : d = '\\'
    · subst hescape
      simp only [hquote, if_true, if_false, skipEscape, outcome_bind, outcome_step, outcome_look,
        ok_bind]
      cases c.next.rest.head? with
      | none => rfl
      | some d =>
        by_cases hu : d = 'u'
        · simp [hu]
        · by_cases hletter : (escaped? d).isSome = true <;> simp [hu, hletter]
    · by_cases hcontrol : d.toNat < 32 <;> simp [hquote, hescape, hcontrol]

/-- A string goes on past the character in front. -/
theorem skipTextFrom_congr {goOn goOn' : Cursor → Except Report (Unit × Cursor)}
    (h : ∀ c', c.Advances c' → goOn c' = goOn' c') :
    skipTextFrom goOn c = skipTextFrom goOn' c := by
  rw [skipTextFrom, skipTextFrom]
  cases hhead : c.rest.head? with
  | none => rfl
  | some d =>
    have hnext : c.Advances c.next := Cursor.advances_next hhead
    have hescape : (skipEscape.outcome c.next >>= fun reached => goOn reached.2) =
        skipEscape.outcome c.next >>= fun reached => goOn' reached.2 := by
      rcases hskip : skipEscape.outcome c.next with _ | ⟨u, c'⟩
      · rfl
      · exact h c' (hnext.trans (forward_skipEscape _ _ _ hskip))
    simp only [hescape, h c.next hnext]

theorem precedes_of_skipTextFrom {goOn : Cursor → Except Report (Unit × Cursor)} {u : Unit}
    (hgoOn : ∀ c u c', goOn c = .ok (u, c') → c.Precedes c')
    (h : skipTextFrom goOn c = .ok (u, c')) : c.Precedes c' := by
  rw [skipTextFrom] at h
  split at h
  · contradiction
  split at h
  · obtain rfl : c.next = c' := congrArg Prod.snd (Except.ok.inj h)
    exact c.precedes_next
  split at h
  · obtain ⟨⟨v, c₁⟩, hescape, hrest⟩ := bind_eq_ok_iff.mp h
    exact (c.precedes_next.trans (forward_skipEscape _ _ _ hescape)).trans (hgoOn _ _ _ hrest)
  split at h
  · contradiction
  · exact c.precedes_next.trans (hgoOn _ _ _ h)

/-- Any number of steps that is enough to take a skipped string gives the same. -/
theorem outcome_skipCharacters_congr {m n : Nat} {c : Cursor} (hm : c.rest.length < m)
    (hn : c.rest.length < n) : (skipCharacters m).outcome c = (skipCharacters n).outcome c := by
  induction m generalizing n c with
  | zero => omega
  | succ m ih =>
    obtain ⟨n, rfl⟩ : ∃ k, n = k + 1 := ⟨n - 1, by omega⟩
    rw [outcome_skipCharacters_succ, outcome_skipCharacters_succ]
    apply skipTextFrom_congr
    intro c' hc'
    have hlt := hc'.length_lt
    exact ih (by omega) (by omega)

/-- Skips a string after its opening quote. -/
def skipText (c : Cursor) : Except Report (Unit × Cursor) :=
  (skipCharacters (c.rest.length + 1)).outcome c

theorem outcome_skipCharacters {n : Nat} (h : c.rest.length < n) :
    (skipCharacters n).outcome c = skipText c :=
  outcome_skipCharacters_congr h (Nat.lt_succ_self _)

/-- A string is skipped up to its quotation mark, within a bound that is never reached. -/
theorem outcome_skipString (h : c.Bounded) : skipString.outcome c = skipText c := by
  simp only [skipString, loopBound, outcome_bind, outcome_get, ok_bind, outcome_pure]
  exact outcome_skipCharacters (Nat.lt_succ_of_le h)

/-- A string is skipped character by character. -/
theorem skipText_eq (c : Cursor) : skipText c = skipTextFrom skipText c := by
  rw [skipText, outcome_skipCharacters_succ]
  apply skipTextFrom_congr
  intro c' hc'
  exact outcome_skipCharacters hc'.length_lt

/-- The second half of a surrogate pair is skipped as an escape of its own. -/
theorem skipsTo_secondHalf (pair : Nat → Char) (c : Cursor) :
    SkipsTo skipText (Reader.outcome (do
        expectInPair '\\'
        expectInPair 'u'
        let low ← readHex
        if 0xDC00 ≤ low ∧ low ≤ 0xDFFF then return pair low else failHere .loneSurrogate) c)
      (skipText c) := by
  rw [skipText_eq, skipTextFrom]
  simp only [expectInPair, outcome_bind, outcome_look, ok_bind]
  cases c.rest.head? with
  | none => exact .error
  | some d =>
    by_cases hslash : d = '\\'
    · simp only [hslash, if_true, outcome_step, ok_bind, skipEscape, outcome_bind, outcome_look]
      cases c.next.rest.head? with
      | none => exact .error
      | some e =>
        by_cases hu : e = 'u'
        · simp only [hu, if_true, outcome_step, ok_bind, outcome_bind, outcome_discard]
          rcases readHex.outcome c.next.next with cause | ⟨low, c'⟩
          · exact .error
          · by_cases hlow : 0xDC00 ≤ low ∧ low ≤ 0xDFFF
            · rw [ok_bind, if_pos hlow, outcome_pure]
              exact .ok
            · rw [ok_bind, if_neg hlow, outcome_failHere]
              exact .limit (by decide)
        · simp only [hu, if_false, outcome_failNext, error_bind]
          exact .limit (by decide)
    · simp only [hslash, if_false, outcome_failNext, error_bind]
      exact .limit (by decide)

/-- An escape that is the first half of a surrogate pair is skipped in two steps. -/
theorem skipsTo_readUnicode (c : Cursor) :
    SkipsTo skipText (readUnicode.outcome c)
      (readHex.outcome c >>= fun reached => skipText reached.2) := by
  simp only [readUnicode, outcome_bind]
  rcases readHex.outcome c with cause | ⟨n, c⟩
  · exact .error
  · simp only [ok_bind]
    by_cases hlow : 0xDC00 ≤ n ∧ n ≤ 0xDFFF
    · rw [if_pos hlow, outcome_failHere]
      exact .limit (by decide)
    · rw [if_neg hlow]
      by_cases hhigh : 0xD800 ≤ n ∧ n ≤ 0xDBFF
      · rw [if_pos hhigh]
        exact skipsTo_secondHalf _ c
      · rw [if_neg hhigh]
        exact .ok

theorem skipsTo_readEscape (c : Cursor) :
    SkipsTo skipText (readEscape.outcome c)
      (skipEscape.outcome c >>= fun reached => skipText reached.2) := by
  simp only [readEscape, skipEscape, outcome_bind, outcome_look, ok_bind]
  cases c.rest.head? with
  | none => exact .error
  | some d =>
    by_cases hu : d = 'u'
    · simpa [hu] using skipsTo_readUnicode c.next
    · cases hletter : escaped? d with
      | none => simpa [hu, hletter] using .error
      | some e => simpa [hu, hletter] using .ok (b := e)

theorem forward_expectInPair (d : Char) : Forward (expectInPair d) := by
  refine forward_look.bind fun e? => ?_
  split
  · exact forward_failHere _
  · split
    · exact forward_step
    · exact forward_failNext _

theorem forward_readUnicode : Forward readUnicode := by
  refine forward_readHex.bind fun n => ?_
  split
  · exact forward_failHere _
  · split
    · refine (forward_expectInPair _).bind fun _ => (forward_expectInPair _).bind fun _ =>
        forward_readHex.bind fun low => ?_
      split
      · exact forward_pure _
      · exact forward_failHere _
    · exact forward_pure _

theorem forward_readEscape : Forward readEscape := by
  refine forward_look.bind fun d? => ?_
  split
  · exact forward_failHere _
  · split
    · exact forward_step.bind fun _ => forward_readUnicode
    · split
      · exact forward_step.bind fun _ => forward_pure _
      · exact forward_failNext _

/-- The characters of a string are skipped one by one as they are read. -/
theorem skips_readCharacters {steps : Nat} {c : Cursor} (reversed : List Char)
    (h : c.rest.length < steps) :
    Skips ((readCharacters steps reversed).outcome c) (skipText c) := by
  induction steps generalizing c reversed with
  | zero => omega
  | succ steps ih =>
    rw [skipText_eq, skipTextFrom]
    simp only [readCharacters, outcome_bind, outcome_look, ok_bind]
    cases hhead : c.rest.head? with
    | none => exact .error
    | some d =>
      have hnext : c.Advances c.next := Cursor.advances_next hhead
      have hlt := hnext.length_lt
      by_cases hquote : d = '"'
      · simpa [hquote] using .ok
      by_cases hescape : d = '\\'
      · subst hescape
        simp only [hquote, if_true, if_false, outcome_bind, outcome_step, ok_bind]
        refine (skipsTo_readEscape c.next).bind ?_
        intro e c' he
        have hlt' := (hnext.trans (forward_readEscape _ _ _ he)).length_lt
        exact ih (e :: reversed) (by dsimp only; omega)
      · by_cases hcontrol : d.toNat < 32
        · simpa [hquote, hescape, hcontrol] using .error
        · simpa [hquote, hescape, hcontrol] using ih (d :: reversed) (by omega)

/-- A string that is read is skipped to the same position. -/
theorem skips_readString (h : c.Bounded) :
    Skips (readString.outcome c) (skipString.outcome c) := by
  rw [outcome_skipString h]
  simp only [readString, outcome_bind, outcome_get, ok_bind]
  exact skips_readCharacters [] (Nat.lt_succ_of_le h)

theorem forward_skipCharacters (steps : Nat) : Forward (skipCharacters steps) := by
  induction steps with
  | zero => exact forward_failHere _
  | succ steps ih =>
    intro c u c' hok
    rw [outcome_skipCharacters_succ] at hok
    exact precedes_of_skipTextFrom ih hok

theorem forward_skipString : Forward skipString :=
  (forward_of_ok (fun _ => rfl) Cursor.Precedes.refl).bind forward_skipCharacters

end EntityModels.Reader
