import EntityModels.Proofs.Json.Outcome

/-!
Skipping a number reaches the same position as reading it. A number is only read as far as its
significand and its exponent hold; the digits beyond are skipped, and none makes a skipped number
fail.
-/
namespace EntityModels.Reader

variable {c c' : Cursor}

@[simp] theorem outcome_skipDigits (c : Cursor) :
    skipDigits.outcome c =
      .ok ((c.rest.takeWhile Char.isDigit).length, c.skipWhile Char.isDigit) := rfl

/-- What taking `count` digits reaches: the end of the digits, or one that a limit leaves. -/
structure TakesDigits (c c' : Cursor) (count : Nat) (beyond : Bool) : Prop where
  skipWhile_eq : c'.skipWhile Char.isDigit = c.skipWhile Char.isDigit
  digit_of_beyond : beyond = true → c.rest.head?.any Char.isDigit = true
  reached : beyond = false → c' = c.skipWhile Char.isDigit
  count_eq : beyond = false → count = (c.rest.takeWhile Char.isDigit).length

namespace TakesDigits

variable {count : Nat} {beyond : Bool} {d : Char}

/-- Where no digit is in front, there is none to take. -/
theorem none (h : c.rest.head?.any Char.isDigit = false) : TakesDigits c c 0 false where
  skipWhile_eq := rfl
  digit_of_beyond := nofun
  reached _ := (Cursor.skipWhile_self h).symm
  count_eq _ := by
    cases hrest : c.rest with
    | nil => rfl
    | cons d rest =>
      have hd : ¬d.isDigit = true := by simpa [hrest] using h
      rw [List.takeWhile_cons_of_neg hd, List.length_nil]

/-- A digit that a limit leaves is in front. -/
theorem left (h : c.rest.head?.any Char.isDigit = true) : TakesDigits c c 0 true where
  skipWhile_eq := rfl
  digit_of_beyond _ := h
  reached := nofun
  count_eq := nofun

/-- A digit in front is taken before the others. -/
theorem cons (hrest : c.rest.head? = some d) (hd : d.isDigit = true)
    (h : TakesDigits c.next c' count beyond) : TakesDigits c c' (count + 1) beyond where
  skipWhile_eq := h.skipWhile_eq.trans (Cursor.skipWhile_next hrest hd).symm
  digit_of_beyond _ := by rw [hrest, Option.any_some, hd]
  reached hend := (h.reached hend).trans (Cursor.skipWhile_next hrest hd).symm
  count_eq hend := by
    obtain ⟨rest, hrest⟩ := List.head?_eq_some_iff.mp hrest
    have hcount := h.count_eq hend
    rw [Cursor.next_of_rest hrest] at hcount
    rw [hrest, List.takeWhile_cons_of_pos hd, List.length_cons, hcount]

end TakesDigits

/-- Digits are taken one by one, whatever has been taken before. -/
theorem exists_takeDigits_go (limit : Nat) (c : Cursor) (rest : List Char) (value taken : Nat)
    (place : Place) :
    ∃ extended count beyond c',
      takeDigits.go limit c value taken rest place = (.ok (extended, taken + count, beyond), c') ∧
        TakesDigits { c with rest, place } c' count beyond := by
  induction rest generalizing value taken place with
  | nil => exact ⟨value, 0, false, _, rfl, .none rfl⟩
  | cons d rest ih =>
    by_cases hd : d.isDigit = true
    · by_cases hlimit : value * 10 + digitValue d ≤ limit
      · obtain ⟨extended, count, beyond, c', hgo, htakes⟩ :=
          ih (value * 10 + digitValue d) (taken + 1) (place.after d)
        have hcount : taken + (count + 1) = taken + 1 + count := by omega
        refine ⟨extended, count + 1, beyond, c', ?_, htakes.cons rfl hd⟩
        rw [takeDigits.go, if_pos hd, if_pos hlimit, hcount]
        exact hgo
      · refine ⟨value, 0, true, _, ?_, .left (by simpa using hd)⟩
        rw [takeDigits.go, if_pos hd, if_neg hlimit]
        rfl
    · refine ⟨value, 0, false, _, ?_, .none (by simpa using hd)⟩
      rw [takeDigits.go, if_neg hd]
      rfl

/-- Digits can always be taken, as many as there are. -/
theorem exists_outcome_takeDigits (limit value : Nat) (c : Cursor) :
    ∃ extended count beyond c',
      (takeDigits limit value).outcome c = .ok ((extended, count, beyond), c') ∧
        TakesDigits c c' count beyond := by
  obtain ⟨extended, count, beyond, c', hgo, htakes⟩ :=
    exists_takeDigits_go limit c c.rest value 0 c.place
  refine ⟨extended, count, beyond, c', ?_, htakes⟩
  rw [Nat.zero_add] at hgo
  rw [outcome, takeDigits, hgo]

theorem skips_toDouble (n : Scaled) : Skips ((toDouble n).outcome c) (.ok ((), c)) := by
  rw [toDouble]
  split
  · exact .ok
  · rw [outcome_failHere]
    exact .limit (by decide)

/-- The digits of an exponent, after its sign. -/
def exponentDigits (n : Scaled) (upward : Bool) : Reader JsonNumber := do
  match ← look with
  | none => failHere .eofInValue
  | some c =>
    if c.isDigit then
      let (e, _, beyond) ← takeDigits exponentLimit 0
      if beyond then
        if n.significand ≠ 0 ∧ upward then failNext .numberOutOfRange
        else
          discard skipDigits
          return signed n.negative 0.0
      else
        toDouble { n with
          exponent := clampExponent (n.exponent + if upward then (e : Int) else -(e : Int)) }
    else failNext .invalidNumber

/-- The digits of a skipped exponent. -/
def skipExponentDigits : Reader Unit := do
  match ← look with
  | none => failHere .invalidNumber
  | some c => if c.isDigit then discard skipDigits else failNext .invalidNumber

/-- The digits of an exponent are taken to the last, whether they hold or not. -/
theorem skips_exponentDigits (n : Scaled) (upward : Bool) (c : Cursor) :
    Skips ((exponentDigits n upward).outcome c) (skipExponentDigits.outcome c) := by
  simp only [exponentDigits, skipExponentDigits, outcome_bind, outcome_look, ok_bind]
  cases c.rest.head? with
  | none => exact .error
  | some d =>
    by_cases hd : d.isDigit = true
    · obtain ⟨e, count, beyond, c', htake, htakes⟩ := exists_outcome_takeDigits exponentLimit 0 c
      simp only [hd, if_true, outcome_bind, htake, ok_bind, outcome_discard, outcome_skipDigits]
      cases beyond with
      | true =>
        by_cases hrange : n.significand ≠ 0 ∧ upward = true
        · rw [if_pos rfl, if_pos hrange, outcome_failNext]
          exact .limit (by decide)
        · simp only [hrange, if_true, if_false, outcome_bind, outcome_discard, outcome_skipDigits,
            ok_bind, htakes.skipWhile_eq]
          exact .ok
      | false =>
        rw [← htakes.reached rfl]
        exact skips_toDouble _
    · simp only [hd]
      exact .error

theorem skips_readExponent (n : Scaled) (c : Cursor) :
    Skips ((readExponent n).outcome c) (skipExponent.outcome c) := by
  simp only [readExponent, skipExponent, outcome_bind, outcome_step, outcome_look, ok_bind]
  split
  case h_1 hsign => rw [hsign, if_pos (.inl rfl)]; exact skips_exponentDigits n true _
  case h_2 hsign => rw [hsign, if_pos (.inr rfl)]; exact skips_exponentDigits n false _
  case h_3 hplus hminus =>
    rw [if_neg (by simpa using ⟨hplus, hminus⟩)]
    exact skips_exponentDigits n true _

/-- Where no point follows, there is only an exponent to skip. -/
theorem outcome_skipFraction_of_ne {c : Cursor} (h : c.rest.head? ≠ some '.') :
    skipFraction.outcome c =
      (if c.rest.head? = some 'e' ∨ c.rest.head? = some 'E' then skipExponent
      else pure ()).outcome c := by
  simp only [skipFraction, outcome_bind, outcome_look, ok_bind, h, if_false]

theorem skips_readAfterDigits (n : Scaled) (c : Cursor) :
    Skips ((readAfterDigits n).outcome c)
      ((if c.rest.head? = some 'e' ∨ c.rest.head? = some 'E' then skipExponent
      else pure ()).outcome c) := by
  simp only [readAfterDigits, outcome_bind, outcome_look, ok_bind]
  split
  case h_1 hletter => rw [hletter, if_pos (.inl rfl)]; exact skips_readExponent n c
  case h_2 hletter => rw [hletter, if_pos (.inr rfl)]; exact skips_readExponent n c
  case h_3 hlower hupper =>
    rw [if_neg (by simpa using ⟨hlower, hupper⟩)]
    exact skips_toDouble n

/-- A fraction that is read is skipped to the same position: there is a digit after the point, so
neither fails for want of one. -/
theorem skips_readFraction (n : Scaled) {c : Cursor} (hpoint : c.rest.head? = some '.') :
    Skips ((readFraction n).outcome c) (skipFraction.outcome c) := by
  obtain ⟨significand, count, beyond, c', htake, htakes⟩ :=
    exists_outcome_takeDigits significandLimit n.significand c.next
  simp only [readFraction, skipFraction, outcome_bind, outcome_step, outcome_look, ok_bind, hpoint,
    if_true, htake, outcome_skipDigits]
  cases beyond with
  | true =>
    have hdigit := htakes.digit_of_beyond rfl
    have hdigits : (c.next.rest.takeWhile Char.isDigit).length ≠ 0 := by
      cases hrest : c.next.rest with
      | nil => simp [hrest] at hdigit
      | cons d rest => simp [List.takeWhile_cons_of_pos (by simpa [hrest] using hdigit)]
    simpa [hdigits, htakes.skipWhile_eq] using skips_readAfterDigits _ _
  | false =>
    obtain rfl := htakes.reached rfl
    obtain rfl := htakes.count_eq rfl
    by_cases hdigits : (c.next.rest.takeWhile Char.isDigit).length = 0
    · simp only [hdigits, if_true, outcome_bind, outcome_look, ok_bind]
      exact .error
    · simpa [hdigits] using skips_readAfterDigits _ _

theorem skips_readAfterInteger (negative : Bool) (significand : Nat) (c : Cursor) :
    Skips ((readAfterInteger negative significand).outcome c) (skipFraction.outcome c) := by
  simp only [readAfterInteger, outcome_bind, outcome_look, ok_bind]
  split
  case h_1 hpoint => exact skips_readFraction _ hpoint
  case h_2 hletter =>
    simpa [skipFraction, hletter] using skips_readExponent _ c
  case h_3 hletter =>
    simpa [skipFraction, hletter] using skips_readExponent _ c
  case h_4 hpoint hlower hupper =>
    rw [outcome_skipFraction_of_ne hpoint, if_neg (by simpa using ⟨hlower, hupper⟩)]
    exact .ok

/-- A number that is read is skipped to the same position: no digit follows a leading zero. -/
theorem skips_readNumber (negative : Bool) (c : Cursor) :
    Skips ((readNumber negative).outcome c) (skipNumber.outcome c) := by
  simp only [readNumber, skipNumber, outcome_bind, outcome_look, ok_bind]
  cases hhead : c.rest.head? with
  | none => exact .error
  | some d =>
    by_cases hzero : d = '0'
    · subst hzero
      simp only [if_true, outcome_bind, outcome_step, outcome_look, ok_bind]
      cases c.next.rest.head? with
      | none => simpa using skips_readAfterInteger negative 0 _
      | some d =>
        by_cases hd : d.isDigit = true
        · simp only [hd, if_true, Option.any_some]
          exact .error
        · simpa [hd] using skips_readAfterInteger negative 0 _
    · by_cases hd : d.isDigit = true
      · obtain ⟨significand, count, beyond, c', htake, htakes⟩ :=
          exists_outcome_takeDigits significandLimit 0 c
        simp only [hzero, hd, if_true, if_false, outcome_bind, htake, ok_bind, outcome_discard,
          outcome_skipDigits]
        cases beyond with
        | false =>
          rw [← htakes.reached rfl]
          exact skips_readAfterInteger negative significand c'
        | true =>
          simp only [if_true, outcome_bind, outcome_skipDigits, outcome_look, ok_bind,
            htakes.skipWhile_eq]
          split
          case h_1 hpoint => exact skips_readFraction _ hpoint
          case h_2 hpoint =>
            rw [outcome_skipFraction_of_ne hpoint]
            exact skips_readAfterDigits _ _
      · simp only [hzero, hd, if_false]
        exact .error

theorem forward_skipDigits : Forward skipDigits :=
  forward_of_ok outcome_skipDigits fun c => c.skipWhile_spec.2

theorem forward_skipExponent : Forward skipExponent := by
  have hdigits : Forward skipExponentDigits := by
    refine forward_look.bind fun d? => ?_
    split
    · exact forward_failHere _
    · split
      · exact forward_skipDigits.bind fun _ => forward_pure _
      · exact forward_failNext _
  refine forward_step.bind fun _ => forward_look.bind fun d? => forward_look.bind fun e? => ?_
  split
  · exact forward_step.bind fun _ => hdigits
  · exact hdigits

theorem forward_skipFraction : Forward skipFraction := by
  have hexponent : Forward (do
      if (← look) = some 'e' ∨ (← look) = some 'E' then skipExponent) := by
    refine forward_look.bind fun d? => forward_look.bind fun e? => ?_
    split
    · exact forward_skipExponent
    · exact forward_pure _
  refine forward_look.bind fun d? => ?_
  split
  · refine forward_step.bind fun _ => forward_skipDigits.bind fun n => ?_
    split
    · exact (forward_failNext _).bind fun _ => hexponent
    · exact hexponent
  · exact hexponent

/-- A number takes at least one character. -/
theorem advances_of_skipNumber {u : Unit} (h : skipNumber.outcome c = .ok (u, c')) :
    c.Advances c' := by
  simp only [skipNumber, outcome_bind, outcome_look, ok_bind] at h
  cases hhead : c.rest.head? with
  | none => simp [hhead] at h
  | some d =>
    have hnext : c.Advances c.next := Cursor.advances_next hhead
    simp only [hhead] at h
    split at h
    · have hrest : Forward (do
          if (← look).any Char.isDigit then failNext .invalidNumber
          skipFraction) := by
        refine forward_look.bind fun e? => ?_
        split
        · exact (forward_failNext _).bind fun _ => forward_skipFraction
        · exact forward_skipFraction
      rw [outcome_bind, outcome_step, ok_bind] at h
      exact hnext.trans (hrest _ _ _ h)
    split at h
    case isTrue hd =>
      have hskip : c.skipWhile Char.isDigit = c.next.skipWhile Char.isDigit :=
        Cursor.skipWhile_next hhead hd
      simp only [outcome_bind, outcome_discard, outcome_skipDigits, ok_bind, hskip] at h
      have hdigits := hnext.trans (c.next.skipWhile_spec (p := Char.isDigit)).2
      exact hdigits.trans (forward_skipFraction _ _ _ h)
    · contradiction

end EntityModels.Reader
