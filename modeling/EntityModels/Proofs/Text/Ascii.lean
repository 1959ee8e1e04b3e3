import EntityModels.Text.Case
import EntityModels.Text.Cluster

/-!
Text within ASCII. Apart from a carriage return before a line feed each character stands for itself,
and case is a matter of single characters.
-/
namespace EntityModels.Text

variable {s : List Char} {c d : Char}

/-- Whether a character is among the first 128. -/
def isAscii (c : Char) : Bool := c.toNat < 128

/-- No two ASCII characters make one cluster, unless the first is a carriage return. -/
theorem joins_of_isAscii (before : List Char) (hc : isAscii c) (hd : isAscii d) (hr : c ≠ '\r') :
    joins (c :: before) d = false := by
  simp only [isAscii, decide_eq_true_eq] at hc hd
  simp [joins, hc, hd, hr]

/-- In ASCII text without carriage returns each character is a cluster of its own. -/
theorem clusters_of_isAscii (hs : ∀ c ∈ s, isAscii c ∧ c ≠ '\r') : clusters s = s.map ([·]) := by
  -- no character joins the one before it, whatever stands before that one
  suffices h : ∀ before, clustersAfter before s = s.map ([·]) from h []
  induction s with
  | nil => exact fun _ => rfl
  | cons c rest ih =>
    intro before
    obtain ⟨hc, hrest⟩ := List.forall_mem_cons.mp hs
    have htail := ih hrest (c :: before)
    cases rest with
    | nil => rfl
    | cons d rest =>
      have hjoins := joins_of_isAscii before hc.1 (hrest d (by simp)).1 hc.2
      rw [clustersAfter.eq_def]
      dsimp only
      rw [htail]
      simp [hjoins]

theorem upperChar_of_isAscii (hc : isAscii c) : upperChar c = [c.toUpper] := by
  simp only [isAscii, decide_eq_true_eq] at hc
  rw [upperChar, if_pos hc]

/-- What holds of the first 128 characters holds of every ASCII character. -/
theorem forall_of_isAscii {P : Char → Prop} (hall : ∀ n < 128, P (Char.ofNat n))
    (hc : isAscii c) : P c := by
  have h := hall c.toNat (of_decide_eq_true hc)
  rwa [Char.ofNat_toNat] at h

/-- A character up to an ASCII character is one, too. -/
theorem isAscii_of_le {last : Char} (hlast : isAscii last) (hle : c.val ≤ last.val) : isAscii c :=
  decide_eq_true (Nat.lt_of_le_of_lt (UInt32.le_iff_toNat_le.mp hle) (of_decide_eq_true hlast))

/-- The letters and the digits are three ranges of ASCII. -/
theorem isAscii_of_isAlphanum (hc : c.isAlphanum) : isAscii c := by
  rcases Bool.or_eq_true_iff.mp hc with halpha | hdigit
  · rcases Bool.or_eq_true_iff.mp halpha with hupper | hlower
    · have hle : c.val ≤ 'Z'.val := (of_decide_eq_true hupper).2
      exact isAscii_of_le (by decide) hle
    · have hle : c.val ≤ 'z'.val := of_decide_eq_true (Bool.and_eq_true_iff.mp hlower).2
      exact isAscii_of_le (by decide) hle
  · have hle : c.val ≤ '9'.val := of_decide_eq_true (Bool.and_eq_true_iff.mp hdigit).2
    exact isAscii_of_le (by decide) hle

/-- The upper case of an ASCII character decides its lower case. -/
theorem toLower_toUpper_of_isAscii (hc : isAscii c) : c.toUpper.toLower = c.toLower :=
  forall_of_isAscii (P := fun c => c.toUpper.toLower = c.toLower) (by decide) hc

/-- ASCII text has the lower case of its characters, since none of them looks at its neighbours. -/
theorem toLower_of_isAscii (hs : ∀ c ∈ s, isAscii c) : toLower s = s.map Char.toLower := by
  suffices h : ∀ before, lowerAfter before s = s.map Char.toLower from h []
  induction s with
  | nil => exact fun _ => rfl
  | cons c rest ih =>
    intro before
    obtain ⟨hc, hrest⟩ := List.forall_mem_cons.mp hs
    have hsigma : c ≠ 'Σ' := by
      rintro rfl
      exact absurd hc (by decide)
    simp only [isAscii, decide_eq_true_eq] at hc
    rw [lowerAfter, ih hrest, if_neg hsigma, lowerChar, if_pos hc, List.map_cons,
      List.singleton_append]

end EntityModels.Text
