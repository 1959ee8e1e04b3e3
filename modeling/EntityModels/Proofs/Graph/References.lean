import EntityModels.Proofs.Graph.Names
import EntityModels.Proofs.Naming.Words

/-!
The key of a reference. An identifier has no slash, no number sign and no full stop in it, so it is
its own key, and an entity is found under its own name.
-/
namespace EntityModels

namespace Reference

variable {text : List Char}

theorem tail_eq_self (h : '/' ∉ text) : tail text = text := by
  cases text with
  | nil => rfl
  | cons c rest =>
    obtain ⟨hc, hrest⟩ := not_or.mp (fun hmem => h (List.mem_cons.mpr hmem))
    rw [tail, if_neg hrest, if_neg fun heq => hc heq.symm]

theorem dropHash_eq_self (h : '#' ∉ text) : dropHash text = text := by
  unfold dropHash
  split
  · simp at h
  · rfl

theorem dropExtension_eq_self (h : '.' ∉ text) : dropExtension text = text := by
  have hsuffix : ¬extension.isSuffixOf text := by
    intro hsuffix
    exact h ((List.isSuffixOf_iff_suffix.mp hsuffix).mem (by decide))
  rw [dropExtension, if_neg hsuffix]

/-- A character that may not stand in identifiers is in none. -/
theorem notMem_of_isIdentifier {name : String} {c : Char} (h : Naming.isIdentifier name)
    (hc : Naming.isIdentifierPart c = false) : c ∉ name.toList := by
  obtain ⟨first, rest, heq, _, hparts⟩ := Naming.exists_of_isIdentifier h
  intro hmem
  have hpart := hparts c (heq ▸ hmem)
  simp [hc] at hpart

/-- An identifier is its own key. -/
theorem key_of_isIdentifier {name : String} (h : Naming.isIdentifier name) : key name = name := by
  rw [key, tail_eq_self (notMem_of_isIdentifier h (by decide)),
    dropHash_eq_self (notMem_of_isIdentifier h (by decide)),
    dropExtension_eq_self (notMem_of_isIdentifier h (by decide)), String.ofList_toList]

end Reference

/-- An entity is found under its own name. -/
theorem Graph.target?_name {g : Graph} {e : Entity} (he : e ∈ g.entities) :
    g.target? e.name = some e := by
  rw [target?, Reference.key_of_isIdentifier (wellNamed he).identifier]
  exact get?_eq_some_iff.mpr ⟨he, rfl⟩

end EntityModels
