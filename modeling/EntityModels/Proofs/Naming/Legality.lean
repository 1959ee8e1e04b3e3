import EntityModels.Naming.Generated
import EntityModels.Proofs.Naming.Words

/-!
Which generated names are identifiers. Cutting an identifier into words drops its underscores and
nothing else, so all that is generated from it may stand in an identifier. Without the underscores
in front, though, it may begin with a digit, or nothing of it may be left.
-/
namespace EntityModels.Naming

open EntityModels.Text

variable {c d : Char} {s name : String} {naming : Naming}

/-- An identifier without the underscores in front of it. -/
def stem (name : String) : List Char := name.toList.dropWhile (· = '_')

/-- Whether a letter follows the underscores in front of a name. -/
def leadsWithLetter (name : String) : Bool := (stem name).head?.any Char.isAlpha

theorem ne_underscore_of_stem {rest : List Char} (h : stem name = c :: rest) : c ≠ '_' := by
  have hhead := List.head?_dropWhile_not (fun x : Char => decide (x = '_')) name.toList
  rw [← stem, h] at hhead
  simpa using hhead

theorem toUpper_of_not_isAlpha (h : ¬c.isAlpha) : c.toUpper = c := by
  have hlower : ¬c.isLower := (not_or.mp (mt Bool.or_eq_true_iff.mpr h)).2
  refine dif_neg fun ⟨hfirst, hlast⟩ => hlower ?_
  exact Bool.and_eq_true_iff.mpr ⟨decide_eq_true hfirst, decide_eq_true hlast⟩

theorem toLower_of_not_isAlpha (h : ¬c.isAlpha) : c.toLower = c := by
  have hupper : ¬c.isUpper := (not_or.mp (mt Bool.or_eq_true_iff.mpr h)).1
  exact dif_neg fun hrange => hupper (decide_eq_true hrange)

/-- Letters are ASCII: what holds of all characters below 128 holds of a letter. -/
theorem isAscii_of_isAlpha (h : c.isAlpha) : isAscii c :=
  isAscii_of_isAlphanum (Bool.or_eq_true_iff.mpr (.inl h))

theorem isIdentifierStart_toUpper (c : Char) :
    isIdentifierStart c.toUpper = isIdentifierStart c := by
  by_cases h : c.isAlpha
  · exact forall_of_isAscii (P := fun c => isIdentifierStart c.toUpper = isIdentifierStart c)
      (by decide) (isAscii_of_isAlpha h)
  · rw [toUpper_of_not_isAlpha h]

theorem isIdentifierStart_toLower (c : Char) :
    isIdentifierStart c.toLower = isIdentifierStart c := by
  by_cases h : c.isAlpha
  · exact forall_of_isAscii (P := fun c => isIdentifierStart c.toLower = isIdentifierStart c)
      (by decide) (isAscii_of_isAlpha h)
  · rw [toLower_of_not_isAlpha h]

/-- The upper case of a character of identifiers is one of them, too. -/
theorem isIdentifierPart_toUpper (h : isIdentifierPart c) : isIdentifierPart c.toUpper :=
  forall_of_isAscii (P := fun c => isIdentifierPart c → isIdentifierPart c.toUpper) (by decide)
    (isAscii_of_isIdentifierPart h).1 h

theorem isIdentifierPart_toLower (h : isIdentifierPart c) : isIdentifierPart c.toLower :=
  forall_of_isAscii (P := fun c => isIdentifierPart c → isIdentifierPart c.toLower) (by decide)
    (isAscii_of_isIdentifierPart h).1 h

/-- Among texts of such characters the first one decides. -/
theorem isIdentifier_eq_any_head? (h : ∀ d ∈ s.toList, isIdentifierPart d) :
    isIdentifier s = s.toList.head?.any isIdentifierStart := by
  unfold isIdentifier
  cases hs : s.toList with
  | nil => rfl
  | cons c rest =>
    rw [hs] at h
    have hrest : rest.all isIdentifierPart = true :=
      List.all_eq_true.mpr fun d hd => h d (List.mem_cons_of_mem c hd)
    simp [hrest]

theorem isIdentifierPart_of_mem (h : isIdentifier s) (hd : d ∈ s.toList) : isIdentifierPart d := by
  obtain ⟨c, rest, heq, _, hparts⟩ := exists_of_isIdentifier h
  exact hparts d (heq ▸ hd)

theorem ne_empty_of_isIdentifier (h : isIdentifier s) : s ≠ "" := by
  rintro rfl
  exact absurd h (by decide)

/-- An identifier may go on with anything that may stand in one. -/
theorem isIdentifier_append {first : String} (hfirst : isIdentifier first)
    (h : ∀ d ∈ s.toList, isIdentifierPart d) : isIdentifier (first ++ s) := by
  obtain ⟨c, rest, heq, hstart, hparts⟩ := exists_of_isIdentifier hfirst
  have hall : ∀ d ∈ (first ++ s).toList, isIdentifierPart d := by
    intro d hd
    rw [String.toList_append, List.mem_append] at hd
    rcases hd with hd | hd
    · exact isIdentifierPart_of_mem hfirst hd
    · exact h d hd
  rw [isIdentifier_eq_any_head? hall, String.toList_append, heq]
  simpa using hstart

theorem isIdentifierPart_of_mem_capitalized {word : List Cluster}
    (h : ∀ d ∈ word.flatten, isIdentifierPart d) (hd : d ∈ capitalized word) :
    isIdentifierPart d := by
  unfold capitalized at hd
  split at hd
  · simp at hd
  · rename_i c rest heq
    rw [heq, List.forall_mem_cons] at h
    obtain ⟨hc, hrest⟩ := h
    have hascii : ∀ x ∈ rest, isAscii x := fun x hx => (isAscii_of_isIdentifierPart (hrest x hx)).1
    rw [upperChar_of_isAscii (isAscii_of_isIdentifierPart hc).1, toLower_of_isAscii hascii,
      List.singleton_append, List.mem_cons, List.mem_map] at hd
    rcases hd with rfl | ⟨x, hx, rfl⟩
    · exact isIdentifierPart_toUpper hc
    · exact isIdentifierPart_toLower (hrest x hx)

/-- The Pascal case of an identifier has only characters that may stand in one. -/
theorem isIdentifierPart_of_mem_pascalCase (h : isIdentifier name)
    (hd : d ∈ (pascalCase name).toList) : isIdentifierPart d := by
  rw [pascalCase, String.toList_ofList, joinPascal, List.mem_flatMap, words_of_isIdentifier h] at hd
  obtain ⟨word, hword, hd⟩ := hd
  refine isIdentifierPart_of_mem_capitalized (fun x hx => ?_) hd
  exact isIdentifierPart_of_mem h (mem_of_mem_flatten hword hx)

/-- Each underscore in front of a name only puts an empty word in front of its words. -/
theorem joinPascal_wordsOf_dropWhile (cs : List Char) :
    joinPascal (wordsOf (cs.map ([·]))) =
      joinPascal (wordsOf ((cs.dropWhile (· = '_')).map ([·]))) := by
  induction cs with
  | nil => rfl
  | cons c rest ih =>
    by_cases hc : c = '_'
    · rw [List.dropWhile_cons_of_pos (by simpa using hc), ← ih, hc, List.map_cons,
        wordsOf_of_separator (by decide)]
      rfl
    · rw [List.dropWhile_cons_of_neg (by simpa using hc)]

/-- The Pascal case begins with the first character of the stem, in upper case. -/
theorem head?_pascalCase (h : isIdentifier name) :
    (pascalCase name).toList.head? = (stem name).head?.map Char.toUpper := by
  rw [pascalCase, String.toList_ofList, words_of_isIdentifier h, joinPascal_wordsOf_dropWhile,
    ← stem]
  cases hstem : stem name with
  | nil => rfl
  | cons c rest =>
    have hc : isIdentifierPart c := by
      refine isIdentifierPart_of_mem h ((List.dropWhile_sublist (· = '_')).subset ?_)
      rw [← stem, hstem]
      exact List.mem_cons_self
    have hseparator : isSeparator [c] = false := by
      rw [Bool.eq_false_iff, ne_eq, isSeparator_iff_of_isIdentifierPart hc]
      exact ne_underscore_of_stem hstem
    obtain ⟨word, more, hwords⟩ := exists_wordsOf_cons hseparator (rest.map ([·]))
    rw [List.map_cons, hwords, joinPascal, List.flatMap_cons, capitalized, List.flatten_cons]
    dsimp only [List.singleton_append]
    rw [upperChar_of_isAscii (isAscii_of_isIdentifierPart hc).1]
    rfl

/-- Nothing is left of an identifier in Pascal case when it is made of underscores alone. -/
theorem pascalCase_eq_empty_iff (h : isIdentifier name) :
    pascalCase name = "" ↔ stem name = [] := by
  rw [← String.toList_eq_nil_iff, ← List.head?_eq_none_iff, head?_pascalCase h,
    Option.map_eq_none_iff, List.head?_eq_none_iff]

/-- The Pascal case is an identifier exactly when a letter follows the underscores in front. -/
theorem isIdentifier_pascalCase (h : isIdentifier name) :
    isIdentifier (pascalCase name) = leadsWithLetter name := by
  rw [isIdentifier_eq_any_head? fun d hd => isIdentifierPart_of_mem_pascalCase h hd,
    head?_pascalCase h, leadsWithLetter]
  cases hstem : stem name with
  | nil => rfl
  | cons c rest =>
    have hc : isIdentifierStart c = c.isAlpha := by
      simp [isIdentifierStart, ne_underscore_of_stem hstem]
    rw [List.head?_cons, Option.map_some, Option.any_some, Option.any_some,
      isIdentifierStart_toUpper, hc]

/-- The camel case is an identifier exactly when the Pascal case is: the two differ in the case of
the first letter only. -/
theorem isIdentifier_camelCase (h : isIdentifier name) :
    isIdentifier (camelCase name) = leadsWithLetter name := by
  rw [← isIdentifier_pascalCase h]
  cases hlead : hasLeadingUnderscore name with
  | true => rw [camelCase_of_underscore h hlead]
  | false =>
    obtain ⟨c, tail, _, hpascal, hcamel⟩ := exists_case_tail h hlead
    simp [hpascal, hcamel, isIdentifier, isIdentifierStart_toUpper, isIdentifierStart_toLower]

/-- With an identifier as prefix a class name is one, and without a prefix when a letter leads. -/
theorem isIdentifier_className_iff (hlegal : ∀ p, naming.classPrefix = some p → isIdentifier p)
    (h : isIdentifier name) :
    isIdentifier (naming.className name) ↔
      naming.classPrefix.isSome ∨ leadsWithLetter name := by
  rw [className]
  cases hp : naming.classPrefix with
  | none => simp [isIdentifier_pascalCase h]
  | some p =>
    simp only [Option.getD_some, Option.isSome_some, true_or, iff_true]
    exact isIdentifier_append (hlegal p hp) fun d hd => isIdentifierPart_of_mem_pascalCase h hd

/-- A class has no name when there is no prefix and the entity is named by underscores alone. -/
theorem className_eq_empty_iff (hlegal : ∀ p, naming.classPrefix = some p → isIdentifier p)
    (h : isIdentifier name) :
    naming.className name = "" ↔ naming.classPrefix = none ∧ stem name = [] := by
  rw [className, String.append_eq_empty_iff, pascalCase_eq_empty_iff h]
  refine and_congr_left fun _ => ?_
  cases hp : naming.classPrefix with
  | none => simp
  | some p => simpa using ne_empty_of_isIdentifier (hlegal p hp)

end EntityModels.Naming
