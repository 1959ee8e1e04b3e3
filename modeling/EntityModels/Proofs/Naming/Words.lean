import EntityModels.Naming.Identifier
import EntityModels.Naming.Words
import EntityModels.Proofs.Text.Ascii

/-!
The two cases of an identifier. Camel case and Pascal case differ only in the first word, and there
only in the first letter; before an underscore the first word is empty and they do not differ at
all.
-/
namespace EntityModels.Naming

open EntityModels.Text

variable {x : Cluster} {rest : List Cluster} {name : String}

theorem mem_of_mem_consWord {y : Cluster} {word : List Cluster} {ws : List (List Cluster)}
    (hword : word ∈ consWord x ws) (hy : y ∈ word) : y = x ∨ ∃ w ∈ ws, y ∈ w := by
  cases ws with
  | nil =>
    rw [consWord, List.mem_singleton] at hword
    rw [hword, List.mem_singleton] at hy
    exact .inl hy
  | cons first more =>
    rw [consWord, List.mem_cons] at hword
    rcases hword with rfl | hword
    · rcases List.mem_cons.mp hy with hy | hy
      · exact .inl hy
      · exact .inr ⟨first, by simp, hy⟩
    · exact .inr ⟨word, by simp [hword], hy⟩

/-- The words of a text consist of its clusters. -/
theorem mem_of_mem_wordsOf {xs : List Cluster} {y : Cluster} {word : List Cluster}
    (hword : word ∈ wordsOf xs) (hy : y ∈ word) : y ∈ xs := by
  induction xs generalizing word with
  | nil =>
    rw [wordsOf, List.mem_singleton] at hword
    simp [hword] at hy
  | cons x rest ih =>
    unfold wordsOf at hword
    split at hword
    · rcases List.mem_cons.mp hword with rfl | hword
      · simp at hy
      · exact List.mem_cons_of_mem x (ih hword hy)
    · split at hword
      · rcases List.mem_cons.mp hword with rfl | hword
        · simp [List.mem_singleton.mp hy]
        · exact List.mem_cons_of_mem x (ih hword hy)
      · rcases mem_of_mem_consWord hword hy with rfl | ⟨w, hw, hyw⟩
        · exact List.mem_cons_self
        · exact List.mem_cons_of_mem x (ih hw hyw)

theorem mem_of_mem_flatten {cs : List Char} {d : Char} {word : List Cluster}
    (hword : word ∈ wordsOf (cs.map ([·]))) (hd : d ∈ word.flatten) : d ∈ cs := by
  obtain ⟨y, hy, hdy⟩ := List.mem_flatten.mp hd
  obtain ⟨c, hc, rfl⟩ := List.mem_map.mp (mem_of_mem_wordsOf hword hy)
  rwa [List.mem_singleton.mp hdy]

/-- A separator ends a word, and a leading one leaves an empty word in front. -/
theorem wordsOf_of_separator (hx : isSeparator x) : wordsOf (x :: rest) = [] :: wordsOf rest := by
  rw [wordsOf, if_pos hx]

/-- A name that does not begin with a separator begins its first word. -/
theorem exists_wordsOf_cons (hx : isSeparator x = false) (rest : List Cluster) :
    ∃ word more, wordsOf (x :: rest) = (x :: word) :: more := by
  rw [wordsOf, if_neg (by simp [hx])]
  split
  · exact ⟨[], wordsOf rest, rfl⟩
  · cases wordsOf rest with
    | nil => exact ⟨[], [], rfl⟩
    | cons word more => exact ⟨word, more, rfl⟩

/-- Whether a name begins with an underscore. -/
def hasLeadingUnderscore (name : String) : Bool := name.toList.head? = some '_'

/-- Identifiers are ASCII text without carriage returns. -/
theorem isAscii_of_isIdentifierPart {c : Char} (hc : isIdentifierPart c) :
    isAscii c ∧ c ≠ '\r' := by
  constructor
  · rcases Bool.or_eq_true_iff.mp hc with halnum | hunderscore
    · exact isAscii_of_isAlphanum halnum
    · rw [of_decide_eq_true hunderscore]
      decide
  · rintro rfl
    exact absurd hc (by decide)

theorem isSeparator_iff_of_isIdentifierPart {c : Char} (hc : isIdentifierPart c) :
    isSeparator [c] ↔ c = '_' := by
  constructor
  · intro h
    simp only [isSeparator, Bool.or_eq_true, decide_eq_true_eq, List.cons.injEq, and_true] at h
    rcases h with (h | rfl) | rfl
    · exact h
    · exact absurd hc (by decide)
    · exact absurd hc (by decide)
  · rintro rfl
    decide

/-- An identifier has a first character, with which an identifier may begin, and only characters
that may stand in one. -/
theorem exists_of_isIdentifier (h : isIdentifier name) :
    ∃ c rest, name.toList = c :: rest ∧ isIdentifierStart c ∧
      ∀ d ∈ c :: rest, isIdentifierPart d := by
  unfold isIdentifier at h
  split at h
  · simp at h
  · rename_i c rest heq
    obtain ⟨hstart, hrest⟩ := Bool.and_eq_true_iff.mp h
    refine ⟨c, rest, heq, hstart, List.forall_mem_cons.mpr ⟨?_, List.all_eq_true.mp hrest⟩⟩
    -- what may begin an identifier may stand in it
    simp only [isIdentifierStart, isIdentifierPart, Char.isAlphanum, Bool.or_eq_true] at hstart ⊢
    rcases hstart with halpha | hunderscore
    · exact .inl (.inl halpha)
    · exact .inr hunderscore

/-- An identifier is cut into words character by character. -/
theorem words_of_isIdentifier (h : isIdentifier name) :
    words name = wordsOf (name.toList.map ([·])) := by
  obtain ⟨c, rest, heq, _, hparts⟩ := exists_of_isIdentifier h
  rw [words, heq, clusters_of_isAscii fun d hd => isAscii_of_isIdentifierPart (hparts d hd)]

/-- Behind an underscore the first word is empty, so that every word that counts is capitalized in
both cases. -/
theorem camelCase_of_underscore (h : isIdentifier name) (hu : hasLeadingUnderscore name) :
    camelCase name = pascalCase name := by
  obtain ⟨c, rest, heq, _⟩ := exists_of_isIdentifier h
  obtain rfl : c = '_' := by simpa [hasLeadingUnderscore, heq] using hu
  rw [camelCase, pascalCase, words_of_isIdentifier h, heq, List.map_cons,
    wordsOf_of_separator (by decide)]
  rfl

/-- An identifier that begins with a letter keeps it, in upper or in lower case, and is the same in
both cases after it. -/
theorem exists_case_tail (h : isIdentifier name) (hu : hasLeadingUnderscore name = false) :
    ∃ (c : Char) (tail : List Char), isAscii c ∧
      pascalCase name = String.ofList (c.toUpper :: tail) ∧
      camelCase name = String.ofList (c.toLower :: tail) := by
  obtain ⟨c, rest, heq, _, hparts⟩ := exists_of_isIdentifier h
  have hne : c ≠ '_' := by
    rintro rfl
    simp [hasLeadingUnderscore, heq] at hu
  have hseparator : isSeparator [c] = false := by
    rw [Bool.eq_false_iff, ne_eq, isSeparator_iff_of_isIdentifierPart (hparts c (by simp))]
    exact hne
  obtain ⟨word, more, hwords⟩ := exists_wordsOf_cons hseparator (rest.map ([·]))
  -- the first word is ASCII, so both cases treat alike what follows its first letter
  have hascii : ∀ d ∈ c :: word.flatten, isAscii d := by
    intro d hd
    have hfirst : [c] :: word ∈ wordsOf ((c :: rest).map ([·])) := by
      rw [List.map_cons, hwords]
      exact List.mem_cons_self
    exact (isAscii_of_isIdentifierPart (hparts d (mem_of_mem_flatten hfirst hd))).1
  obtain ⟨hc, hword⟩ := List.forall_mem_cons.mp hascii
  refine ⟨c, word.flatten.map Char.toLower ++ joinPascal more, hc, ?_, ?_⟩
  · rw [pascalCase, words_of_isIdentifier h, heq, List.map_cons, hwords, joinPascal,
      List.flatMap_cons, capitalized, List.flatten_cons]
    dsimp only [List.singleton_append]
    rw [upperChar_of_isAscii hc, toLower_of_isAscii hword]
    rfl
  · rw [camelCase, words_of_isIdentifier h, heq, List.map_cons, hwords, joinCamel,
      List.flatten_cons, List.singleton_append, toLower_of_isAscii hascii]
    rfl

/-- Two identifiers of one Pascal case that begin alike, with a letter or with an underscore, have
one camel case. -/
theorem camelCase_eq_of_pascalCase_eq {name' : String} (h : isIdentifier name)
    (h' : isIdentifier name') (hu : hasLeadingUnderscore name = hasLeadingUnderscore name')
    (heq : pascalCase name = pascalCase name') : camelCase name = camelCase name' := by
  cases hlead : hasLeadingUnderscore name with
  | true =>
    rw [camelCase_of_underscore h hlead, camelCase_of_underscore h' (hu ▸ hlead), heq]
  | false =>
    obtain ⟨c, tail, hc, hpascal, hcamel⟩ := exists_case_tail h hlead
    obtain ⟨c', tail', hc', hpascal', hcamel'⟩ := exists_case_tail h' (hu ▸ hlead)
    rw [hpascal, hpascal', String.ofList_inj, List.cons.injEq] at heq
    obtain ⟨hfirst, rfl⟩ := heq
    have hlower : c.toLower = c'.toLower := by
      rw [← toLower_toUpper_of_isAscii hc, hfirst, toLower_toUpper_of_isAscii hc']
    rw [hcamel, hcamel', hlower]

end EntityModels.Naming
