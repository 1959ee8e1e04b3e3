import EntityModels.Proofs.Graph.Ancestry
import EntityModels.Proofs.Graph.References

/-!
The texts that refer to an entity. A reference is taken apart from both ends, by its last slash, one
number sign and one extension; identifiers have none of these characters, so the texts that lead to
one are exactly those put together from these parts.
-/
namespace EntityModels

namespace Reference

variable {text path mark ending : List Char}

/-- A path in front of a name: nothing, or a text that ends in a slash. -/
def IsPath (path : List Char) : Prop := path = [] ∨ ∃ folder, path = folder ++ ['/']

/-- The texts that refer to a name: a path, a number sign, the name and the extension, of which all
but the name may be missing. -/
def Spells (name reference : String) : Prop :=
  ∃ path mark ending : String, (path = "" ∨ ∃ folder, path = folder ++ "/") ∧
    (mark = "" ∨ mark = "#") ∧ (ending = "" ∨ ending = ".json") ∧
    reference = path ++ mark ++ name ++ ending

theorem slash_notMem_tail (text : List Char) : '/' ∉ tail text := by
  induction text with
  | nil => simp [tail]
  | cons c rest ih =>
    unfold tail
    split
    · exact ih
    · rename_i hrest
      split
      · exact hrest
      · rename_i hc
        simpa [hrest] using fun heq => hc heq.symm

/-- A text is its last part behind a path. -/
theorem exists_path (text : List Char) : ∃ path, IsPath path ∧ text = path ++ tail text := by
  induction text with
  | nil => exact ⟨[], .inl rfl, rfl⟩
  | cons c rest ih =>
    by_cases hslash : '/' ∈ rest
    · obtain ⟨path, hpath, hrest⟩ := ih
      refine ⟨c :: path, ?_, by rw [tail, if_pos hslash, List.cons_append, ← hrest]⟩
      rcases hpath with rfl | ⟨folder, rfl⟩
      · rw [List.nil_append] at hrest
        exact absurd (hrest ▸ hslash) (slash_notMem_tail rest)
      · exact .inr ⟨c :: folder, rfl⟩
    · by_cases hc : c = '/'
      · exact ⟨['/'], .inr ⟨[], rfl⟩, by rw [tail, if_neg hslash, if_pos hc, hc]; rfl⟩
      · exact ⟨[], .inl rfl, by rw [tail, if_neg hslash, if_neg hc]; rfl⟩

theorem exists_mark (text : List Char) :
    ∃ mark, (mark = [] ∨ mark = ['#']) ∧ text = mark ++ dropHash text := by
  unfold dropHash
  split
  · exact ⟨['#'], .inr rfl, rfl⟩
  · exact ⟨[], .inl rfl, rfl⟩

theorem exists_ending (text : List Char) :
    ∃ ending, (ending = [] ∨ ending = extension) ∧ text = dropExtension text ++ ending := by
  unfold dropExtension
  split
  · rename_i h
    obtain ⟨name, rfl⟩ := List.isSuffixOf_iff_suffix.mp h
    exact ⟨extension, .inr rfl, by simp⟩
  · exact ⟨[], .inl rfl, by simp⟩

/-- A path in front of a text without slashes is cut off again. -/
theorem tail_append (hpath : IsPath path) (h : '/' ∉ text) : tail (path ++ text) = text := by
  rcases hpath with rfl | ⟨folder, rfl⟩
  · exact tail_eq_self h
  · induction folder with
    | nil => simp [tail, h]
    | cons c folder ih =>
      have hslash : '/' ∈ folder ++ ['/'] ++ text := by simp
      rw [List.cons_append, List.cons_append, tail, if_pos hslash, ih]

theorem dropHash_append (hmark : mark = [] ∨ mark = ['#']) (h : '#' ∉ text) :
    dropHash (mark ++ text) = text := by
  rcases hmark with rfl | rfl
  · exact dropHash_eq_self h
  · rfl

theorem dropExtension_append (hending : ending = [] ∨ ending = extension) (h : '.' ∉ text) :
    dropExtension (text ++ ending) = text := by
  rcases hending with rfl | rfl
  · rw [List.append_nil, dropExtension_eq_self h]
  · have hsuffix : extension.isSuffixOf (text ++ extension) :=
      List.isSuffixOf_iff_suffix.mpr (List.suffix_append text extension)
    rw [dropExtension, if_pos hsuffix]
    simp

/-- Every reference spells its own key. -/
theorem spells_key (reference : String) : Spells (key reference) reference := by
  obtain ⟨path, hpath, hreference⟩ := exists_path reference.toList
  obtain ⟨mark, hmark, htail⟩ := exists_mark (tail reference.toList)
  obtain ⟨ending, hending, hname⟩ := exists_ending (dropHash (tail reference.toList))
  refine ⟨.ofList path, .ofList mark, .ofList ending, ?_, ?_, ?_, ?_⟩
  · rcases hpath with rfl | ⟨folder, rfl⟩
    · exact .inl rfl
    · exact .inr ⟨.ofList folder, String.ofList_append⟩
  · rcases hmark with rfl | rfl
    · exact .inl rfl
    · exact .inr rfl
  · rcases hending with rfl | rfl
    · exact .inl rfl
    · exact .inr rfl
  · rw [key, ← String.ofList_append, ← String.ofList_append, ← String.ofList_append,
      List.append_assoc, List.append_assoc, ← hname, ← htail, ← hreference, String.ofList_toList]

/-- A spelling of an identifier has that identifier as its key: neither the sign nor the extension
has a character at which the other parts are cut. -/
theorem key_of_spells {name reference : String} (hname : Naming.isIdentifier name)
    (h : Spells name reference) : key reference = name := by
  obtain ⟨path, mark, ending, hpath, hmark, hending, rfl⟩ := h
  have hslash := notMem_of_isIdentifier (c := '/') hname (by decide)
  have hhash := notMem_of_isIdentifier (c := '#') hname (by decide)
  have hstop := notMem_of_isIdentifier (c := '.') hname (by decide)
  have hmarkSlash : '/' ∉ mark.toList := by rcases hmark with rfl | rfl <;> decide
  have hendingSlash : '/' ∉ ending.toList := by rcases hending with rfl | rfl <;> decide
  have hendingHash : '#' ∉ ending.toList := by rcases hending with rfl | rfl <;> decide
  have hpath' : IsPath path.toList := by
    rcases hpath with rfl | ⟨folder, rfl⟩
    · exact .inl rfl
    · exact .inr ⟨folder.toList, String.toList_append⟩
  have hmark' : mark.toList = [] ∨ mark.toList = ['#'] := by
    rcases hmark with rfl | rfl
    · exact .inl rfl
    · exact .inr rfl
  have hending' : ending.toList = [] ∨ ending.toList = extension := by
    rcases hending with rfl | rfl
    · exact .inl rfl
    · exact .inr rfl
  rw [key, String.toList_append, String.toList_append, String.toList_append, List.append_assoc,
    List.append_assoc, tail_append hpath' (by simp [hmarkSlash, hslash, hendingSlash]),
    dropHash_append hmark' (by simp [hhash, hendingHash]), dropExtension_append hending' hstop,
    String.ofList_toList]

/-- The texts with an identifier as their key are those that refer to it. -/
theorem key_eq_iff {name reference : String} (hname : Naming.isIdentifier name) :
    key reference = name ↔ Spells name reference := by
  refine ⟨?_, key_of_spells hname⟩
  rintro rfl
  exact spells_key reference

end Reference

namespace Graph

variable {g : Graph}

/-- A reference leads to the entities whose names it spells. -/
theorem target?_eq_some_iff {reference : String} {e : Entity} :
    g.target? reference = some e ↔ e ∈ g.entities ∧ Reference.Spells e.name reference := by
  rw [target?, get?_eq_some_iff, eq_comm]
  exact and_congr_right fun he => Reference.key_eq_iff (wellNamed he).identifier

theorem target?_eq_none_iff {reference : String} :
    g.target? reference = none ↔ ∀ e ∈ g.entities, ¬Reference.Spells e.name reference := by
  rw [Option.eq_none_iff_forall_ne_some]
  simp only [ne_eq, target?_eq_some_iff, not_and]

theorem resolve_eq_ok_iff {reference : String} {e : Entity} :
    g.resolve reference = .ok e ↔ g.target? reference = some e := by
  unfold resolve
  cases g.target? reference <;> simp

/-- Which texts refer to which entity, in references and in parents. -/
structure ResolutionExact (g : Graph) : Prop where
  resolves : ∀ reference e, g.resolve reference = .ok e ↔
    e ∈ g.entities ∧ Reference.Spells e.name reference
  /-- A reference that spells no name of the graph fails with itself. -/
  unresolved : ∀ reference fault, g.resolve reference = .error fault ↔
    (∀ e ∈ g.entities, ¬Reference.Spells e.name reference) ∧ fault = ⟨reference⟩
  /-- Every turn of a walk goes on to the entity that the text of the parent spells. -/
  parent : ∀ start above cursor reference, cursor.parent = some reference →
    ∀ e ∈ g.entities, Reference.Spells e.name reference →
    e.name ≠ start.name → e.name ∉ above.map (·.name) →
    g.climb start above cursor = g.climb start (e :: above) e
  unknownParent : ∀ start above cursor reference, cursor.parent = some reference →
    (∀ e ∈ g.entities, ¬Reference.Spells e.name reference) →
    g.climb start above cursor = .error (.unknownParent cursor.name reference)
  ownParent : ∀ e ∈ g.entities, ∀ reference, e.parent = some reference →
    Reference.Spells e.name reference →
    g.ancestors e = .error (.cyclicChain e.name [e.name, e.name])

/-- Whether and where a reference leads is a matter of how it is spelled, in references and in
parents alike. -/
theorem resolution_exact (g : Graph) : g.ResolutionExact := by
  refine ⟨fun _ _ => ?_, fun _ _ => ?_, ?_, ?_, ?_⟩
  · rw [resolve_eq_ok_iff, target?_eq_some_iff]
  · rw [resolve_eq_error_iff, target?_eq_none_iff]
  · intro start above cursor reference hreference e he hspells hstart habove
    have htarget := target?_eq_some_iff.mpr ⟨he, hspells⟩
    rw [climb_of_parent_eq_some hreference, htarget]
    exact if_neg (not_or.mpr ⟨hstart, habove⟩)
  · intro start above cursor reference hreference hnone
    rw [climb_of_parent_eq_some hreference, target?_eq_none_iff.mpr hnone]
  · intro e he reference hreference hspells
    have htarget := target?_eq_some_iff.mpr ⟨he, hspells⟩
    rw [ancestors, climb_of_parent_eq_some hreference, htarget]
    exact if_pos (.inl rfl)

end Graph

end EntityModels
