import EntityModels.Proofs.Document.Decoding
import EntityModels.Proofs.Document.Forms
import EntityModels.Proofs.Json.Views

/-!
Reading a document straight off a text is reading the value there and decoding it as it stands: both
reach the same position with the same entries, or both fail. Only where the value is not read for
going beyond a limit may there be entries nonetheless, when what goes beyond it is skipped.
-/
namespace EntityModels

open Reader Decoded

variable {α : Type} {levels : Nat} {skipped skipped' : List PathStep → Prop}

/-- Read as a text, a value is seen when it is one. -/
theorem sees_readText :
    Sees skipped (fun value => (decodeText value).toOption) levels readText := by
  intro c hc
  simp only [readText, outcome_bind, outcome_lookToken, ok_bind]
  by_cases hquote : c.token.rest.head? = some '"'
  · rw [readValue_text levels hquote]
    simp only [hquote, if_true, outcome_bind, outcome_step, ok_bind]
    rcases readString.outcome c.token.next with _ | ⟨text, c'⟩
    · exact .error
    · exact .ok rfl
  · apply Agrees.of_fails
    · simp only [hquote, if_false, outcome_bind, outcome_look, ok_bind]
      split
      · rfl
      · exact fails_wrongType _ _
    · intro value c' hvalue
      have hopening := opening?_of_readValue hvalue (d := '"') (by simp)
      cases value with
      | string text => exact absurd (hopening.mp rfl) hquote
      | _ => rfl

/-- Read as a list, a value is seen when it is one and each item is seen in its place. -/
theorem sees_readSequence {decode : Json → Option α} {item : Nat → Reader α}
    (h : ∀ levels, Sees skipped decode levels (item levels))
    (hskipped : ∀ index path, skipped path → skipped' (.index index :: path)) (levels : Nat) :
    Sees skipped' (decodeItems decode) levels (readSequence item levels) := by
  apply sees_readEither
  · intro value hlist _
    cases value with
    | array items => exact absurd rfl hlist
    | _ => rfl
  · intro levels c hc
    have hitems := sees_readItems (h levels) hskipped (c.bound + 1) 0 hc
    simp only [listItems, loopBound, outcome_bind, outcome_get, ok_bind, outcome_pure]
    apply hitems.bind
    · intro items results c' _ hseen
      dsimp only
      rcases endList.outcome c' with _ | ⟨_, c''⟩
      · exact .error
      · exact .ok hseen
    · intro items c' items' c'' _ hseen hend
      obtain ⟨-, rfl⟩ := by simpa [bind_eq_ok_iff] using hend
      exact hseen
  · intro members
    rfl

/-- The paths into a value that is read whole. -/
def nowhere (_ : List PathStep) : Prop := False

theorem nowhere_imp {pathStep : PathStep} (path : List PathStep) (h : nowhere path) :
    skipped (pathStep :: path) :=
  h.elim

/-- The reader reads what `decode` gives for the value at the position, and fails where it does. -/
def Reads (skipped : List PathStep → Prop) (decode : Json → Decoded α) (levels : Nat)
    (reader : Reader α) : Prop :=
  Sees skipped (fun value => (decode value).toOption) levels reader

theorem reads_requiredText : Reads nowhere requiredText levels readText := by
  simpa only [Reads, requiredText, toOption_ofExcept] using sees_readText

theorem reads_optionalText : Reads nowhere optionalText levels (readOptional readText) := by
  intro c hc
  refine (sees_readOptional sees_readText c hc).congr fun value c' _ => ?_
  rw [optionalText, toOption_ofExcept]
  cases value <;> rfl

/-- The shape of the values under undeclared keys is read whole and then decoded. -/
theorem reads_additional (levels : Nat) :
    Reads nowhere optionalAdditional levels (readAdditional levels) := by
  have hadditional : Sees nowhere (fun value => (Additional.ofJson? value).toOption) levels
      (do Reader.ofExcept (Additional.ofJson? (← readValue levels))) := by
    intro c hc
    rw [outcome_bind]
    rcases (readValue levels).outcome c with _ | ⟨value, c'⟩
    · exact .error
    · dsimp only [ok_bind]
      cases h : Additional.ofJson? value with
      | error fault => exact .nothing (by simp [h, Except.toOption])
      | ok additional => exact .ok (by simp [h, Except.toOption])
  intro c hc
  refine (sees_readOptional hadditional c hc).congr fun value c' _ => ?_
  rw [optionalAdditional, toOption_ofExcept, toOption_optional]
  cases value <;> rfl

/-- A list whose items are read as they are decoded is itself read as it is decoded. -/
theorem reads_sequence {decode : Json → Decoded α} {item : Nat → Reader α}
    (h : ∀ levels, Reads skipped decode levels (item levels))
    (hskipped : ∀ index path, skipped path → skipped' (.index index :: path)) (levels : Nat) :
    Reads skipped' (Decoded.list decode) levels (readSequence item levels) := by
  intro c hc
  refine (sees_readSequence h hskipped levels c hc).congr fun value c' _ => ?_
  exact toOption_list decode value

/-- The outcomes at one position after a key of reading a member whole and of reading it for what
`decode` gives. -/
def ReadsMember (skipped : List PathStep → Prop) (name : String) (decode : Json → Decoded α)
    (levels : Nat) (reader : Reader α) : Prop :=
  ∀ c : Cursor, c.Bounded → Agrees (LimitAt skipped) (fun value => (decode value).toOption)
    (Reader.outcome (do readColon; within (.key name) (readValue levels)) c) (reader.outcome c)

/-- A member is read into its field once, as it is decoded. -/
theorem readsMember_once {decode : Json → Decoded α} {reader : Reader α}
    (h : Reads skipped decode levels reader) {name : String}
    (hskipped : ∀ path, skipped path → skipped' (.key name :: path)) (current : Option α) :
    ReadsMember skipped' name (fun value => once name current (decode value)) levels
      (readOnce name current reader) := by
  intro c hc
  simp only [toOption_once, readOnce]
  split
  · exact .of_fails rfl fun _ _ _ => rfl
  · simp only [outcome_bind, outcome_within, outcome_pure]
    rcases hcolon : readColon.outcome c with _ | ⟨_, c'⟩
    · exact .error
    · have hc' : c'.Bounded := hc.of_precedes (forward_readColon _ _ _ hcolon)
      have hvalue := (h c' hc').within (LimitAt.under hskipped)
      exact hvalue.map fun _ _ _ => rfl

/-- A member that is skipped may hold a value beyond the limits. -/
theorem readsMember_skip (a : α) {name : String} (hskipped : ∀ path, skipped (.key name :: path)) :
    ReadsMember skipped name (fun _ => .ok a) levels (do skipMember name; return a) := by
  intro c hc
  simp only [skipMember, outcome_bind, outcome_within, outcome_pure]
  rcases hcolon : readColon.outcome c with _ | ⟨_, c'⟩
  · exact .error
  · dsimp only [ok_bind]
    have hskip := skips_readValue levels (hc.of_precedes (forward_readColon _ _ _ hcolon))
    rcases hread : (readValue levels).outcome c' with report | ⟨value, c''⟩
    · rw [hread] at hskip
      refine hskip.imp (fun hlimit => ⟨hlimit, hskipped report.2⟩) fun hnone => ?_
      cases hfail : skipValue.outcome c' with
      | error _ => rfl
      | ok _ => simp [hfail, Except.toOption] at hnone
    · rw [hread] at hskip
      have hreached : skipValue.outcome c' = .ok ((), c'') := hskip
      rw [hreached]
      exact .ok rfl

/-- A member is put where it is declared. -/
theorem ReadsMember.map {β : Type} {name : String} {decode : Json → Decoded α} {reader : Reader α}
    (h : ReadsMember skipped name decode levels reader) (k : α → β) :
    ReadsMember skipped name (fun value => do return k (← decode value)) levels
      (do return k (← reader)) := by
  intro c hc
  have hmap : Reader.outcome (do return k (← reader)) c =
      reader.outcome c >>= fun reached => .ok (k reached.1, reached.2) := outcome_bind _ _ _
  rw [hmap]
  refine (h c hc).map fun value _ _ => ?_
  dsimp only
  cases decode value <;> rfl

/-- Each member of a property is read as it is decoded. -/
theorem readsMember_property (fields : PropertyFields) (name : String) :
    ReadsMember Form.property.Skips name (fun value => fields.put (name, value)) levels
      (readPropertyMember levels fields name) := by
  unfold readPropertyMember PropertyFields.put
  dsimp only
  split
  · exact (readsMember_once reads_requiredText nowhere_imp fields.name).map _
  split
  · exact (readsMember_once reads_optionalText nowhere_imp fields.description).map _
  · intro c hc
    simp only [consMember, outcome_bind, outcome_within, outcome_pure, bind_assoc]
    rcases readColon.outcome c with _ | ⟨_, c'⟩
    · exact .error
    · dsimp only [ok_bind]
      rcases (readValue levels).outcome c' with _ | ⟨value, c''⟩
      · exact .error
      · exact .ok rfl

/-- The members of an object are read one by one, and what they make is completed at the end. -/
theorem seesMembers {σ : Type} {put : σ → String × Json → Decoded σ} {close : σ → Decoded α}
    {member : σ → String → Reader σ} {finish : σ → Reader α} {init : σ}
    (h : ∀ state name,
      ReadsMember skipped name (fun value => put state (name, value)) levels (member state name))
    (hfinish : ∀ state c,
      ((finish state).outcome c).toOption = (close state).toOption.map (·, c)) :
    SeesMembers skipped (fun members => (members.foldlM put init >>= close).toOption) levels
      (do finish (← readMembers member (← loopBound) true init)) := by
  intro c hc
  let put? (state : σ) (member : String × Json) : Option σ := (put state member).toOption
  have hmembers : Agrees (LimitAt skipped) (fun reversed => reversed.reverse.foldlM put? init)
      ((readMembers (consMember (readValue levels)) (c.bound + 1) true []).outcome c)
      ((readMembers member (c.bound + 1) true init).outcome c) :=
    sees_readMembers h (c.bound + 1) true init [] init rfl hc
  simp only [objectMembers, loopBound, outcome_bind, outcome_get, ok_bind, outcome_pure, bind_assoc,
    toOption_bind, toOption_foldlM]
  apply hmembers.bind
  · intro reversed state c' _ hstate
    have hclosed : (reversed.reverse.foldlM put? init >>= fun state => (close state).toOption) =
        (close state).toOption := by
      rw [hstate]
      rfl
    have hresult := hfinish state c'
    cases hclose : close state with
    | error fault =>
      rw [hclose] at hresult hclosed
      apply Agrees.of_fails
      · rcases hfail : (finish state).outcome c' with _ | ⟨a, c''⟩
        · rfl
        · rw [hfail] at hresult
          contradiction
      · intro members c'' hend
        obtain ⟨-, rfl⟩ := by simpa [bind_eq_ok_iff] using hend
        exact hclosed
    | ok a =>
      rw [hclose] at hresult hclosed
      rw [toOption_eq_some_iff.mp hresult, ok_bind]
      rcases endObject.outcome c' with _ | ⟨_, c''⟩
      · exact .error
      · exact .ok hclosed
  · -- a member that is not put is not undone
    intro reversed c' members c'' _ hstate hend
    obtain ⟨-, rfl⟩ := by simpa [bind_eq_ok_iff] using hend
    rw [hstate]
    rfl

theorem outcome_ofExcept (x : Except DataFault α) (c : Cursor) :
    ((Reader.ofExcept x).outcome c).toOption = (Decoded.ofExcept x).toOption.map (·, c) := by
  cases x <;> rfl

theorem reads_property (levels : Nat) :
    Reads Form.property.Skips PropertyEntry.ofJson? levels (readProperty levels) := by
  apply sees_readEither
  · intro value _ hobject
    cases value with
    | object members => exact absurd rfl hobject
    | _ => rfl
  · intro items
    rfl
  · intro levels
    exact seesMembers readsMember_property fun fields => outcome_ofExcept fields.entry

/-- Each member of an entity is read as it is decoded, and a member of no known name is skipped. -/
theorem readsMember_entity (fields : EntityFields) (name : String) :
    ReadsMember Form.entity.Skips name (fun value => fields.put (name, value)) levels
      (readEntityMember levels fields name) := by
  unfold readEntityMember EntityFields.put
  dsimp only
  split
  · exact (readsMember_once reads_requiredText nowhere_imp fields.name).map _
  split
  · exact (readsMember_once reads_optionalText nowhere_imp fields.parent).map _
  split
  · exact (readsMember_once reads_optionalText nowhere_imp fields.description).map _
  split
  case isTrue hname =>
    have hpart : Form.entity.part? name = some (.sequence .property) := if_pos hname
    exact (readsMember_once (reads_sequence reads_property (fun _ _ => .item) levels)
      (fun _ => .member hpart) fields.properties).map _
  split
  · exact (readsMember_once (reads_additional levels) nowhere_imp fields.additional).map _
  · refine readsMember_skip fields fun path => .entity ?_
    simp only [entityNames, List.mem_cons, List.not_mem_nil, or_false, not_or]
    exact ⟨‹_›, ‹_›, ‹_›, ‹_›, ‹_›⟩

/-- What the list form of an entity entry gives. -/
def entityOfItems : List Json → Option EntityEntry :=
  nextItem (fun value => (requiredText value).toOption) fun
    | none => fun _ => none
    | some name =>
      nextItem (fun value => (optionalText value).toOption) fun parent =>
      nextItem (fun value => (optionalText value).toOption) fun description =>
      nextItem (fun value => (list PropertyEntry.ofJson? value).toOption) fun properties =>
      nextItem (fun value => (optionalAdditional value).toOption) fun additional =>
      noItem ⟨name, parent.join, description.join, properties.getD [], additional.join⟩

/-- An entity in list form is decoded field by field. -/
theorem toOption_entityOfItems (values : List Json) :
    (EntityEntry.ofJson? (.array values)).toOption = entityOfItems values := by
  rw [EntityEntry.ofJson?]
  rcases values with _ | ⟨v₀, _ | ⟨v₁, _ | ⟨v₂, _ | ⟨v₃, _ | ⟨v₄, _ | ⟨v₅, rest⟩⟩⟩⟩⟩⟩
  · rfl
  all_goals
    simp [item?, entityOfItems, nextItem, noItem, toOption_bind, toOption_map, toOption_within,
      toOption_fail, toOption_ok, atMost]

theorem reads_entity (levels : Nat) :
    Reads Form.entity.Skips EntityEntry.ofJson? levels (readEntity levels) := by
  apply sees_readEither
  · intro value hlist hobject
    cases value with
    | array items => exact absurd rfl hlist
    | object members => exact absurd rfl hobject
    | _ => rfl
  · intro levels
    simp only [toOption_entityOfItems]
    apply SeesRest.seesItems
    apply seesRest_readItem? reads_requiredText nowhere_imp
    intro name?
    cases name? with
    | none => exact seesRest_failData (fun _ => rfl) _ _
    | some name =>
      exact seesRest_readItem? reads_optionalText nowhere_imp fun parent =>
        seesRest_readItem? reads_optionalText nowhere_imp fun description =>
        seesRest_readItem? (reads_sequence reads_property (fun _ _ => .item) levels)
          (fun _ => .position rfl rfl) fun properties =>
        seesRest_readItem? (reads_additional levels) nowhere_imp fun additional => seesRest_pure _ _
  · intro levels
    exact seesMembers readsMember_entity fun fields => outcome_ofExcept fields.entry

theorem readsMember_document (entities : Option (List EntityEntry)) (name : String) :
    ReadsMember Form.document.Skips name (fun value => putEntities entities (name, value)) levels
      (readDocumentMember levels entities name) := by
  by_cases hname : name = "entities"
  · subst hname
    have hpart : Form.document.part? "entities" = some (.sequence .entity) := by
      simp [Form.part?]
    simpa only [readDocumentMember, putEntities, if_true] using
      readsMember_once (reads_sequence reads_entity (fun _ _ => .item) levels)
        (fun _ => .member hpart) entities
  · simp only [readDocumentMember, putEntities, hname, if_false]
    exact readsMember_skip entities fun path => .document (by simpa [documentNames] using hname)

theorem readEntries_object (levels : Nat) :
    readEntries.object levels = (do
      let entities ← readMembers (readDocumentMember levels) (← loopBound) true none
      Reader.ofExcept (requireEntities entities)) := by
  rw [readEntries.object]
  refine bind_congr fun bound => bind_congr fun entities => ?_
  cases entities <;> rfl

/-- What the list form of a document gives. -/
def entriesOfItems : List Json → Option (List EntityEntry) :=
  nextItem (fun value => (list EntityEntry.ofJson? value).toOption) fun
    | none => fun _ => none
    | some entities => noItem entities

theorem toOption_entriesOfItems (values : List Json) :
    (entriesOfJson? (.array values)).toOption = entriesOfItems values := by
  rw [entriesOfJson?]
  rcases values with _ | ⟨v₀, _ | ⟨v₁, rest⟩⟩
  · rfl
  all_goals
    simp [item?, entriesOfItems, nextItem, noItem, toOption_bind, toOption_map, toOption_within,
      toOption_fail, toOption_ok, atMost]

/-- A document is read as it is decoded, in either of its forms. -/
theorem reads_entries (levels : Nat) :
    Reads Form.document.Skips entriesOfJson? levels (readEntries levels) := by
  apply sees_readEither
  · intro value hlist hobject
    cases value with
    | array items => exact absurd rfl hlist
    | object members => exact absurd rfl hobject
    | _ => rfl
  · intro levels
    simp only [toOption_entriesOfItems]
    apply SeesRest.seesItems
    apply seesRest_readItem? (reads_sequence reads_entity (fun _ _ => .item) levels)
      (fun _ => .position rfl rfl)
    intro entities?
    cases entities? with
    | none => exact seesRest_failData (fun _ => rfl) _ _
    | some entities => exact seesRest_pure _ _
  · intro levels
    simp only [entriesOfJson?_object, readEntries_object]
    exact seesMembers readsMember_document fun entities =>
      outcome_ofExcept (requireEntities entities)

end EntityModels
