import EntityModels.Document.Load
import EntityModels.Proofs.Document.Repetition
import EntityModels.Proofs.Document.Sparing

/-!
Loading a text as a document, and loading the whole value of the text by the empty pointer. The
first decodes the value where it stands, the second decodes the settled value.
-/
namespace EntityModels

open Reader

/-- What a reader makes of a text is its outcome at the start. -/
theorem outcome_ofText {α : Type} (reader : Reader α) (text : String) :
    match reader.run text with
    | .ok a => ∃ c, reader.outcome (.ofText text) = .ok (a, c)
    | .error fault => reader.outcome (.ofText text) = .error (fault.cause, fault.path) := by
  rcases h : reader (.ofText text) with ⟨_ | a, c⟩ <;> simp [run, outcome, h]

theorem toOption_run {α : Type} (reader : Reader α) (text : String) :
    (reader.run text).toOption = (reader.outcome (.ofText text)).toOption.map (·.1) := by
  rcases h : reader (.ofText text) with ⟨_ | a, c⟩ <;> simp [run, outcome, h, Except.toOption]

/-- The entries at the start of a text are those of the value there as it stands. -/
theorem entriesOfText?_spec (text : String) :
    match Json.ofPrefix? text with
    | .ok value => (entriesOfText? text).toOption = Form.document.decode value
    | .error fault => fault.cause.IsLimit ∧ Form.document.Skips fault.path ∨
        (entriesOfText? text).toOption = none := by
  have hread := reads_entries depthLimit (.ofText text) (Cursor.bounded_ofText text)
  have hvalue := outcome_ofText (readValue depthLimit) text
  rw [entriesOfText?, toOption_run]
  change match (readValue depthLimit).run text with
    | .ok value => _
    | .error fault => _
  cases h : (readValue depthLimit).run text with
  | ok value =>
    rw [h] at hvalue
    obtain ⟨c, hc⟩ := hvalue
    rw [hc] at hread
    have hentries : ((readEntries depthLimit).outcome (.ofText text)).toOption =
        (entriesOfJson? value).toOption.map (·, c) := hread
    dsimp only
    rw [hentries, Option.map_map]
    exact Option.map_id'
  | error fault =>
    rw [h] at hvalue
    rw [hvalue] at hread
    refine hread.imp_right fun hnone => ?_
    rw [hnone]
    rfl

theorem toOption_loadEntries_none (source : String) :
    (loadEntries source none).toOption = (entriesOfText? source).toOption :=
  toOption_mapError _ _

/-- The empty pointer gives the entries of the settled value. -/
theorem toOption_loadEntries_empty (source : String) :
    (loadEntries source (some "")).toOption =
      (Json.ofPrefix? source).toOption.bind fun value => Form.document.decode value.lastWins := by
  rw [loadEntries]
  cases Json.ofPrefix? source with
  | error fault => rfl
  | ok value => exact toOption_mapError _ (entriesOfJson? value.lastWins)

theorem toOption_loadDocument (source : String) (pointer : Option String) :
    (loadDocument source pointer).toOption =
      (loadEntries source pointer).toOption.bind fun entries =>
        (entries.mapM EntityEntry.toEntity).toOption := by
  rw [loadDocument, toOption_bind]
  exact Option.bind_congr fun entries _ => toOption_mapError _ _

/-- Both ways to load a text fail, or both give the same entities. -/
def LoadsAlike (source : String) : Prop :=
  (loadDocument source none).toOption = (loadDocument source (some "")).toOption

/-- The value of a text has an object, read as part of the document, that repeats one of the members
of its form. -/
def RepeatsMember (source : String) : Prop :=
  ∃ value, Json.ofPrefix? source = .ok value ∧ Form.document.Repeats value

/-- The value of a text goes beyond a limit, in a member that the document or one of its entity
entries does not have. -/
def ExceedsWhereSkipped (source : String) : Prop :=
  ∃ fault, Json.ofPrefix? source = .error fault ∧ fault.cause.IsLimit ∧
    Form.document.Skips fault.path

/-- A fault of decoding is one of reading the entries. -/
theorem loadEntries_eq_of_decode {source : String} {fault : Fault}
    (h : loadDocument source none = .error (.decode fault)) :
    entriesOfText? source = .error fault := by
  rw [loadDocument, bind_eq_error_iff] at h
  rcases h with h | ⟨entries, -, h⟩
  · cases hentries : entriesOfText? source with
    | ok entries =>
      rw [loadEntries, hentries] at h
      cases h
    | error reported =>
      rw [loadEntries, hentries] at h
      obtain rfl := LoadFault.decode.inj (Except.error.inj h)
      rfl
  · cases hnode : entries.mapM EntityEntry.toEntity with
    | ok entities =>
      rw [hnode] at h
      cases h
    | error reported =>
      rw [hnode] at h
      cases h

/-- The two ways to load a text give the same but in two cases, in each of which one way fails. -/
structure PathsAgree (source : String) : Prop where
  alike : ¬RepeatsMember source → ¬ExceedsWhereSkipped source → LoadsAlike source
  /-- Repeated members are refused without a pointer. -/
  refused : RepeatsMember source → (loadDocument source none).toOption = none
  /-- With a pointer the value is loaded in which the last of the members of one name is left, as
  `firstOf_lastWinsMembers` says. -/
  settled : ∀ value, Json.ofPrefix? source = .ok value →
    (loadDocument source (some "")).toOption =
      (Form.document.decode value.lastWins).bind fun entries =>
        (entries.mapM EntityEntry.toEntity).toOption
  /-- What goes beyond the limits of values is refused with a pointer, wherever it stands. -/
  exceeded : ExceedsWhereSkipped source → (loadDocument source (some "")).toOption = none
  /-- Without a pointer no value is built of a member that is skipped: where a limit refuses the
  text, what goes beyond it is in no such member. -/
  skipped : ∀ fault, loadDocument source none = .error (.decode fault) → fault.cause.IsLimit →
    ¬Form.document.Skips fault.path

end EntityModels
