import EntityModels.Proofs.Document.Forms
import EntityModels.Proofs.Json.Outcome

/-!
What a document that is read straight off its text can be refused for. A value that is skipped is
never refused for going beyond a limit, for nothing is built of it; so where the reading of a
document is refused for a limit, that is not in a member that it skips.
-/
namespace EntityModels

open Reader

namespace Reader

variable {α β σ : Type}

/-- Whatever a reader reports is allowed. -/
def Reports (allowed : Report → Prop) (reader : Reader α) : Prop :=
  ∀ c report, reader.outcome c = .error report → allowed report

variable {allowed : Report → Prop} {reader : Reader α}

/-- A run of two readers reports nothing but what one of them does. -/
theorem Reports.bind {f : α → Reader β} (h : Reports allowed reader)
    (hf : ∀ a, Reports allowed (f a)) : Reports allowed (reader >>= f) := by
  intro c report hreport
  rw [outcome_bind, bind_eq_error_iff] at hreport
  rcases hreport with hreport | ⟨⟨a, c'⟩, -, hreport⟩
  · exact h c report hreport
  · exact hf a c' report hreport

/-- A reader that always succeeds reports nothing. -/
theorem reports_of_ok {result : Cursor → α × Cursor}
    (h : ∀ c, reader.outcome c = .ok (result c)) : Reports allowed reader := by
  intro c report hreport
  rw [h c] at hreport
  cases hreport

theorem reports_anything (reader : Reader α) : Reports (fun _ => True) reader :=
  fun _ _ _ => trivial

theorem reports_pure (a : α) : Reports allowed (pure a : Reader α) := reports_of_ok fun _ => rfl

theorem reports_get : Reports allowed (get : Reader Cursor) := reports_of_ok fun _ => rfl

theorem reports_look : Reports allowed look := reports_of_ok fun _ => rfl

theorem reports_step : Reports allowed step := reports_of_ok fun _ => rfl

theorem reports_lookToken : Reports allowed lookToken := reports_of_ok fun _ => rfl

theorem reports_loopBound : Reports allowed loopBound := reports_of_ok fun _ => rfl

theorem reports_skipDigits : Reports allowed skipDigits := reports_of_ok fun _ => rfl

theorem reports_failAfter {bytes : Nat} {fault : SyntaxFault} (h : allowed (.text fault, [])) :
    Reports allowed (failAfter bytes fault : Reader α) := by
  intro c report hreport
  obtain rfl := Except.error.inj hreport
  exact h

theorem reports_failData {fault : DataFault} (h : allowed (.data fault, [])) :
    Reports allowed (failData fault : Reader α) := by
  intro c report hreport
  obtain rfl := Except.error.inj hreport
  exact h

theorem Reports.discard (h : Reports allowed reader) : Reports allowed (discard reader) := by
  intro c report hreport
  rw [outcome_discard, bind_eq_error_iff] at hreport
  rcases hreport with hreport | ⟨_, -, hreport⟩
  · exact h c report hreport
  · cases hreport

theorem Reports.orStep {p : Prop} [Decidable p] {rest : Unit → Reader α}
    (h : Reports allowed (rest ())) : Reports allowed (if p then step >>= rest else rest ()) := by
  split
  · exact reports_step.bind fun _ => h
  · exact h

/-- Inside a member or an item, a report gets one more step in front of its path. -/
theorem Reports.within {pathStep : PathStep} (h : Reports allowed' reader)
    (himp : ∀ report, allowed' report → allowed (report.under pathStep)) :
    Reports allowed (within pathStep reader) := by
  intro c report hreport
  rw [outcome_within] at hreport
  cases hinner : reader.outcome c with
  | ok reached =>
    rw [hinner] at hreport
    cases hreport
  | error inner =>
    rw [hinner] at hreport
    obtain rfl := Except.error.inj hreport
    exact himp inner (h c inner hinner)

theorem Reports.enclosed {close : Reader Unit} (h : Reports allowed reader)
    (hclose : Reports allowed close) : Reports allowed (enclosed reader close) := by
  intro c report hreport
  rw [outcome_enclosed, bind_eq_error_iff] at hreport
  rcases hreport with hreport | ⟨⟨a, c'⟩, -, hreport⟩
  · exact h c report hreport
  · rcases bind_eq_error_iff.mp hreport with hreport | ⟨_, -, hreport⟩
    · exact hclose c' report hreport
    · cases hreport

theorem reports_placed (h : Reports allowed reader) : Reports allowed (placed reader) := by
  intro c report hreport
  rw [outcome_placed] at hreport
  exact h c report hreport

section Skipping

variable (hplain : ∀ {fault}, ¬FaultCause.IsLimit (.text fault) → allowed (.text fault, []))
include hplain

theorem reports_plain {fault : SyntaxFault} (bytes : Nat) (h : ¬FaultCause.IsLimit (.text fault)) :
    Reports allowed (failAfter bytes fault : Reader α) := reports_failAfter (hplain h)

theorem reports_readWord (word : List Char) : Reports allowed (readWord word) := by
  induction word with
  | nil => exact reports_pure ()
  | cons c word ih =>
    refine reports_look.bind fun d? => ?_
    split
    · exact reports_plain hplain 0 (by decide)
    · split
      · exact reports_step.bind fun _ => ih
      · exact reports_plain hplain 1 (by decide)

theorem reports_readHex : Reports allowed readHex := by
  refine reports_get.bind fun c => ?_
  split
  · split
    · exact reports_step.bind fun _ => reports_step.bind fun _ => reports_step.bind fun _ =>
        reports_step.bind fun _ => reports_pure _
    · exact reports_plain hplain 4 (by decide)
  · refine reports_plain hplain 4 ?_
    split
    · decide
    · decide

theorem reports_skipExponent : Reports allowed skipExponent := by
  refine reports_step.bind fun _ => reports_look.bind fun c => reports_look.bind fun d => ?_
  refine Reports.orStep (reports_look.bind fun first => ?_)
  split
  · exact reports_plain hplain 0 (by decide)
  · split
    · exact reports_skipDigits.discard
    · exact reports_plain hplain 1 (by decide)

theorem reports_skipExponentIf : Reports allowed (do
    if (← look) = some 'e' ∨ (← look) = some 'E' then skipExponent) := by
  refine reports_look.bind fun c => reports_look.bind fun d => ?_
  split
  · exact reports_skipExponent hplain
  · exact reports_pure ()

theorem reports_skipFraction : Reports allowed skipFraction := by
  refine reports_look.bind fun c => ?_
  split
  · refine reports_step.bind fun _ => reports_skipDigits.bind fun count => ?_
    split
    · exact (reports_plain hplain 1 (by decide)).bind fun _ => reports_skipExponentIf hplain
    · exact reports_skipExponentIf hplain
  · exact reports_skipExponentIf hplain

/-- A number is skipped digit by digit, however many there are. -/
theorem reports_skipNumber : Reports allowed skipNumber := by
  refine reports_look.bind fun c? => ?_
  split
  · exact reports_plain hplain 0 (by decide)
  · split
    · refine reports_step.bind fun _ => reports_look.bind fun d => ?_
      split
      · exact (reports_plain hplain 1 (by decide)).bind fun _ => reports_skipFraction hplain
      · exact reports_skipFraction hplain
    · split
      · exact reports_skipDigits.discard.bind fun _ => reports_skipFraction hplain
      · exact reports_plain hplain 1 (by decide)

theorem reports_skipCharacters (steps : Nat) : Reports allowed (skipCharacters steps) := by
  induction steps with
  | zero => exact reports_plain hplain 0 (by decide)
  | succ steps ih =>
    refine reports_look.bind fun c? => ?_
    split
    · exact reports_plain hplain 0 (by decide)
    · split
      · exact reports_step
      · split
        · -- an escape is only looked at as far as its end is to be found
          refine reports_step.bind fun _ => reports_look.bind fun d? => ?_
          split
          · exact (reports_plain hplain 0 (by decide)).bind fun _ => ih
          · split
            · exact reports_step.bind fun _ => (reports_readHex hplain).discard.bind fun _ => ih
            · split
              · exact reports_step.bind fun _ => ih
              · exact (reports_plain hplain 1 (by decide)).bind fun _ => ih
        · split
          · exact reports_plain hplain 0 (by decide)
          · exact reports_step.bind fun _ => ih

theorem reports_skipString : Reports allowed skipString :=
  reports_loopBound.bind fun steps => reports_skipCharacters hplain steps

theorem reports_readColon : Reports allowed readColon := by
  refine reports_lookToken.bind fun c? => ?_
  split
  · exact reports_plain hplain 0 (by decide)
  · split
    · exact reports_step
    · exact reports_plain hplain 1 (by decide)

theorem reports_skipInto (frame : Frame) : Reports allowed (skipInto frame) := by
  cases frame with
  | list => exact reports_pure ()
  | object =>
    refine reports_lookToken.bind fun c? => ?_
    split
    · exact reports_plain hplain 0 (by decide)
    · split
      · exact reports_step.bind fun _ => (reports_skipString hplain).bind fun _ =>
          reports_readColon hplain
      · exact reports_plain hplain 1 (by decide)

theorem reports_skipStart (frames : List Frame) : Reports allowed (skipStart frames) := by
  refine reports_lookToken.bind fun c? => ?_
  split
  · exact reports_plain hplain 0 (by decide)
  · split_ifs
    all_goals first
      | exact reports_step.bind fun _ => (reports_readWord hplain _).bind fun _ => reports_pure _
      | exact reports_step.bind fun _ => (reports_skipNumber hplain).bind fun _ => reports_pure _
      | exact reports_step.bind fun _ => (reports_skipString hplain).bind fun _ => reports_pure _
      | exact reports_step.bind fun _ => reports_pure _
      | exact (reports_skipNumber hplain).bind fun _ => reports_pure _
      | exact reports_plain hplain 1 (by decide)

theorem reports_skipNext (opened : Bool) (frame : Frame) (frames : List Frame) :
    Reports allowed (skipNext opened frame frames) := by
  have hinside : Reports allowed (do skipInto frame; skipStart (frame :: frames)) :=
    (reports_skipInto hplain frame).bind fun _ => reports_skipStart hplain _
  refine reports_lookToken.bind fun c? => ?_
  split
  · exact reports_plain hplain 0 (by split <;> decide)
  · split
    · exact reports_step.bind fun _ => reports_pure _
    · split
      · exact hinside
      · split
        · exact reports_step.bind fun _ => hinside
        · exact reports_plain hplain 1 (by split <;> decide)

/-- Open brackets are followed without a limit to their number. -/
theorem reports_skipRest (steps : Nat) (opened : Bool) (frames : List Frame) :
    Reports allowed (skipRest steps opened frames) := by
  induction steps generalizing opened frames with
  | zero => cases frames <;> exact reports_pure ()
  | succ steps ih =>
    cases frames with
    | nil => exact reports_pure ()
    | cons frame frames => exact (reports_skipNext hplain opened frame frames).bind fun _ => ih _ _

/-- Skipping a value reports what is wrong with its text, and no limit. -/
theorem reports_skipValue : Reports allowed skipValue :=
  reports_loopBound.bind fun bound => (reports_skipStart hplain []).bind fun _ =>
    reports_skipRest hplain bound _ _

end Skipping

section Flat

variable (hhere : ∀ cause, allowed (cause, []))
include hhere

/-- Where every cause is allowed, any fault may be reported at the position. -/
theorem reports_here {fault : SyntaxFault} (bytes : Nat) :
    Reports allowed (failAfter bytes fault : Reader α) := reports_failAfter (hhere _)

theorem reports_expectInPair (c : Char) : Reports allowed (expectInPair c) := by
  refine reports_look.bind fun d? => ?_
  split
  · exact reports_here hhere 0
  · split
    · exact reports_step
    · exact reports_here hhere 1

theorem reports_readUnicode : Reports allowed readUnicode := by
  refine (reports_readHex fun _ => hhere _).bind fun n => ?_
  split
  · exact reports_here hhere 0
  · split
    · refine (reports_expectInPair hhere _).bind fun _ =>
        (reports_expectInPair hhere _).bind fun _ => ?_
      refine (reports_readHex fun _ => hhere _).bind fun low => ?_
      split
      · exact reports_pure _
      · exact reports_here hhere 0
    · exact reports_pure _

theorem reports_readEscape : Reports allowed readEscape := by
  refine reports_look.bind fun c? => ?_
  split
  · exact reports_here hhere 0
  · split
    · exact reports_step.bind fun _ => reports_readUnicode hhere
    · split
      · exact reports_step.bind fun _ => reports_pure _
      · exact reports_here hhere 1

theorem reports_readCharacters (steps : Nat) (reversed : List Char) :
    Reports allowed (readCharacters steps reversed) := by
  induction steps generalizing reversed with
  | zero => exact reports_here hhere 0
  | succ steps ih =>
    refine reports_look.bind fun c? => ?_
    split
    · exact reports_here hhere 0
    · split
      · exact reports_step.bind fun _ => reports_pure _
      · split
        · exact reports_step.bind fun _ => (reports_readEscape hhere).bind fun _ => ih _
        · split
          · exact reports_here hhere 1
          · exact reports_step.bind fun _ => ih _

theorem reports_readString : Reports allowed readString :=
  reports_get.bind fun _ => reports_readCharacters hhere _ _

omit hhere in
/-- The digits of a number may go beyond a limit. -/
theorem reports_takeDigits (limit value : Nat) : Reports allowed (takeDigits limit value) := by
  have hgo (c : Cursor) (rest : List Char) : ∀ (value count : Nat) (place : Place),
      ∃ result c', takeDigits.go limit c value count rest place = (.ok result, c') := by
    induction rest with
    | nil => exact fun _ _ _ => ⟨_, _, rfl⟩
    | cons d rest ih =>
      intro value count place
      rw [takeDigits.go]
      split
      · dsimp only
        split
        · exact ih _ _ _
        · exact ⟨_, _, rfl⟩
      · exact ⟨_, _, rfl⟩
  intro c report hreport
  obtain ⟨result, c', hok⟩ := hgo c c.rest value 0 c.place
  have hread : takeDigits limit value c = (.ok result, c') := hok
  rw [outcome, hread] at hreport
  cases hreport

theorem reports_toDouble (n : Scaled) : Reports allowed (toDouble n) := by
  unfold toDouble
  split
  · exact reports_pure _
  · exact reports_here hhere 0

theorem reports_readExponent (n : Scaled) : Reports allowed (readExponent n) := by
  refine reports_step.bind fun _ => reports_look.bind fun sign? => ?_
  dsimp only
  split
  all_goals
    try refine reports_step.bind fun _ => ?_
    refine (reports_pure _).bind fun upward => reports_look.bind fun c? => ?_
    split
    · exact reports_here hhere 0
    · split
      · refine (reports_takeDigits _ _).bind fun digits => ?_
        split
        · split
          · exact reports_here hhere 1
          · exact reports_skipDigits.discard.bind fun _ => reports_pure _
        · exact reports_toDouble hhere _
      · exact reports_here hhere 1

theorem reports_readAfterDigits (n : Scaled) : Reports allowed (readAfterDigits n) := by
  refine reports_look.bind fun c? => ?_
  split
  · exact reports_readExponent hhere n
  · exact reports_readExponent hhere n
  · exact reports_toDouble hhere n

theorem reports_readFraction (n : Scaled) : Reports allowed (readFraction n) := by
  refine reports_step.bind fun _ => (reports_takeDigits _ _).bind fun digits => ?_
  dsimp only
  split
  · exact reports_skipDigits.discard.bind fun _ => reports_readAfterDigits hhere _
  · split
    · exact reports_look.bind fun _ => (reports_here hhere 1).bind fun _ =>
        reports_readAfterDigits hhere _
    · exact reports_readAfterDigits hhere _

theorem reports_readAfterInteger (negative : Bool) (significand : Nat) :
    Reports allowed (readAfterInteger negative significand) := by
  refine reports_look.bind fun c? => ?_
  split
  · exact reports_readFraction hhere _
  · exact reports_readExponent hhere _
  · exact reports_readExponent hhere _
  · exact reports_pure _

/-- A number may be refused, but only where it stands. -/
theorem reports_readNumber (negative : Bool) : Reports allowed (readNumber negative) := by
  refine reports_look.bind fun c? => ?_
  split
  · exact reports_here hhere 0
  · refine reports_step.bind fun _ => reports_look.bind fun d? => ?_
    split
    · split
      · exact reports_here hhere 1
      · exact reports_readAfterInteger hhere _ _
    · exact reports_readAfterInteger hhere _ _
  · split
    · refine (reports_takeDigits _ _).bind fun digits => ?_
      dsimp only
      split
      · refine reports_skipDigits.bind fun skipped => reports_look.bind fun d? => ?_
        split
        · exact reports_readFraction hhere _
        · exact reports_readAfterDigits hhere _
      · exact reports_readAfterInteger hhere _ _
    · exact reports_here hhere 1

/-- A value is refused where it stands, or within its brackets. -/
theorem reports_readScalarOr {list object : Reader Json} (hlist : Reports allowed list)
    (hobject : Reports allowed object) : Reports allowed (readScalarOr list object) := by
  have hword (word : List Char) (value : Json) :
      Reports allowed (do step; readWord word; return value) :=
    reports_step.bind fun _ =>
      (reports_readWord (fun _ => hhere _) word).bind fun _ => reports_pure _
  refine reports_lookToken.bind fun c? => ?_
  split
  · exact reports_here hhere 0
  · split_ifs
    · exact hword _ _
    · exact hword _ _
    · exact hword _ _
    · exact reports_step.bind fun _ => (reports_readNumber hhere true).bind fun _ => reports_pure _
    · exact reports_step.bind fun _ => (reports_readString hhere).bind fun _ => reports_pure _
    · exact hlist
    · exact hobject
    · exact (reports_readNumber hhere false).bind fun _ => reports_pure _
    · exact reports_here hhere 1

theorem reports_wrongType (expected : String) : Reports allowed (wrongType expected : Reader α) :=
  reports_placed ((reports_readScalarOr hhere (reports_pure _) (reports_pure _)).bind fun _ =>
    reports_failData (hhere _))

theorem reports_endList : Reports allowed endList := by
  refine reports_lookToken.bind fun c? => ?_
  split
  · exact reports_here hhere 0
  · split_ifs
    · exact reports_step
    · exact reports_step.bind fun _ => reports_lookToken.bind fun _ => reports_here hhere 1
    · exact reports_here hhere 1

theorem reports_endObject : Reports allowed endObject := by
  refine reports_lookToken.bind fun c? => ?_
  split
  · exact reports_here hhere 0
  · split
    · exact reports_step
    · exact reports_here hhere 1

/-- Reading a list or an object reports what its inside does. -/
theorem reports_readEither {expected : String} {list object : Option (Nat → Reader α)}
    (hlist : ∀ inside ∈ list, ∀ levels, Reports allowed (inside levels))
    (hobject : ∀ inside ∈ object, ∀ levels, Reports allowed (inside levels)) (levels : Nat) :
    Reports allowed (readEither expected levels list object) := by
  refine reports_lookToken.bind fun c? => ?_
  split
  · exact reports_here hhere 0
  · split
    · exact reports_here hhere 1
    · exact reports_here hhere 1
    · next inside hinside =>
      refine reports_step.bind fun _ => (hlist inside ?_ _).enclosed (reports_endList hhere)
      split at hinside
      · exact hinside
      · cases hinside
    · next inside _ hinside =>
      refine reports_step.bind fun _ => (hobject inside ?_ _).enclosed (reports_endObject hhere)
      split at hinside
      · exact hinside
      · cases hinside
    · exact reports_wrongType hhere expected

theorem reports_moreItems (first : Bool) : Reports allowed (moreItems first) := by
  refine reports_lookToken.bind fun c? => ?_
  split
  · exact reports_here hhere 0
  · split_ifs
    · exact reports_pure _
    · exact reports_pure _
    · refine reports_step.bind fun _ => reports_lookToken.bind fun d? => ?_
      split
      · exact reports_here hhere 0
      · split
        · exact reports_here hhere 1
        · exact reports_pure _
    · exact reports_here hhere 1

theorem reports_readItem? {item : Reader α} {index : Nat}
    (hitem : Reports allowed (within (.index index) item)) :
    Reports allowed (readItem? item index) := by
  refine (reports_moreItems hhere _).bind fun more => ?_
  split
  · exact hitem.bind fun _ => reports_pure _
  · exact reports_pure _

theorem reports_readItems {item : Reader α}
    (hitem : ∀ index, Reports allowed (within (.index index) item)) (steps index : Nat) :
    Reports allowed (readItems item steps index) := by
  induction steps generalizing index with
  | zero => exact reports_pure _
  | succ steps ih =>
    refine (reports_readItem? hhere (hitem index)).bind fun item? => ?_
    split
    · exact reports_pure _
    · exact (ih _).bind fun _ => reports_pure _

end Flat

/-- An object reports what its members report, each under its key. -/
theorem reports_readMembers {member : σ → String → Reader σ}
    (hkey : ∀ report : Report, allowed (report.under .unnamed))
    (hmember : ∀ gathered key, Reports allowed (member gathered key)) (steps : Nat) (first : Bool)
    (gathered : σ) : Reports allowed (readMembers member steps first gathered) := by
  induction steps generalizing first gathered with
  | zero => exact reports_pure _
  | succ steps ih =>
    have hnext : Reports allowed (nextKey? first) :=
      Reports.within (reports_anything _) fun report _ => hkey report
    refine hnext.bind fun key? => ?_
    split
    · exact reports_pure _
    · exact (hmember _ _).bind fun _ => ih _ _

end Reader

namespace Form

theorem not_skips_nil (form : Form) : ¬form.Skips [] := nofun

theorem not_skips_unnamed {form : Form} {path : List PathStep} :
    ¬form.Skips (.unnamed :: path) := nofun

/-- Of a node nothing is skipped. -/
theorem not_skips_node (path : List PathStep) : ¬Form.node.Skips path := by
  induction path with
  | nil => exact not_skips_nil .node
  | cons pathStep path ih =>
    intro h
    cases h with
    | member hpart h =>
      dsimp only [part?] at hpart
      split_ifs at hpart
      cases hpart
      exact ih h
    | position _ hpart h =>
      dsimp only [part?] at hpart
      split_ifs at hpart
      cases hpart
      exact ih h

/-- Of a property nothing is skipped. -/
theorem not_skips_property (path : List PathStep) : ¬Form.property.Skips path := by
  intro h
  cases h with
  | member hpart h =>
    dsimp only [part?] at hpart
    split_ifs at hpart
    cases hpart
    exact not_skips_node _ h
  | position hposition => cases hposition

/-- Of a part of an entity entry nothing is skipped. -/
theorem not_skips_part {name : String} {part : Form} {path : List PathStep}
    (hpart : Form.entity.part? name = some part) : ¬part.Skips path := by
  intro h
  dsimp only [part?] at hpart
  split_ifs at hpart
  · cases hpart
    cases h with
    | item h => exact not_skips_property _ h
    | member hnone => cases hnone
    | position hposition => cases hposition
  · cases hpart
    exact not_skips_node _ h

theorem not_skips_entity_key {name : String} {path : List PathStep} (hname : name ∈ entityNames) :
    ¬Form.entity.Skips (.key name :: path) := by
  intro h
  cases h with
  | entity hother => exact hother hname
  | member hpart h => exact not_skips_part hpart h

theorem not_skips_entity_index {i : Nat} {path : List PathStep} :
    ¬Form.entity.Skips (.index i :: path) := by
  intro h
  cases h with
  | position _ hpart h => exact not_skips_part hpart h

/-- A report on a value of a form that is not of a limit inside what is skipped. -/
def Spares (form : Form) (report : Report) : Prop := report.1.IsLimit → ¬form.Skips report.2

theorem spares_here (form : Form) (cause : FaultCause) : form.Spares (cause, []) :=
  fun _ => form.not_skips_nil

end Form

section Document

variable {α : Type} {allowed : Report → Prop} {levels : Nat}

/-- A field is refused when it is repeated, and otherwise for what its reader reports. -/
theorem reports_readOnce (hhere : ∀ cause, allowed (cause, [])) {name : String} {current : Option α}
    {reader : Reader α} (h : Reports allowed (within (.key name) reader)) :
    Reports allowed (readOnce name current reader) := by
  have hvalue : Reports allowed (do readColon; return some (← within (.key name) reader)) :=
    (reports_readColon fun _ => hhere _).bind fun _ => h.bind fun _ => reports_pure _
  unfold readOnce
  split
  · exact (reports_failData (hhere _)).bind fun _ => hvalue
  · exact hvalue

/-- A member that is skipped is refused for no limit. -/
theorem reports_skipMember (form : Form) (name : String) :
    Reports form.Spares (skipMember name) := by
  refine (reports_readColon fun _ => form.spares_here _).bind fun _ => ?_
  have hvalue : Reports (fun report => ¬report.1.IsLimit) skipValue := reports_skipValue fun h => h
  exact hvalue.within fun report h hlimit => absurd hlimit h

theorem reports_ofExcept (hhere : ∀ cause, allowed (cause, [])) (x : Except DataFault α) :
    Reports allowed (Reader.ofExcept x) := by
  cases x with
  | ok a => exact reports_pure a
  | error fault => exact reports_failData (hhere _)

/-- A member of an entity is refused for no limit if it is skipped. -/
theorem reports_readEntityMember (fields : EntityFields) (name : String) :
    Reports Form.entity.Spares (readEntityMember levels fields name) := by
  have honce {β : Type} {current : Option β} {reader : Reader β} (hname : name ∈ entityNames) :
      Reports Form.entity.Spares (readOnce name current reader) :=
    reports_readOnce (Form.entity.spares_here) ((reports_anything reader).within fun _ _ _ =>
      Form.not_skips_entity_key hname)
  unfold readEntityMember
  split_ifs with h₁ h₂ h₃ h₄ h₅
  · exact (honce (by simp [entityNames, h₁])).bind fun _ => reports_pure _
  · exact (honce (by simp [entityNames, h₂])).bind fun _ => reports_pure _
  · exact (honce (by simp [entityNames, h₃])).bind fun _ => reports_pure _
  · exact (honce (by simp [entityNames, h₄])).bind fun _ => reports_pure _
  · exact (honce (by simp [entityNames, h₅])).bind fun _ => reports_pure _
  · exact (reports_skipMember .entity name).bind fun _ => reports_pure _

theorem reports_readEntity (levels : Nat) : Reports Form.entity.Spares (readEntity levels) := by
  have hitem {β : Type} {reader : Reader β} {index : Nat} :
      Reports Form.entity.Spares (readItem? reader index) :=
    reports_readItem? Form.entity.spares_here ((reports_anything reader).within fun _ _ _ =>
      Form.not_skips_entity_index)
  refine reports_readEither Form.entity.spares_here ?_ ?_ levels
  · rintro _ ⟨⟩ levels
    refine hitem.bind fun name? => ?_
    split
    · exact hitem.bind fun _ => hitem.bind fun _ => hitem.bind fun _ => hitem.bind fun _ =>
        reports_pure _
    · exact reports_failData (Form.entity.spares_here _)
  · rintro _ ⟨⟩ levels
    refine reports_loopBound.bind fun steps => Reports.bind ?_ fun fields =>
      reports_ofExcept Form.entity.spares_here _
    exact reports_readMembers (fun _ _ => Form.not_skips_unnamed) reports_readEntityMember steps
      true _

theorem reports_readSequence (levels : Nat) :
    Reports (Form.sequence .entity).Spares (readSequence readEntity levels) := by
  refine reports_readEither (Form.sequence .entity).spares_here ?_ (by simp) levels
  rintro _ ⟨⟩ levels
  refine reports_loopBound.bind fun steps =>
    reports_readItems (Form.sequence .entity).spares_here (fun index => ?_) steps 0
  refine (reports_readEntity levels).within fun report h hlimit hskips => ?_
  cases hskips with
  | item hskips => exact h hlimit hskips
  | position hposition => cases hposition

theorem spares_sequence_of_part {name : String} {part : Form} {report : Report}
    (hpart : Form.document.part? name = some part)
    (h : (Form.sequence .entity).Spares report) (hlimit : report.1.IsLimit) :
    ¬part.Skips report.2 := by
  dsimp only [Form.part?] at hpart
  split_ifs at hpart
  cases hpart
  exact h hlimit

/-- A member of a document is refused for no limit if it is skipped, or inside what it skips. -/
theorem reports_readDocumentMember (entities : Option (List EntityEntry)) (name : String) :
    Reports Form.document.Spares (readDocumentMember levels entities name) := by
  unfold readDocumentMember
  split
  case isTrue hname =>
    subst hname
    refine reports_readOnce Form.document.spares_here
      ((reports_readSequence levels).within fun report h hlimit hskips => ?_)
    cases hskips with
    | document hother => exact hother (by simp [documentNames])
    | member hpart hskips => exact spares_sequence_of_part hpart h hlimit hskips
  case isFalse =>
    exact (reports_skipMember .document name).bind fun _ => reports_pure _

/-- A document is refused for no limit inside what it skips. -/
theorem reports_readEntries (levels : Nat) :
    Reports Form.document.Spares (readEntries levels) := by
  refine reports_readEither Form.document.spares_here ?_ ?_ levels
  · rintro _ ⟨⟩ levels
    refine Reports.bind (reports_readItem? Form.document.spares_here
      ((reports_readSequence levels).within fun report h hlimit hskips => ?_)) fun entities? => ?_
    · cases hskips with
      | position _ hpart hskips => exact spares_sequence_of_part hpart h hlimit hskips
    · split
      · exact reports_pure _
      · exact reports_failData (Form.document.spares_here _)
  · rintro _ ⟨⟩ levels
    refine reports_loopBound.bind fun steps => Reports.bind ?_ fun entities? => ?_
    · exact reports_readMembers (fun _ _ => Form.not_skips_unnamed) reports_readDocumentMember
        steps true none
    · split
      · exact reports_pure _
      · exact reports_failData (Form.document.spares_here _)

end Document

/-- The direct reading of a text is refused for no limit inside what it skips. -/
theorem not_skips_of_entriesOfText? {text : String} {fault : Fault}
    (h : entriesOfText? text = .error fault) (hlimit : fault.cause.IsLimit) :
    ¬Form.document.Skips fault.path := by
  have hreport : (readEntries depthLimit).outcome (.ofText text) =
      .error (fault.cause, fault.path) := by
    have hrun : (readEntries depthLimit (.ofText text)).1 = .error fault := h
    rw [outcome]
    split
    · next heq => rw [heq] at hrun; cases hrun
    · next heq =>
      rw [heq] at hrun
      obtain rfl := Except.error.inj hrun
      rfl
  exact reports_readEntries depthLimit _ _ hreport hlimit

end EntityModels
