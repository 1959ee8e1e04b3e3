import EntityModels.Json.Reader
import EntityModels.Proofs.Except
import EntityModels.Proofs.Json.Cursor

/-!
What a reader makes of a position, up to the place and the path of a fault: a result with the
position reached, or what is wrong. In these terms brackets are read, closed and left like a plain
sequence of steps, and readers are compared position by position: one that reads a value whole with
one that reads what is seen in it, and with one that skips it.
-/
namespace EntityModels

@[simp] theorem ok_bind {ε α β : Type} (a : α) (f : α → Except ε β) : (.ok a >>= f) = f a := rfl

@[simp] theorem error_bind {ε α β : Type} (fault : ε) (f : α → Except ε β) :
    (.error fault >>= f) = .error fault := rfl

/-- Whether a fault is one of building a value: a value that is only skipped may hold numbers out of
range and halves of surrogate pairs, and may be nested without limit. -/
def FaultCause.IsLimit (cause : FaultCause) : Prop :=
  cause ∈ [.text .numberOutOfRange, .text .tooDeep, .text .loneSurrogate, .text .endOfEscape]

instance (cause : FaultCause) : Decidable cause.IsLimit :=
  inferInstanceAs (Decidable (cause ∈ _))

/-- What is wrong, and the path to it. -/
abbrev Report := FaultCause × List PathStep

/-- The report seen from one level further out. -/
def Report.under (pathStep : PathStep) (report : Report) : Report :=
  (report.1, pathStep :: report.2)

namespace Reader

variable {α β γ δ : Type}

/-- What a reader makes of a position: a result and the position reached, or what is wrong. -/
def outcome (reader : Reader α) (c : Cursor) : Except Report (α × Cursor) :=
  match reader c with
  | (.ok a, c') => .ok (a, c')
  | (.error fault, _) => .error (fault.cause, fault.path)

@[simp] theorem outcome_pure (a : α) (c : Cursor) :
    (pure a : Reader α).outcome c = .ok (a, c) := rfl

@[simp] theorem outcome_bind (reader : Reader α) (f : α → Reader β) (c : Cursor) :
    (reader >>= f).outcome c =
      reader.outcome c >>= fun reached => (f reached.1).outcome reached.2 := by
  rcases h : reader c with ⟨_ | _, c'⟩
  · simp only [outcome, bind, ExceptT.bind, ExceptT.mk, StateT.bind, h, Except.bind]
    rfl
  · simp only [outcome, bind, ExceptT.bind, ExceptT.mk, StateT.bind, h, Except.bind]
    rfl

@[simp] theorem outcome_map (f : α → β) (reader : Reader α) (c : Cursor) :
    (f <$> reader).outcome c =
      reader.outcome c >>= fun reached => .ok (f reached.1, reached.2) := by
  rw [← bind_pure_comp, outcome_bind]
  rfl

@[simp] theorem outcome_discard (reader : Reader α) (c : Cursor) :
    (discard reader).outcome c = reader.outcome c >>= fun reached => .ok ((), reached.2) :=
  outcome_map _ reader c

@[simp] theorem outcome_get (c : Cursor) : (get : Reader Cursor).outcome c = .ok (c, c) := rfl

@[simp] theorem outcome_look (c : Cursor) : look.outcome c = .ok (c.rest.head?, c) := rfl

@[simp] theorem outcome_step (c : Cursor) : step.outcome c = .ok ((), c.next) := rfl

@[simp] theorem outcome_lookToken (c : Cursor) :
    lookToken.outcome c = .ok (c.token.rest.head?, c.token) := rfl

@[simp] theorem outcome_failAfter (bytes : Nat) (fault : SyntaxFault) (c : Cursor) :
    (failAfter bytes fault : Reader α).outcome c = .error (.text fault, []) := rfl

@[simp] theorem outcome_failHere (fault : SyntaxFault) (c : Cursor) :
    (failHere fault : Reader α).outcome c = .error (.text fault, []) := rfl

@[simp] theorem outcome_failNext (fault : SyntaxFault) (c : Cursor) :
    (failNext fault : Reader α).outcome c = .error (.text fault, []) := rfl

/-- Where a fault is placed has no influence on what is read. -/
@[simp] theorem outcome_placed (reader : Reader α) (c : Cursor) :
    (placed reader).outcome c = reader.outcome c := by
  rcases h : reader c with ⟨_ | _, c'⟩ <;> simp [outcome, placed, h, Fault.placedAt]

/-- A step of the path is put in front of the path of a fault. -/
@[simp] theorem outcome_within (pathStep : PathStep) (reader : Reader α) (c : Cursor) :
    (within pathStep reader).outcome c = (reader.outcome c).mapError (Report.under pathStep) := by
  rcases h : reader c with ⟨_ | _, c'⟩ <;>
    simp [outcome, within, h, Fault.under, Report.under, Except.mapError]

/-- A fault inside brackets wins over one in closing them, as in any sequence of steps. -/
@[simp] theorem outcome_enclosed (inside : Reader α) (close : Reader Unit) (c : Cursor) :
    (enclosed inside close).outcome c =
      inside.outcome c >>= fun reached => close.outcome reached.2 >>= fun closed =>
        .ok (reached.1, closed.2) := by
  rcases h : inside c with ⟨_ | a, c'⟩ <;> rcases h' : close c' with ⟨_ | _, c''⟩ <;>
    simp [outcome, enclosed, h, h', Fault.placedAt, bind, Except.bind]

/-- Where the reader succeeds, it reaches a position further on, or the same. -/
def Forward (reader : Reader α) : Prop :=
  ∀ c a c', reader.outcome c = .ok (a, c') → c.Precedes c'

theorem Forward.bind {reader : Reader α} {f : α → Reader β} (h : Forward reader)
    (hf : ∀ a, Forward (f a)) : Forward (reader >>= f) := by
  intro c b c' hok
  rw [outcome_bind, bind_eq_ok_iff] at hok
  obtain ⟨⟨a, c₁⟩, ha, hb⟩ := hok
  exact (h c a c₁ ha).trans (hf a c₁ b c' hb)

/-- A reader that always succeeds goes on if the position it reaches is further on. -/
theorem forward_of_ok {reader : Reader α} {result : Cursor → α × Cursor}
    (h : ∀ c, reader.outcome c = .ok (result c))
    (hresult : ∀ c : Cursor, c.Precedes (result c).2) : Forward reader := by
  intro c a c' hok
  have hreached : result c = (a, c') := Except.ok.inj ((h c).symm.trans hok)
  simpa only [hreached] using hresult c

theorem forward_pure (a : α) : Forward (pure a : Reader α) :=
  forward_of_ok (fun _ => rfl) Cursor.Precedes.refl

theorem forward_look : Forward look :=
  forward_of_ok (fun _ => rfl) Cursor.Precedes.refl

theorem forward_step : Forward step :=
  forward_of_ok (fun _ => rfl) Cursor.precedes_next

theorem forward_lookToken : Forward lookToken :=
  forward_of_ok (fun _ => rfl) Cursor.precedes_token

theorem forward_failHere (fault : SyntaxFault) : Forward (failHere fault : Reader α) :=
  fun _ _ _ hok => nomatch hok

theorem forward_failNext (fault : SyntaxFault) : Forward (failNext fault : Reader α) :=
  fun _ _ _ hok => nomatch hok

/-- The outcomes at one position of reading a value whole, and of reading it for what `view` sees
in it: both reach the same position if something is seen, and seeing nothing is failing. Where the
value is not read, nothing is seen, unless the report is excused. -/
def Agrees (excused : Report → Prop) (view : β → Option α) (whole : Except Report (β × Cursor))
    (seen : Except Report (α × Cursor)) : Prop :=
  match whole with
  | .ok (b, c) => seen.toOption = (view b).map (·, c)
  | .error report => excused report ∨ seen.toOption = none

section Agrees

variable {excused excused' : Report → Prop} {view : β → Option α} {view' : δ → Option γ} {b : β}
  {a : α} {c : Cursor} {report report' : Report} {whole : Except Report (β × Cursor)}
  {seen : Except Report (α × Cursor)}

theorem Agrees.ok (h : view b = some a) : Agrees excused view (.ok (b, c)) (.ok (a, c)) := by
  simp [Agrees, h, Except.toOption]

/-- Nothing is seen in the value that is read, and the other reader fails. -/
theorem Agrees.nothing (h : view b = none) : Agrees excused view (.ok (b, c)) (.error report) := by
  simp [Agrees, h, Except.toOption]

theorem Agrees.error : Agrees excused view (.error report) (.error report') := .inr rfl

/-- What follows a part is compared where something is seen in the part. Where nothing is, nothing
must be seen in the whole. -/
theorem Agrees.bind {g : β × Cursor → Except Report (δ × Cursor)}
    {f : α × Cursor → Except Report (γ × Cursor)} (h : Agrees excused view whole seen)
    (hsome : ∀ b a c, whole = .ok (b, c) → view b = some a →
      Agrees excused view' (g (b, c)) (f (a, c)))
    (hnone : ∀ b c d c', whole = .ok (b, c) → view b = none → g (b, c) = .ok (d, c') →
      view' d = none) : Agrees excused view' (whole >>= g) (seen >>= f) := by
  have hfail (hseen : seen.toOption = none) : (seen >>= f).toOption = none := by
    cases seen with
    | error _ => rfl
    | ok _ => contradiction
  rcases whole with report | ⟨b, c⟩
  · exact h.imp_right hfail
  · have hread : seen.toOption = (view b).map (·, c) := h
    cases hview : view b with
    | none =>
      rw [hview, Option.map_none] at hread
      have hseen : (seen >>= f).toOption = none := hfail hread
      rcases hg : g (b, c) with report | ⟨d, c'⟩
      · rw [ok_bind, hg]
        exact .inr hseen
      · rw [ok_bind, hg, Agrees, hnone b c d c' rfl hview hg]
        exact hseen
    | some a =>
      rw [hview, Option.map_some] at hread
      have hseen : seen = .ok (a, c) := toOption_eq_some_iff.mp hread
      rw [hseen]
      exact hsome b a c rfl hview

/-- A reader that fails agrees when nothing is seen in whatever is read. -/
theorem Agrees.of_fails (hseen : seen.toOption = none)
    (hview : ∀ b c, whole = .ok (b, c) → view b = none) : Agrees excused view whole seen := by
  rcases whole with _ | ⟨b, c⟩
  · exact .inr hseen
  · rw [Agrees, hview b c rfl]
    exact hseen

/-- What is seen may be changed, where the view changes alike. -/
theorem Agrees.map {view' : β → Option γ} {k : α → γ} (h : Agrees excused view whole seen)
    (hview : ∀ b c, whole = .ok (b, c) → view' b = k <$> view b) :
    Agrees excused view' whole (seen >>= fun reached => .ok (k reached.1, reached.2)) := by
  have hmap : (seen >>= fun reached => .ok (k reached.1, reached.2)).toOption =
      seen.toOption.map fun reached => (k reached.1, reached.2) := by
    cases seen <;> rfl
  rcases whole with report | ⟨b, c⟩
  · exact h.imp_right fun hnone => by rw [hmap, hnone]; rfl
  · have hseen : seen.toOption = (view b).map (·, c) := h
    rw [Agrees, hmap, hseen, hview b c rfl]
    cases view b <;> rfl

/-- The value may be viewed inside another. -/
theorem Agrees.of_comp {view : γ → Option α} {f : β → γ}
    (h : Agrees excused (fun b => view (f b)) whole seen) :
    Agrees excused view (whole >>= fun reached => .ok (f reached.1, reached.2)) seen := by
  rcases whole with _ | ⟨b, c⟩
  · exact h
  · exact h

/-- What is seen may be viewed otherwise, where the views agree on what is read. -/
theorem Agrees.congr {view' : β → Option α} (h : Agrees excused view whole seen)
    (hview : ∀ b c, whole = .ok (b, c) → view' b = view b) : Agrees excused view' whole seen := by
  rcases whole with _ | ⟨b, c⟩
  · exact h
  · rw [Agrees, hview b c rfl]
    exact h

/-- Reports of a part are excused where they are seen from outside. -/
theorem Agrees.within {pathStep : PathStep} (h : Agrees excused view whole seen)
    (hexcused : ∀ report, excused report → excused' (report.under pathStep)) :
    Agrees excused' view (whole.mapError (Report.under pathStep))
      (seen.mapError (Report.under pathStep)) := by
  have hseen : (seen.mapError (Report.under pathStep)).toOption = seen.toOption := by
    cases seen <;> rfl
  rcases whole with report | ⟨b, c⟩
  · exact h.imp (hexcused report) hseen.trans
  · exact hseen.trans h

end Agrees

/-- The outcomes at one position of reading something, and of skipping it and going on: skipping
goes on where reading ends, and fails where reading fails except at a limit. -/
def SkipsTo (goOn : Cursor → Except Report (α × Cursor))
    (whole : Except Report (β × Cursor)) (skip : Except Report (α × Cursor)) : Prop :=
  match whole with
  | .ok (_, c) => skip = goOn c
  | .error report => report.1.IsLimit ∨ skip.toOption = none

/-- The outcomes at one position of reading something and of skipping it. -/
def Skips (whole : Except Report (β × Cursor)) (skip : Except Report (Unit × Cursor)) : Prop :=
  SkipsTo (fun c => .ok ((), c)) whole skip

section SkipsTo

variable {c : Cursor} {b : β} {report report' : Report} {whole : Except Report (β × Cursor)}
  {skip : Except Report (α × Cursor)} {goOn : Cursor → Except Report (α × Cursor)}

theorem SkipsTo.ok : SkipsTo goOn (.ok (b, c)) (goOn c) := rfl

theorem SkipsTo.error : SkipsTo goOn (.error report : Except Report (β × Cursor))
    (.error report') :=
  .inr rfl

/-- What goes beyond a limit may be skipped as anything. -/
theorem SkipsTo.limit (h : report.1.IsLimit) :
    SkipsTo goOn (.error report : Except Report (β × Cursor)) skip :=
  .inl h

/-- The path of a report has no influence. -/
theorem SkipsTo.within (pathStep : PathStep) (h : SkipsTo goOn whole skip) :
    SkipsTo goOn (whole.mapError (Report.under pathStep)) skip := by
  rcases whole with _ | ⟨b, c⟩
  · exact h
  · exact h

/-- What is read in two steps is skipped in two, the second from wherever the first has led. -/
theorem SkipsTo.bind {goOn' : Cursor → Except Report (α × Cursor)}
    {g : β × Cursor → Except Report (γ × Cursor)} (h : SkipsTo goOn whole skip)
    (hrest : ∀ b c, whole = .ok (b, c) → SkipsTo goOn' (g (b, c)) (goOn c)) :
    SkipsTo goOn' (whole >>= g) skip := by
  rcases whole with _ | ⟨b, c⟩
  · exact h
  · obtain rfl : skip = goOn c := h
    exact hrest b c rfl

/-- What is made of the value has no influence on the position. -/
theorem SkipsTo.map {f : β × Cursor → γ} (h : SkipsTo goOn whole skip) :
    SkipsTo goOn (whole >>= fun reached => .ok (f reached, reached.2)) skip :=
  h.bind fun _ _ _ => .ok

theorem Skips.refl (reader : Reader Unit) (c : Cursor) :
    Skips (reader.outcome c) (reader.outcome c) := by
  rcases reader.outcome c with _ | ⟨_, c'⟩
  · exact .error
  · exact .ok

/-- What is skipped like it is read leads on to anything. -/
theorem Skips.leads {skip : Except Report (Unit × Cursor)} (h : Skips whole skip)
    (goOn : Cursor → Except Report (α × Cursor)) :
    SkipsTo goOn whole (skip >>= fun reached => goOn reached.2) := by
  rcases whole with _ | ⟨b, c⟩
  · refine h.imp_right fun hskip => ?_
    cases skip with
    | error _ => rfl
    | ok _ => cases hskip
  · obtain rfl : skip = .ok ((), c) := h
    exact .ok

end SkipsTo

end Reader

end EntityModels
