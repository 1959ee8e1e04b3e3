import EntityModels.Proofs.Json.Frames

/-!
Skipping a value reaches the same position as reading it. What is read recursively is skipped with a
stack of open brackets, so a value is followed inside whatever brackets are open around it.
-/
namespace EntityModels.Reader

variable {α β : Type} {c c' : Cursor}

/-- What is read is skipped, inside whatever brackets are open. -/
def Skipped (reader : Reader α) : Prop :=
  ∀ frames (c : Cursor), c.Bounded →
    SkipsTo (skipFrom false frames) (reader.outcome c) (skipOver frames c)

/-- What is skipped as it is read takes at least one character to read. -/
theorem Skipped.advances {reader : Reader α} (h : Skipped reader) (hc : c.Bounded) {a : α}
    (hok : reader.outcome c = .ok (a, c')) : c.Advances c' := by
  have hskip := h [] c hc
  rw [hok] at hskip
  exact advances_of_skipOver hskip

variable {frames : List Frame}

/-- After a scalar the innermost bracket goes on. -/
theorem Skips.scalar {whole : Except Report (β × Cursor)}
    {skip : Except Report (Unit × Cursor)} (h : Skips whole skip) (f : β → Json) :
    SkipsTo (skipFrom false frames) (whole >>= fun reached => .ok (f reached.1, reached.2))
      ((skip >>= fun reached => .ok ((false, frames), reached.2)) >>= fun started =>
        skipFrom started.1.1 started.1.2 started.2) := by
  rw [bind_assoc]
  exact (h.leads (skipFrom false frames)).map

/-- Scalars are skipped like they are read; lists and objects are left to `list` and `object`. -/
theorem skipsTo_readScalarOr {list object : Reader Json} (hc : c.Bounded)
    (hlist : c.token.rest.head? = some '[' → SkipsTo (skipFrom false frames)
      (list.outcome c.token) (skipFrom true (.list :: frames) c.token.next))
    (hobject : c.token.rest.head? = some '\x7b' → SkipsTo (skipFrom false frames)
      (object.outcome c.token) (skipFrom true (.object :: frames) c.token.next)) :
    SkipsTo (skipFrom false frames) ((readScalarOr list object).outcome c) (skipOver frames c) := by
  simp only [readScalarOr, skipOver, skipStart, outcome_bind, outcome_lookToken, ok_bind]
  cases hhead : c.token.rest.head? with
  | none => exact .error
  | some d =>
    dsimp only
    split
    · simpa only [outcome_bind, outcome_step, ok_bind, outcome_pure] using
        (Skips.refl _ _).scalar fun _ => .null
    split
    · simpa only [outcome_bind, outcome_step, ok_bind, outcome_pure] using
        (Skips.refl _ _).scalar fun _ => .bool true
    split
    · simpa only [outcome_bind, outcome_step, ok_bind, outcome_pure] using
        (Skips.refl _ _).scalar fun _ => .bool false
    split
    · simpa only [outcome_bind, outcome_step, ok_bind, outcome_pure] using
        (skips_readNumber true _).scalar .number
    split
    · simpa only [outcome_bind, outcome_step, ok_bind, outcome_pure] using
        (skips_readString hc.token.next).scalar .string
    split
    case isTrue hd => subst hd; exact hlist hhead
    split
    case isTrue hd => subst hd; exact hobject hhead
    split
    · simpa only [outcome_bind, outcome_pure] using (skips_readNumber false _).scalar .number
    · exact .error

theorem forward_moreItems (first : Bool) : Forward (moreItems first) := by
  refine forward_lookToken.bind fun d? => ?_
  split
  · exact forward_failHere _
  split
  · exact forward_pure _
  split
  · exact forward_pure _
  split
  · refine forward_step.bind fun _ => forward_lookToken.bind fun e? => ?_
    split
    · exact forward_failHere _
    split
    · exact forward_failNext _
    · exact forward_pure _
  · exact forward_failNext _

theorem Skipped.advances_of_readItem? {item : Reader α} (hitem : Skipped item) {index : Nat}
    {c c' : Cursor} (hc : c.Bounded) {a : α}
    (h : (readItem? item index).outcome c = .ok (some a, c')) : c.Advances c' := by
  rw [readItem?, outcome_bind, bind_eq_ok_iff] at h
  obtain ⟨⟨more, c₁⟩, hmore, h⟩ := h
  have hprecedes := forward_moreItems _ _ _ _ hmore
  cases more with
  | false => simp at h
  | true =>
    simp only [if_true, outcome_bind, outcome_within, bind_eq_ok_iff, mapError_eq_ok_iff,
      outcome_pure, Except.ok.injEq, Prod.mk.injEq, Option.some.injEq] at h
    obtain ⟨⟨b, c₂⟩, hread, -, rfl⟩ := h
    exact hprecedes.advances (hitem.advances (hc.of_precedes hprecedes) hread)

/-- The outcomes at one position inside a bracket of reading what comes next, if something does, and
of skipping what is left of the bracket: skipping goes on after what has been read, and leaves the
bracket where nothing comes next. -/
def GoesOn (frame : Frame) (frames : List Frame) (goOn : Cursor → Except Report (Unit × Cursor))
    (c : Cursor) (next? : Except Report (Option β × Cursor))
    (skip : Except Report (Unit × Cursor)) : Prop :=
  match next? with
  | .ok (some _, c') => skip = goOn c'
  | .ok (none, c') =>
    c' = c.token ∧ c'.rest.head? = some frame.closing ∧ skip = skipFrom false frames c'.next
  | .error report => report.1.IsLimit ∨ skip.toOption = none

/-- What leads to the rest of a bracket goes on with it. -/
theorem SkipsTo.goesOn {frame : Frame} {goOn : Cursor → Except Report (Unit × Cursor)}
    {whole : Except Report (β × Cursor)} {skip : Except Report (Unit × Cursor)}
    (h : SkipsTo goOn whole skip) (c : Cursor) :
    GoesOn frame frames goOn c (whole >>= fun reached => .ok (some reached.1, reached.2)) skip := by
  rcases whole with _ | ⟨b, c'⟩
  · exact h
  · exact h

theorem GoesOn.within {frame : Frame} {goOn : Cursor → Except Report (Unit × Cursor)}
    {next? : Except Report (Option β × Cursor)} {skip : Except Report (Unit × Cursor)}
    (pathStep : PathStep) (h : GoesOn frame frames goOn c next? skip) :
    GoesOn frame frames goOn c (next?.mapError (Report.under pathStep)) skip := by
  rcases next? with _ | ⟨_ | b, c'⟩
  · exact h
  · exact h
  · exact h

/-- An item that is read goes on with the rest of the list, and so does one that is skipped. -/
theorem goesOn_readItem? {item : Reader α} (hitem : Skipped item) (index : Nat)
    (frames : List Frame) {c : Cursor} (hc : c.Bounded) :
    GoesOn .list frames (skipFrom false (.list :: frames)) c ((readItem? item index).outcome c)
      (skipFrom (index = 0) (.list :: frames) c) := by
  have hgo {c' : Cursor} (hc' : c'.Bounded) : GoesOn .list frames
      (skipFrom false (.list :: frames)) c
      ((item.outcome c').mapError (Report.under (.index index)) >>= fun reached =>
        .ok (some reached.1, reached.2)) (skipOver (.list :: frames) c') :=
    ((hitem (.list :: frames) c' hc').within _).goesOn c
  simp only [readItem?, moreItems, outcome_bind, outcome_lookToken, ok_bind]
  cases hhead : c.token.rest.head? with
  | none => exact .inr (fails_skipFrom (by rw [hhead]; nofun) (.inl hhead))
  | some d =>
    by_cases hclose : d = ']'
    · subst hclose
      rw [skipFrom_closing hhead]
      exact ⟨rfl, hhead, rfl⟩
    by_cases hfirst : index = 0
    · -- the first item follows the bracket
      subst hfirst
      have hopened : d ≠ Frame.list.closing := hclose
      rw [decide_eq_true rfl, skipFrom_opened hhead hopened, skipInto, outcome_pure, ok_bind]
      simp only [hclose, if_true, if_false, outcome_bind, outcome_pure, ok_bind, outcome_within]
      exact hgo hc.token
    by_cases hcomma : d = ','
    · -- any other item follows a comma, and a list does not end with one
      subst hcomma
      rw [decide_eq_false hfirst, skipFrom_comma hhead, skipInto, outcome_pure, ok_bind]
      simp only [hclose, Bool.false_eq_true, if_true, if_false, outcome_bind, outcome_step,
        outcome_lookToken, ok_bind]
      cases hhead' : c.token.next.token.rest.head? with
      | none => exact .inr (fails_skipOver (.inl hhead'))
      | some e =>
        by_cases hend : e = ']'
        · subst hend
          exact .inr (fails_skipOver (.inr hhead'))
        · simp only [hend, if_true, if_false, outcome_bind, outcome_pure, ok_bind, outcome_within]
          rw [← skipOver_token]
          exact hgo hc.token.next.token
    · simp only [hclose, hfirst, hcomma, decide_false, Bool.false_eq_true, if_false]
      refine .inr (fails_skipFrom ?_ (.inr ⟨rfl, ?_⟩))
      · rw [hhead]
        exact fun h => hclose (Option.some.inj h)
      · rw [hhead]
        exact fun h => hcomma (Option.some.inj h)

theorem outcome_endList (h : c.token.rest.head? = some ']') :
    endList.outcome c = .ok ((), c.token.next) := by
  simp only [endList, outcome_bind, outcome_lookToken, ok_bind, h, if_true, outcome_step]

/-- The items of a list and its end are skipped in turn. -/
theorem skipsTo_readItems {item : Reader α} (hitem : Skipped item) {steps : Nat} (index : Nat)
    {c : Cursor} (hc : c.Bounded) (hsteps : c.rest.length < steps) :
    SkipsTo (skipFrom false frames)
      ((readItems item steps index).outcome c >>= fun reached =>
        endList.outcome reached.2 >>= fun closed => .ok (reached.1, closed.2))
      (skipFrom (index = 0) (.list :: frames) c) := by
  -- the bound on the number of items falls with what is left of the text
  induction steps generalizing index c with
  | zero => omega
  | succ steps ih =>
    have hnext := goesOn_readItem? hitem index frames hc
    simp only [readItems, outcome_bind]
    rcases hread : (readItem? item index).outcome c with cause | ⟨_ | a, c'⟩
    · rw [hread] at hnext
      exact hnext
    · rw [hread] at hnext
      obtain ⟨rfl, hclose, hleave⟩ := hnext
      have hend : endList.outcome c.token = .ok ((), c.token.next) := by
        rw [outcome_endList (by rw [Cursor.token_token]; exact hclose), Cursor.token_token]
      rw [hleave, ok_bind, outcome_pure, ok_bind, hend]
      exact .ok
    · rw [hread] at hnext
      have hc' := hitem.advances_of_readItem? hc hread
      have hlt := hc'.length_lt
      have hskip : skipFrom (index = 0) (.list :: frames) c =
          skipFrom false (.list :: frames) c' := hnext
      have hrest := (ih (index + 1) (hc.of_precedes hc'.precedes) (by omega)).map
        (f := fun reached => a :: reached.1)
      rw [decide_eq_false (Nat.succ_ne_zero index)] at hrest
      rw [hskip]
      simpa only [ok_bind, outcome_bind, outcome_pure, bind_assoc] using hrest

theorem forward_moreMembers (first : Bool) : Forward (moreMembers first) := by
  refine forward_lookToken.bind fun d? => ?_
  split
  · exact forward_failHere _
  split
  · exact forward_pure _
  split
  · split
    · exact forward_pure _
    · exact forward_failNext _
  split
  · refine forward_step.bind fun _ => forward_lookToken.bind fun e? => ?_
    split
    · exact forward_failHere _
    split
    · exact forward_pure _
    split
    · exact forward_failNext _
    · exact forward_failNext _
  · exact forward_failNext _

theorem precedes_of_readString {text : String} (hc : c.Bounded)
    (h : readString.outcome c = .ok (text, c')) : c.Precedes c' := by
  have hskip := skips_readString hc
  rw [h] at hskip
  exact forward_skipString _ _ _ hskip

theorem precedes_of_nextKey? {first : Bool} {key? : Option String} (hc : c.Bounded)
    (h : (nextKey? first).outcome c = .ok (key?, c')) : c.Precedes c' := by
  rw [nextKey?, outcome_within, mapError_eq_ok_iff, outcome_bind, bind_eq_ok_iff] at h
  obtain ⟨⟨more, c₁⟩, hmore, h⟩ := h
  have hprecedes := forward_moreMembers _ _ _ _ hmore
  cases more with
  | false =>
    obtain ⟨-, rfl⟩ := Prod.mk.inj (Except.ok.inj h)
    exact hprecedes
  | true =>
    simp only [if_true, outcome_bind, outcome_step, ok_bind, bind_eq_ok_iff, outcome_pure,
      Except.ok.injEq, Prod.mk.injEq] at h
    obtain ⟨⟨text, c₂⟩, hread, -, rfl⟩ := h
    have hnext := hprecedes.trans c₁.precedes_next
    exact hnext.trans (precedes_of_readString (hc.of_precedes hnext) hread)

/-- Goes on with a skipped member after its key. -/
def skipMemberFrom (frames : List Frame) (c : Cursor) : Except Report (Unit × Cursor) :=
  readColon.outcome c >>= fun reached => skipOver (.object :: frames) reached.2

theorem goesOn_key (first : Cursor) {c : Cursor} (hc : c.Bounded)
    (hquote : c.token.rest.head? = some '"') :
    GoesOn .object frames (skipMemberFrom frames) first
      (readString.outcome c.token.next >>= fun reached => .ok (some reached.1, reached.2))
      (skipKey.outcome c >>= fun reached => skipOver (.object :: frames) reached.2) := by
  have hkey := (skips_readString hc.token.next).leads (skipMemberFrom frames)
  simpa only [skipKey, hquote, if_true, outcome_bind, outcome_lookToken, outcome_step, ok_bind,
    bind_assoc, skipMemberFrom] using hkey.goesOn first

/-- Where no quotation mark stands, no key is skipped. -/
theorem fails_key (h : c.token.rest.head? ≠ some '"') :
    (skipKey.outcome c >>= fun reached => skipOver frames reached.2).toOption = none := by
  simp only [skipKey, outcome_bind, outcome_lookToken, ok_bind]
  cases hhead : c.token.rest.head? with
  | none => rfl
  | some d =>
    have hquote : d ≠ '"' := fun hd => h (by rw [hhead, hd])
    simp only [hquote, if_false]
    rfl

/-- A key that is read goes on with its member, and so does one that is skipped. -/
theorem goesOn_nextKey? (first : Bool) (frames : List Frame) {c : Cursor} (hc : c.Bounded) :
    GoesOn .object frames (skipMemberFrom frames) c ((nextKey? first).outcome c)
      (skipFrom first (.object :: frames) c) := by
  rw [nextKey?, outcome_within]
  apply GoesOn.within
  simp only [moreMembers, outcome_bind, outcome_lookToken, ok_bind]
  cases hhead : c.token.rest.head? with
  | none => exact .inr (fails_skipFrom (by rw [hhead]; nofun) (.inl hhead))
  | some d =>
    by_cases hclose : d = '\x7d'
    · subst hclose
      rw [skipFrom_closing hhead]
      exact ⟨rfl, hhead, rfl⟩
    cases first with
    | true =>
      have hopened : d ≠ Frame.object.closing := hclose
      rw [skipFrom_opened hhead hopened, skipInto]
      by_cases hquote : d = '"'
      · subst hquote
        have hkey : c.token.token.rest.head? = some '"' := by rw [Cursor.token_token, hhead]
        simp only [hclose, if_true, if_false, outcome_bind, outcome_pure, ok_bind, outcome_step]
        simpa only [Cursor.token_token] using goesOn_key c hc.token hkey
      · simp only [hclose, hquote, if_true, if_false, outcome_failNext, error_bind]
        refine .inr (fails_key fun h => hquote ?_)
        rw [Cursor.token_token, hhead] at h
        exact Option.some.inj h
    | false =>
      by_cases hcomma : d = ','
      · -- any other key follows a comma, and an object does not end with one
        subst hcomma
        rw [skipFrom_comma hhead, skipInto]
        simp only [hclose, Bool.false_eq_true, if_true, if_false, outcome_bind, outcome_step,
          outcome_lookToken, ok_bind]
        cases hhead' : c.token.next.token.rest.head? with
        | none => exact .inr (fails_key (by rw [hhead']; nofun))
        | some e =>
          by_cases hquote : e = '"'
          · subst hquote
            simp only [if_true, outcome_pure, outcome_step, outcome_bind, ok_bind]
            exact goesOn_key c hc.token.next hhead'
          · have hkey : c.token.next.token.rest.head? ≠ some '"' := by
              rw [hhead']
              exact fun h => hquote (Option.some.inj h)
            simp only [hquote, if_false]
            split
            · exact .inr (fails_key hkey)
            · exact .inr (fails_key hkey)
      · simp only [hclose, hcomma, Bool.false_eq_true, if_false]
        refine .inr (fails_skipFrom ?_ (.inr ⟨rfl, ?_⟩))
        · rw [hhead]
          exact fun h => hclose (Option.some.inj h)
        · rw [hhead]
          exact fun h => hcomma (Option.some.inj h)

theorem outcome_endObject (h : c.token.rest.head? = some '\x7d') :
    endObject.outcome c = .ok ((), c.token.next) := by
  simp only [endObject, outcome_bind, outcome_lookToken, ok_bind, h, if_true, outcome_step]

/-- The members of an object and its end are skipped in turn. -/
theorem skipsTo_readMembers {value : Reader Json} (hvalue : Skipped value) {steps : Nat}
    (first : Bool) (gathered : List (String × Json)) {c : Cursor} (hc : c.Bounded)
    (hsteps : c.rest.length < steps) :
    SkipsTo (skipFrom false frames)
      ((readMembers (consMember value) steps first gathered).outcome c >>= fun reached =>
        endObject.outcome reached.2 >>= fun closed => .ok (reached.1, closed.2))
      (skipFrom first (.object :: frames) c) := by
  induction steps generalizing first gathered c with
  | zero => omega
  | succ steps ih =>
    have hnext := goesOn_nextKey? first frames hc
    simp only [readMembers, outcome_bind]
    rcases hread : (nextKey? first).outcome c with cause | ⟨_ | key, c'⟩
    · rw [hread] at hnext
      exact hnext
    · rw [hread] at hnext
      obtain ⟨rfl, hclose, hleave⟩ := hnext
      have hend : endObject.outcome c.token = .ok ((), c.token.next) := by
        rw [outcome_endObject (by rw [Cursor.token_token]; exact hclose), Cursor.token_token]
      rw [hleave, ok_bind, outcome_pure, ok_bind, hend]
      exact .ok
    · rw [hread] at hnext
      have hc' := precedes_of_nextKey? hc hread
      have hskip : skipFrom first (.object :: frames) c = skipMemberFrom frames c' := hnext
      rw [hskip]
      simp only [consMember, ok_bind, outcome_bind, outcome_within, outcome_pure, bind_assoc]
      refine ((Skips.refl readColon c').leads _).bind fun _ c₁ hcolon => ?_
      have hc₁ := hc'.trans (forward_readColon _ _ _ hcolon)
      refine ((hvalue _ c₁ (hc.of_precedes hc₁)).within _).bind fun v c₂ hread => ?_
      have hc₂ := hc₁.advances
        (hvalue.advances (hc.of_precedes hc₁) (mapError_eq_ok_iff.mp hread))
      have hlt := hc₂.length_lt
      exact ih false _ (hc.of_precedes hc₂.precedes) (by dsimp only; omega)

/-- Skipping a value reaches the same position as reading it. -/
theorem skipped_readValue (levels : Nat) : Skipped (readValue levels) := by
  -- a bracket beyond the last level is a limit, so nothing is asked of how it is skipped
  induction levels with
  | zero =>
    intro frames c hc
    have hdeep : FaultCause.IsLimit (.text .tooDeep) := by decide
    exact skipsTo_readScalarOr hc (fun _ => .limit hdeep) (fun _ => .limit hdeep)
  | succ levels ih =>
    intro frames c hc
    have hnext : c.token.next.Bounded := hc.token.next
    have hbound : c.token.next.rest.length < c.token.next.bound + 1 := Nat.lt_succ_of_le hnext
    refine skipsTo_readScalarOr hc (fun _ => ?_) (fun _ => ?_)
    · simpa [readList, loopBound, bind_assoc] using
        (skipsTo_readItems ih 0 hnext hbound).map (f := fun reached => Json.array reached.1)
    · simpa [readObject, loopBound, bind_assoc] using
        (skipsTo_readMembers ih true [] hnext hbound).map
          (f := fun reached => Json.object reached.1.reverse)

/-- A value that is not needed is skipped to the position to which it would be read. -/
theorem skips_readValue (levels : Nat) {c : Cursor} (hc : c.Bounded) :
    Skips ((readValue levels).outcome c) (skipValue.outcome c) := by
  rw [outcome_skipValue hc]
  exact skipped_readValue levels [] c hc

theorem advances_of_readValue {levels : Nat} {value : Json} (hc : c.Bounded)
    (h : (readValue levels).outcome c = .ok (value, c')) : c.Advances c' :=
  (skipped_readValue levels).advances hc h

end EntityModels.Reader
