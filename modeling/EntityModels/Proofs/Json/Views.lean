import EntityModels.Proofs.Json.Skipping

/-!
Reading a value for what is seen in it. A reader that expects a certain shape reads what a view
gives for the value at the position, and reaches the same position as if the value were read whole.
It fails where the view gives nothing, and where the value is not read: only what goes beyond a
limit may be missed, at paths that lead into members which are skipped.
-/
namespace EntityModels.Reader

variable {α β γ δ : Type} {c c' : Cursor} {levels : Nat}

/-- The character with which a text, a list, an object or null begins. -/
def opening? : Json → Option Char
  | .null => some 'n'
  | .string _ => some '"'
  | .array _ => some '['
  | .object _ => some '\x7b'
  | _ => none

/-- What a scalar reader gives agrees with the character in front. -/
theorem opening?_of_readScalarOr {list object : Reader Json}
    (hlist : ∀ c v c', list.outcome c = .ok (v, c') → ∃ items, v = .array items)
    (hobject : ∀ c v c', object.outcome c = .ok (v, c') → ∃ members, v = .object members)
    {value : Json} (h : (readScalarOr list object).outcome c = .ok (value, c')) {d : Char}
    (hd : d ∈ ['n', '"', '[', '\x7b']) :
    opening? value = some d ↔ c.token.rest.head? = some d := by
  simp only [readScalarOr, outcome_bind, outcome_lookToken, ok_bind] at h
  cases hhead : c.token.rest.head? with
  | none => simp [hhead] at h
  | some e =>
    have hplain {v : Json} (hv : opening? v = none) (he : e ∉ ['n', '"', '[', '\x7b']) :
        opening? v = some d ↔ some e = some d := by
      rw [hv]
      constructor
      · intro hnone
        simp at hnone
      · intro hed
        exact absurd hd (Option.some.inj hed ▸ he)
    simp only [hhead] at h
    split at h
    case isTrue he =>
      obtain ⟨-, rfl⟩ := by simpa [bind_eq_ok_iff] using h
      simp [opening?, he]
    split at h
    case isTrue he =>
      obtain ⟨-, rfl⟩ := by simpa [bind_eq_ok_iff] using h
      exact hplain rfl (by simp [he])
    split at h
    case isTrue he =>
      obtain ⟨-, rfl⟩ := by simpa [bind_eq_ok_iff] using h
      exact hplain rfl (by simp [he])
    split at h
    case isTrue he =>
      obtain ⟨n, -, rfl⟩ := by simpa [bind_eq_ok_iff] using h
      exact hplain rfl (by simp [he])
    split at h
    case isTrue he =>
      obtain ⟨text, -, rfl⟩ := by simpa [bind_eq_ok_iff] using h
      simp [opening?, he]
    split at h
    case isTrue he =>
      obtain ⟨items, rfl⟩ := hlist _ _ _ h
      simp [opening?, he]
    split at h
    case isTrue he =>
      obtain ⟨members, rfl⟩ := hobject _ _ _ h
      simp [opening?, he]
    split at h
    case isTrue he =>
      obtain ⟨n, -, rfl⟩ := by simpa [bind_eq_ok_iff] using h
      refine hplain rfl fun hmem => ?_
      simp only [List.mem_cons, List.not_mem_nil, or_false] at hmem
      rcases hmem with rfl | rfl | rfl | rfl <;> simp at he
    · simp at h

/-- The form of a value that is read is decided by its first character. -/
theorem opening?_of_readValue {value : Json} (h : (readValue levels).outcome c = .ok (value, c'))
    {d : Char} (hd : d ∈ ['n', '"', '[', '\x7b']) :
    opening? value = some d ↔ c.token.rest.head? = some d := by
  cases levels with
  | zero => exact opening?_of_readScalarOr (by simp) (by simp) h hd
  | succ levels =>
    refine opening?_of_readScalarOr (fun c v c' hv => ?_) (fun c v c' hv => ?_) h hd
    · obtain ⟨-, -, -, items, -, -, -, rfl⟩ := by simpa [readList, bind_eq_ok_iff] using hv
      exact ⟨items, rfl⟩
    · obtain ⟨-, -, -, members, -, -, -, rfl⟩ := by simpa [readObject, bind_eq_ok_iff] using hv
      exact ⟨members.reverse, rfl⟩

theorem readValue_token (levels : Nat) (c : Cursor) :
    (readValue levels).outcome c.token = (readValue levels).outcome c := by
  cases levels <;>
    simp only [readValue, readScalarOr, outcome_bind, outcome_lookToken, ok_bind,
      Cursor.token_token]

theorem readValue_text (levels : Nat) (h : c.token.rest.head? = some '"') :
    (readValue levels).outcome c =
      readString.outcome c.token.next >>= fun reached => .ok (.string reached.1, reached.2) := by
  cases levels <;> simp [readValue, readScalarOr, h]

theorem readValue_null (levels : Nat) (h : c.token.rest.head? = some 'n') :
    (readValue levels).outcome c =
      (readWord "ull".toList).outcome c.token.next >>= fun reached => .ok (.null, reached.2) := by
  cases levels <;> simp [readValue, readScalarOr, h]

/-- The items of a list, and its end. -/
def listItems (levels : Nat) : Reader (List Json) := do
  let items ← readItems (readValue levels) (← loopBound) 0
  endList
  return items

/-- The members of an object, and its end. -/
def objectMembers (levels : Nat) : Reader (List (String × Json)) := do
  let reversed ← readMembers (consMember (readValue levels)) (← loopBound) true []
  endObject
  return reversed.reverse

/-- At an opening bracket a list is read, with one level less inside. -/
theorem readValue_list (levels : Nat) (h : c.token.rest.head? = some '[') :
    (readValue (levels + 1)).outcome c =
      (listItems levels).outcome c.token.next >>= fun reached =>
        .ok (.array reached.1, reached.2) := by
  simp [readValue, readScalarOr, h, readList, listItems, bind_assoc]

/-- At an opening brace an object is read, with one level less inside. -/
theorem readValue_object (levels : Nat) (h : c.token.rest.head? = some '\x7b') :
    (readValue (levels + 1)).outcome c =
      (objectMembers levels).outcome c.token.next >>= fun reached =>
        .ok (.object reached.1, reached.2) := by
  simp [readValue, readScalarOr, h, readObject, objectMembers, bind_assoc]

/-- The reports of a limit at a path of that kind. -/
def LimitAt (path : List PathStep → Prop) (report : Report) : Prop :=
  report.1.IsLimit ∧ path report.2

/-- A limit inside a part is a limit in the whole, one step further in. -/
theorem LimitAt.under {path path' : List PathStep → Prop} {pathStep : PathStep}
    (h : ∀ rest, path rest → path' (pathStep :: rest)) (report : Report)
    (hreport : LimitAt path report) : LimitAt path' (report.under pathStep) :=
  hreport.imp_right (h report.2)

/-- The reader reads what `decode` gives for the value at the position, and fails where the value is
not read. Only a limit at a path that is `skipped` may be missed. -/
def Sees (skipped : List PathStep → Prop) (decode : Json → Option α) (levels : Nat)
    (reader : Reader α) : Prop :=
  ∀ c : Cursor, c.Bounded →
    Agrees (LimitAt skipped) decode ((readValue levels).outcome c) (reader.outcome c)

variable {skipped skipped' : List PathStep → Prop}

/-- A value of the wrong type is refused. -/
theorem fails_wrongType (expected : String) (c : Cursor) :
    ((wrongType expected : Reader α).outcome c).toOption = none := by
  rw [wrongType, outcome_placed, outcome_bind]
  rcases (readScalarOr (return .array []) (return .object [])).outcome c with _ | ⟨v, c'⟩
  · rfl
  · rfl

/-- What may be left out may also be null. -/
theorem sees_readOptional {decode : Json → Option α} {reader : Reader α}
    (h : Sees skipped decode levels reader) :
    Sees skipped
      (fun value => match value with | .null => some none | value => some <$> decode value) levels
      (readOptional reader) := by
  intro c hc
  simp only [readOptional, outcome_bind, outcome_lookToken, ok_bind]
  by_cases hnull : c.token.rest.head? = some 'n'
  · rw [readValue_null levels hnull]
    simp only [hnull, if_true, outcome_bind, outcome_step, ok_bind, outcome_pure]
    rcases (readWord "ull".toList).outcome c.token.next with _ | ⟨_, c'⟩
    · exact .error
    · exact .ok rfl
  · rw [← readValue_token]
    simp only [hnull, if_false, outcome_bind, outcome_pure]
    have hsees := h c.token hc.token
    refine hsees.map fun value c' hvalue => ?_
    have hopening := opening?_of_readValue hvalue (d := 'n') (by simp)
    rw [Cursor.token_token] at hopening
    cases value with
    | null => exact absurd (hopening.mp rfl) hnull
    | _ => rfl

/-- Inside a list, the reader reads what `decode` gives for the items. -/
def SeesItems (skipped : List PathStep → Prop) (decode : List Json → Option α) (levels : Nat)
    (inside : Reader α) : Prop :=
  ∀ c : Cursor, c.Bounded → Agrees (LimitAt skipped) decode ((listItems levels).outcome c)
    (Reader.outcome (do let a ← inside; endList; return a) c)

/-- Inside an object, the reader reads what `decode` gives for the members. -/
def SeesMembers (skipped : List PathStep → Prop) (decode : List (String × Json) → Option α)
    (levels : Nat) (inside : Reader α) : Prop :=
  ∀ c : Cursor, c.Bounded → Agrees (LimitAt skipped) decode ((objectMembers levels).outcome c)
    (Reader.outcome (do let a ← inside; endObject; return a) c)

theorem exists_items_of_opening {value : Json} (h : opening? value = some '[') :
    ∃ items, value = .array items := by
  cases value <;> simp_all [opening?]

theorem exists_members_of_opening {value : Json} (h : opening? value = some '\x7b') :
    ∃ members, value = .object members := by
  cases value <;> simp_all [opening?]

/-- A form is read in the lists and objects that it has, and nowhere else. -/
theorem sees_readEither {decode : Json → Option α} {expected : String}
    {list object : Option (Nat → Reader α)}
    (hother : ∀ value, opening? value ≠ some '[' → opening? value ≠ some '\x7b' →
      decode value = none)
    (hlist : match list with
      | none => ∀ items, decode (.array items) = none
      | some inside => ∀ levels,
        SeesItems skipped (fun items => decode (.array items)) levels (inside levels))
    (hobject : match object with
      | none => ∀ members, decode (.object members) = none
      | some inside => ∀ levels,
        SeesMembers skipped (fun members => decode (.object members)) levels (inside levels)) :
    Sees skipped decode levels (readEither expected levels list object) := by
  intro c hc
  have hnext : c.token.next.Bounded := hc.token.next
  simp only [readEither, outcome_bind, outcome_lookToken, ok_bind]
  cases hhead : c.token.rest.head? with
  | none =>
    apply Agrees.of_fails rfl
    intro value c' hvalue
    have hopening (d : Char) (hd : d ∈ ['n', '"', '[', '\x7b']) : opening? value ≠ some d := by
      rw [ne_eq, opening?_of_readValue hvalue hd, hhead]
      nofun
    exact hother value (hopening '[' (by simp)) (hopening '\x7b' (by simp))
  | some d =>
    by_cases hopen : d = '['
    · subst hopen
      cases list with
      | none =>
        refine .of_fails (by simpa using fails_wrongType _ _) fun value c' hvalue => ?_
        obtain ⟨items, rfl⟩ :=
          exists_items_of_opening ((opening?_of_readValue hvalue (by simp)).mpr hhead)
        exact hlist items
      | some inside =>
        cases levels with
        | zero => simpa [readValue, readScalarOr, hhead] using .error
        | succ levels =>
          rw [readValue_list levels hhead]
          refine .of_comp ?_
          simpa [readList] using hlist levels c.token.next hnext
    by_cases hbrace : d = '\x7b'
    · subst hbrace
      cases object with
      | none =>
        refine .of_fails (by simpa using fails_wrongType _ _) fun value c' hvalue => ?_
        obtain ⟨members, rfl⟩ :=
          exists_members_of_opening ((opening?_of_readValue hvalue (by simp)).mpr hhead)
        exact hobject members
      | some inside =>
        cases levels with
        | zero => simpa [readValue, readScalarOr, hhead] using .error
        | succ levels =>
          rw [readValue_object levels hhead]
          refine .of_comp ?_
          simpa [readObject] using hobject levels c.token.next hnext
    · apply Agrees.of_fails (by simpa [hopen, hbrace] using fails_wrongType _ _)
      intro value c' hvalue
      have hlist : opening? value ≠ some '[' := by
        rw [ne_eq, opening?_of_readValue hvalue (by simp), hhead]
        exact fun hd => hopen (Option.some.inj hd)
      have hobject : opening? value ≠ some '\x7b' := by
        rw [ne_eq, opening?_of_readValue hvalue (by simp), hhead]
        exact fun hd => hbrace (Option.some.inj hd)
      exact hother value hlist hobject

/-- An item is read for what is seen in it, if there is one. -/
theorem sees_readItem? {decode : Json → Option α} {item : Reader α}
    (h : Sees skipped decode levels item) {index : Nat}
    (hskipped : ∀ path, skipped path → skipped' (.index index :: path)) (hc : c.Bounded) :
    Agrees (LimitAt skipped') (Option.mapM decode) ((readItem? (readValue levels) index).outcome c)
      ((readItem? item index).outcome c) := by
  simp only [readItem?, outcome_bind]
  rcases hmore : (moreItems (index = 0)).outcome c with _ | ⟨_ | _, c'⟩
  · exact .error
  · exact .ok rfl
  · have hc' : c'.Bounded := hc.of_precedes (forward_moreItems _ _ _ _ hmore)
    simp only [ok_bind, if_true, outcome_bind, outcome_within, outcome_pure]
    have hitem := (h c' hc').within (LimitAt.under hskipped)
    exact Agrees.of_comp (hitem.map fun value _ _ => by simp)

/-- The items of a list are seen in turn. -/
theorem sees_readItems {decode : Json → Option α} {item : Reader α}
    (h : Sees skipped decode levels item)
    (hskipped : ∀ index path, skipped path → skipped' (.index index :: path)) (steps index : Nat)
    (hc : c.Bounded) :
    Agrees (LimitAt skipped') (List.mapM decode)
      ((readItems (readValue levels) steps index).outcome c)
      ((readItems item steps index).outcome c) := by
  induction steps generalizing index c with
  | zero => exact .ok rfl
  | succ steps ih =>
    simp only [readItems, outcome_bind]
    apply (sees_readItem? h (hskipped index) hc).bind
    · intro value? a? c' hread hseen
      cases value? with
      | none =>
        obtain rfl : none = a? := by simpa using hseen
        exact .ok rfl
      | some value =>
        obtain ⟨a, ha, rfl⟩ : ∃ a, decode value = some a ∧ some a = a? := by simpa using hseen
        have hc' := (skipped_readValue levels).advances_of_readItem? hc hread
        have hrest := ih (index + 1) (hc.of_precedes hc'.precedes)
        have hcons (rest : List Json) :
            (value :: rest).mapM decode = (a :: ·) <$> rest.mapM decode := by
          rw [List.mapM_cons, ha]
          cases rest.mapM decode <;> rfl
        simp only [outcome_bind, outcome_pure]
        exact Agrees.of_comp (hrest.map fun rest _ _ => hcons rest)
    · -- where nothing is seen in the item, nothing is seen in the items
      intro value? c' items c'' hread hseen hrest
      cases value? with
      | none => simp at hseen
      | some value =>
        obtain ⟨rest, -, rfl⟩ := by simpa [bind_eq_ok_iff] using hrest
        have hvalue : decode value = none := by simpa using hseen
        rw [List.mapM_cons, hvalue]
        rfl

/-- What has been gathered stays. -/
theorem exists_append_of_readMembers {value : Reader Json} {steps : Nat} {first : Bool}
    {gathered reversed : List (String × Json)} {c c' : Cursor}
    (h : (readMembers (consMember value) steps first gathered).outcome c = .ok (reversed, c')) :
    ∃ more, reversed = more ++ gathered := by
  induction steps generalizing first gathered c with
  | zero =>
    obtain ⟨rfl, -⟩ := Prod.mk.inj (Except.ok.inj h)
    exact ⟨[], rfl⟩
  | succ steps ih =>
    simp only [readMembers, outcome_bind, bind_eq_ok_iff] at h
    obtain ⟨⟨_ | key, c₁⟩, -, h⟩ := h
    · obtain ⟨rfl, -⟩ := Prod.mk.inj (Except.ok.inj h)
      exact ⟨[], rfl⟩
    · simp only [consMember, outcome_bind, outcome_within, outcome_pure, bind_eq_ok_iff,
        Except.ok.injEq] at h
      obtain ⟨_, ⟨_, -, v, -, rfl⟩, h⟩ := h
      obtain ⟨more, rfl⟩ := ih h
      exact ⟨more ++ [(key, v.1)], by simp⟩

/-- The members of an object are seen in turn: the reader of a member puts what `put` puts for it.
What has been gathered so far has been put alike. -/
theorem sees_readMembers {σ : Type} {put : σ → String × Json → Option σ}
    {member : σ → String → Reader σ}
    (h : ∀ state key (c : Cursor), c.Bounded →
      Agrees (LimitAt skipped) (fun value => put state (key, value))
        (Reader.outcome (do readColon; within (.key key) (readValue levels)) c)
        ((member state key).outcome c))
    (steps : Nat) (first : Bool) (init : σ) (gathered : List (String × Json)) (state : σ)
    (hstate : gathered.reverse.foldlM put init = some state) (hc : c.Bounded) :
    Agrees (LimitAt skipped) (fun reversed => reversed.reverse.foldlM put init)
      ((readMembers (consMember (readValue levels)) steps first gathered).outcome c)
      ((readMembers member steps first state).outcome c) := by
  induction steps generalizing first gathered state c with
  | zero => exact .ok hstate
  | succ steps ih =>
    simp only [readMembers, outcome_bind]
    rcases hkey : (nextKey? first).outcome c with _ | ⟨_ | key, c'⟩
    · exact .error
    · exact .ok hstate
    · have hc' : c'.Bounded := hc.of_precedes (precedes_of_nextKey? hc hkey)
      have hcons : (consMember (readValue levels) gathered key).outcome c' =
          Reader.outcome (do readColon; within (.key key) (readValue levels)) c' >>= fun reached =>
            .ok ((key, reached.1) :: gathered, reached.2) := by
        simp [consMember, bind_assoc]
      rw [ok_bind, ok_bind]
      dsimp only
      rw [outcome_bind, outcome_bind, hcons, bind_assoc]
      apply (h state key c' hc').bind
      · intro value state' c'' hread hput
        rw [outcome_bind] at hread
        obtain ⟨⟨_, c₁⟩, hcolon, hvalue⟩ := bind_eq_ok_iff.mp hread
        rw [outcome_within, mapError_eq_ok_iff] at hvalue
        have hc₁ : c₁.Bounded := hc'.of_precedes (forward_readColon _ _ _ hcolon)
        have hc'' := hc₁.of_precedes (advances_of_readValue hc₁ hvalue).precedes
        have hstate' : ((key, value) :: gathered).reverse.foldlM put init = some state' := by
          simp [hstate, hput]
        exact ih false _ _ hstate' hc''
      · -- a member that is not put stays among those gathered
        intro value c₁ reversed c₂ hread hput hrest
        obtain ⟨more, rfl⟩ := exists_append_of_readMembers hrest
        simp [hstate, hput]

/-- From the item at `index` on, the reader reads what `decode` gives for the items left. -/
def SeesRest (skipped : List PathStep → Prop) (decode : List Json → Option α) (levels index : Nat)
    (inside : Reader α) : Prop :=
  ∀ (c : Cursor) (steps : Nat), c.Bounded → c.rest.length < steps →
    Agrees (LimitAt skipped) decode
      ((readItems (readValue levels) steps index).outcome c >>= fun reached =>
        endList.outcome reached.2 >>= fun closed => .ok (reached.1, closed.2))
      (Reader.outcome (do let a ← inside; endList; return a) c)

/-- A reader of what is left of a list reads a list from its beginning. -/
theorem SeesRest.seesItems {decode : List Json → Option α} {inside : Reader α}
    (h : SeesRest skipped decode levels 0 inside) : SeesItems skipped decode levels inside := by
  intro c hc
  simpa [listItems, loopBound] using h c (c.bound + 1) hc (Nat.lt_succ_of_le hc)

/-- Decodes the next item if there is one, and goes on. -/
def nextItem (decode : Json → Option β) (rest : Option β → List Json → Option α) :
    List Json → Option α
  | [] => rest none []
  | value :: values => do rest (some (← decode value)) values

/-- Succeeds where no item is left. -/
def noItem (a : α) : List Json → Option α
  | [] => some a
  | _ :: _ => none

/-- A list that is refused whatever follows may be refused at once. -/
theorem seesRest_failData {decode : List Json → Option α}
    (hdecode : ∀ values, decode values = none) (index : Nat) (fault : DataFault) :
    SeesRest skipped decode levels index (failData fault) := by
  intro c steps hc hsteps
  exact .of_fails rfl fun values c' _ => hdecode values

/-- Where no item comes next, the list ends. -/
theorem closing_of_readItem? {levels index : Nat} (hc : c.Bounded)
    (h : (readItem? (readValue levels) index).outcome c = .ok (none, c')) :
    c' = c.token ∧ c'.rest.head? = some ']' := by
  have hnext := goesOn_readItem? (skipped_readValue levels) index [] hc
  rw [h] at hnext
  exact ⟨hnext.1, hnext.2.1⟩

theorem fails_endList (h : c.token.rest.head? ≠ some ']') :
    ∃ report, endList.outcome c = .error report := by
  simp only [endList, outcome_bind, outcome_lookToken, ok_bind]
  cases hhead : c.token.rest.head? with
  | none => exact ⟨_, rfl⟩
  | some d =>
    have hd : d ≠ ']' := fun hd => h (by rw [hhead, hd])
    by_cases hcomma : d = ','
    · subst hcomma
      exact ⟨_, rfl⟩
    · simp only [hd, hcomma, if_false]
      exact ⟨_, rfl⟩

/-- A list ends where no item is left. -/
theorem seesRest_pure (a : α) (index : Nat) :
    SeesRest skipped (noItem a) levels index (pure a) := by
  intro c steps hc hsteps
  obtain ⟨steps, rfl⟩ : ∃ n, steps = n + 1 := ⟨steps - 1, by omega⟩
  by_cases hend : c.token.rest.head? = some ']'
  · simpa [readItems, readItem?, moreItems, endList, hend] using .ok rfl
  · apply Agrees.of_fails
    · obtain ⟨report, hfail⟩ := fails_endList hend
      rw [outcome_bind, outcome_pure, ok_bind, outcome_bind, hfail]
      rfl
    · intro values c' hok
      cases values with
      | cons _ _ => rfl
      | nil =>
        simp only [readItems, outcome_bind, bind_eq_ok_iff] at hok
        obtain ⟨⟨items, c₁⟩, ⟨⟨value?, c₂⟩, hread, hitems⟩, hclosed⟩ := hok
        cases value? with
        | none =>
          obtain ⟨rfl, hclose⟩ := closing_of_readItem? hc hread
          exact absurd hclose hend
        | some value =>
          obtain ⟨rest, -, rfl⟩ := by simpa [bind_eq_ok_iff] using hitems
          simp at hclosed

/-- The next item is read where it comes next, and the rest goes on from there. Where none does, the
rest is read as if nothing were left. -/
theorem seesRest_readItem? {decode : Json → Option β} {rest : Option β → List Json → Option α}
    {item : Reader β} {next : Option β → Reader α} {index : Nat}
    (hitem : Sees skipped decode levels item)
    (hskipped : ∀ path, skipped path → skipped' (.index index :: path))
    (hnext : ∀ b?, SeesRest skipped' (rest b?) levels (index + 1) (next b?)) :
    SeesRest skipped' (nextItem decode rest) levels index (do next (← readItem? item index)) := by
  intro c steps hc hsteps
  obtain ⟨steps, rfl⟩ : ∃ n, steps = n + 1 := ⟨steps - 1, by omega⟩
  simp only [readItems, outcome_bind, bind_assoc]
  apply (sees_readItem? hitem hskipped hc).bind
  · intro value? b? c' hread hseen
    cases value? with
    | none =>
      obtain rfl : none = b? := by simpa using hseen
      obtain ⟨rfl, hclose⟩ := closing_of_readItem? hc hread
      have hempty := hnext none c.token (c.token.rest.length + 1) hc.token (Nat.lt_succ_self _)
      have hnone : (readItems (readValue levels) (c.token.rest.length + 1) (index + 1)).outcome
          c.token = .ok ([], c.token) := by
        simp [readItems, readItem?, moreItems, hclose]
      rw [hnone, ok_bind] at hempty
      simp only [outcome_bind] at hempty
      rw [outcome_pure, ok_bind]
      refine hempty.congr fun values c' hvalues => ?_
      obtain ⟨-, rfl⟩ := by simpa [bind_eq_ok_iff] using hvalues
      rfl
    | some value =>
      obtain ⟨b, hb, rfl⟩ : ∃ b, decode value = some b ∧ some b = b? := by simpa using hseen
      have hc' := (skipped_readValue levels).advances_of_readItem? hc hread
      have hlt := hc'.length_lt
      have hrest := hnext (some b) c' steps (hc.of_precedes hc'.precedes) (by omega)
      have hcons : (fun values => nextItem decode rest (value :: values)) = rest (some b) := by
        funext values
        simp [nextItem, hb]
      rw [← hcons] at hrest
      simpa [bind_assoc] using hrest.of_comp (f := (value :: ·))
  · intro value? c' values c'' hread hseen hrest
    cases value? with
    | none => simp at hseen
    | some value =>
      obtain ⟨-, -, -, -, rfl⟩ := by simpa [bind_eq_ok_iff] using hrest
      have hvalue : decode value = none := by simpa using hseen
      simp [nextItem, hvalue]

end EntityModels.Reader
