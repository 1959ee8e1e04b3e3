import EntityModels.CommandLine.Run
import EntityModels.Proofs.CommandLine.Search
import EntityModels.Proofs.Compilation.Faults

/-!
Runs that only look at the files. A search for paths, the reading of sources and a whole compilation
are put together from such looks, so they leave the files as they were, and what they find is what
is there at the start.
-/
namespace EntityModels.CommandLine

variable {σ α β ε : Type} {s : σ}

theorem bind_apply_of_eq {x : StateM σ α} {next : α → StateM σ β} {a : α} {s' : σ}
    (h : x s = (a, s')) : (x >>= next) s = next a s' := by
  have hstep : (x >>= next) s = next (x s).1 (x s).2 := rfl
  rw [hstep, h]

namespace ReadsOnly

variable {x : StateM σ α} {f : α → StateM σ β}

theorem pure (a : α) : ReadsOnly (pure a : StateM σ α) := fun _ => rfl

theorem bind (hx : ReadsOnly x) (hf : ∀ a, ReadsOnly (f a)) : ReadsOnly (x >>= f) := by
  intro s
  have hstep : (x >>= f) s = f (x s).1 s := bind_apply_of_eq (Prod.ext rfl (hx s))
  rw [hstep, hf]

theorem map (hx : ReadsOnly x) (k : α → β) : ReadsOnly (k <$> x) := fun s => hx s

end ReadsOnly

variable {files : Files (StateM σ)}

theorem readsOnly_expand (hfiles : files.ReadsSafely) (pattern : PathPattern) :
    ReadsOnly (pattern.expand files).run :=
  fun s => congrArg Prod.snd (finds_expandWithin hfiles pattern _ s)

/-- What a run that may fail gives in a state. -/
def seen (x : ExceptT ε (StateM σ) α) (s : σ) : Except ε α := (x.run s).1

section MayFail

variable {x : ExceptT ε (StateM σ) α} {f : α → ExceptT ε (StateM σ) β}

/-- A run of two looks only looks, also when the first one fails. -/
theorem readsOnly_bind (hx : ReadsOnly x.run) (hf : ∀ a, ReadsOnly (f a).run) :
    ReadsOnly (x >>= f).run := by
  have hrun : (x >>= f).run = x.run >>= ExceptT.bindCont f := rfl
  rw [hrun]
  refine hx.bind fun result => ?_
  cases result with
  | ok a => exact hf a
  | error fault => exact .pure _

/-- What a second look finds is there at the start as well. -/
theorem seen_bind (hx : ReadsOnly x.run) (f : α → ExceptT ε (StateM σ) β) (s : σ) :
    seen (x >>= f) s = seen x s >>= fun a => seen (f a) s := by
  have hrun : (x >>= f).run s = ExceptT.bindCont f (x.run s).1 (x.run s).2 := rfl
  rw [seen, hrun, hx, seen]
  cases (x.run s).1 <;> rfl

theorem readsOnly_mapM {f : α → ExceptT ε (StateM σ) β} (hf : ∀ a, ReadsOnly (f a).run)
    (xs : List α) : ReadsOnly (xs.mapM f).run := by
  induction xs with
  | nil => exact .pure _
  | cons x xs ih =>
    rw [List.mapM_cons]
    exact readsOnly_bind (hf x) fun _ => readsOnly_bind ih fun _ => .pure _

/-- A run over a list sees every item in the state at the start. -/
theorem seen_mapM {f : α → ExceptT ε (StateM σ) β} (hf : ∀ a, ReadsOnly (f a).run)
    (xs : List α) (s : σ) : seen (xs.mapM f) s = xs.mapM fun a => seen (f a) s := by
  induction xs with
  | nil => rfl
  | cons x xs ih =>
    rw [List.mapM_cons, List.mapM_cons, seen_bind (hf x)]
    refine congrArg (seen (f x) s >>= ·) (funext fun y => ?_)
    rw [seen_bind (readsOnly_mapM hf xs), ih]
    rfl

end MayFail

/-- The paths for which an input stands in a state of the files: itself, or what its pattern
matches. -/
def StandsFor (files : Files (StateM σ)) (s : σ) (input : String) (paths : List String) : Prop :=
  if isPattern input then
    ∃ pattern, PathPattern.ofText? input = .ok pattern ∧
      seen (pattern.expand files) s = .ok paths ∧ paths ≠ []
  else paths = [input]

/-- The inputs resolve to files that can be read, load as a graph with a sound hierarchy, and
compile to `c`, which logs the events of `t`. -/
def Yields (files : Files (StateM σ)) (s : σ) (inputs : Inputs) (t : Trace) (c : Compilation) :
    Prop :=
  ∃ paths sources graph,
    List.Forall₂ (StandsFor files s) inputs.patterns paths ∧
    List.Forall₂ (fun path text => (files.read path s).1 = .ok text) paths.flatten sources ∧
    loadGraph sources inputs.pointer = .ok graph ∧ graph.checkHierarchy = .ok () ∧
    graph.compile ⟨inputs.classPrefix⟩ = .ok c ∧ t = graph.trace ⟨inputs.classPrefix⟩ c

theorem readsOnly_expandInput (hfiles : files.ReadsSafely) (input : String) :
    ReadsOnly (expandInput files input).run := by
  unfold expandInput
  cases isPattern input with
  | false => exact .pure _
  | true =>
    cases PathPattern.ofText? input with
    | error error => exact .pure _
    | ok pattern => exact (readsOnly_expand hfiles pattern).map _

/-- The matches of a pattern count when there are any and no directory on the way has refused to be
listed. -/
theorem matchedPaths_eq_ok_iff {pattern : String} {found : Except ListFault (List String)}
    {paths : List String} :
    matchedPaths pattern found = .ok paths ↔ found = .ok paths ∧ paths ≠ [] := by
  rcases found with fault | (_ | ⟨path, more⟩)
  · exact iff_of_false (fun h => by cases h) (fun h => by cases h.1)
  · refine iff_of_false (fun h => by cases h) (fun h => h.2 ?_)
    exact (Except.ok.inj h.1).symm
  · constructor
    · intro h
      obtain rfl := Except.ok.inj h
      exact ⟨rfl, List.cons_ne_nil path more⟩
    · rintro ⟨h, -⟩
      obtain rfl := Except.ok.inj h
      rfl

/-- An input expands to the paths for which it stands. -/
theorem seen_expandInput_eq_ok_iff {input : String} {paths : List String} :
    seen (expandInput files input) s = .ok paths ↔ StandsFor files s input paths := by
  unfold expandInput StandsFor
  cases isPattern input with
  | false =>
    have hseen : seen (pure [input] : ExceptT RunError (StateM σ) _) s = .ok [input] := rfl
    simp [hseen, eq_comm]
  | true =>
    cases PathPattern.ofText? input with
    | error error =>
      refine iff_of_false (fun h => ?_) (by simp)
      cases h
    | ok pattern =>
      have hinput : (∃ pattern', (Except.ok pattern : Except PatternError _) = .ok pattern' ∧
          seen (pattern'.expand files) s = .ok paths ∧ paths ≠ []) ↔
          seen (pattern.expand files) s = .ok paths ∧ paths ≠ [] := by simp
      rw [if_pos rfl, hinput]
      exact matchedPaths_eq_ok_iff

theorem readsOnly_readSource (hfiles : files.ReadsSafely) (path : String) :
    ReadsOnly (readSource files path).run := by
  refine readsOnly_bind (x := monadLift (files.read path)) ((hfiles.read path).map _) fun text => ?_
  cases text <;> exact .pure _

/-- A source is what the file holds, with the path in the error when it cannot be read. -/
theorem readSource_eq (files : Files (StateM σ)) (path : String) : readSource files path =
    liftM (files.read path) >>= fun text =>
      ExceptT.mk (pure (text.mapError (RunError.unreadable path))) := by
  refine congrArg (liftM (files.read path) >>= ·) (funext fun text => ?_)
  cases text <;> rfl

theorem seen_readSource_eq_ok_iff {path text : String} :
    seen (readSource files path) s = .ok text ↔ (files.read path s).1 = .ok text := by
  have hseen : seen (readSource files path) s =
      (files.read path s).1.mapError (RunError.unreadable path) := by
    rw [readSource_eq]
    rfl
  rw [hseen, mapError_eq_ok_iff]

/-- Documents compile to what their graph compiles to, with the trace of that. -/
theorem compileTraced_eq_ok_iff {sources : List String} {pointer : Option String}
    {naming : Naming} {t : Trace} {c : Compilation} :
    compileTraced sources pointer naming = .ok (t, c) ↔
      ∃ graph, loadGraph sources pointer = .ok graph ∧
      graph.checkHierarchy = .ok () ∧ graph.compile naming = .ok c ∧ t = graph.trace naming c := by
  rw [compileTraced, bind_eq_ok_iff]
  refine exists_congr fun graph => ?_
  rw [mapError_eq_ok_iff, bind_eq_ok_iff]
  refine and_congr_right fun _ => ?_
  constructor
  · rintro ⟨compilation, hc, hpair⟩
    obtain ⟨rfl, rfl⟩ := Prod.mk.inj (Except.ok.inj hpair)
    rw [mapError_eq_ok_iff] at hc
    refine ⟨?_, hc, rfl⟩
    cases hcheck : graph.checkHierarchy with
    | ok => rfl
    | error fault =>
      rw [Graph.compile_eq_error_iff.mpr hcheck] at hc
      cases hc
  · rintro ⟨-, hc, rfl⟩
    exact ⟨c, mapError_eq_ok_iff.mpr hc, rfl⟩

/-- A compilation of inputs leaves the files as they were. -/
theorem readsOnly_compile (hfiles : files.ReadsSafely) (inputs : Inputs) :
    ReadsOnly (inputs.compile files).run := by
  refine readsOnly_bind (readsOnly_mapM (readsOnly_expandInput hfiles) _) fun paths => ?_
  refine readsOnly_bind (readsOnly_mapM (readsOnly_readSource hfiles) _) fun sources => ?_
  cases compileTraced sources inputs.pointer ⟨inputs.classPrefix⟩ <;> exact .pure _

/-- The inputs are compiled to what they yield in the state at the start. -/
theorem seen_compile_eq_ok_iff (hfiles : files.ReadsSafely) {inputs : Inputs} {t : Trace}
    {c : Compilation} : seen (inputs.compile files) s = .ok (t, c) ↔ Yields files s inputs t c := by
  rw [Inputs.compile, seen_bind (readsOnly_mapM (readsOnly_expandInput hfiles) _),
    seen_mapM (readsOnly_expandInput hfiles), bind_eq_ok_iff]
  simp only [mapM_eq_ok_iff_forall₂, seen_expandInput_eq_ok_iff]
  refine exists_congr fun paths => ?_
  rw [seen_bind (readsOnly_mapM (readsOnly_readSource hfiles) _),
    seen_mapM (readsOnly_readSource hfiles), bind_eq_ok_iff]
  simp only [mapM_eq_ok_iff_forall₂, seen_readSource_eq_ok_iff, exists_and_left]
  refine and_congr_right fun _ => exists_congr fun sources => and_congr_right fun _ => ?_
  rw [← compileTraced_eq_ok_iff]
  cases compileTraced sources inputs.pointer ⟨inputs.classPrefix⟩ with
  | ok compiled =>
    exact ⟨fun h => congrArg Except.ok (Except.ok.inj h),
      fun h => congrArg Except.ok (Except.ok.inj h)⟩
  | error fault => exact iff_of_false (fun h => by cases h) (fun h => by cases h)

end EntityModels.CommandLine
