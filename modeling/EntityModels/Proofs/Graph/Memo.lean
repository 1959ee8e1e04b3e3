import EntityModels.Proofs.Graph.Query
import Mathlib.Algebra.BigOperators.Group.Finset.Basic
import Mathlib.Algebra.Order.BigOperators.Group.Finset

/-!
Lookups through a memo. The memo holds, for each reference that has been looked up, the place of its
target in the graph, or that there is none. A lookup reads the memo and, when nothing is there,
finds the place and enters it; between the two steps other lookups may do the same. Whatever is
entered is what a plain lookup finds, so no computation can tell a memo from the plain lookup,
whichever others run before it or beside it.
-/
namespace EntityModels

/-- A lookup that has returned. -/
structure Call (g : Graph) where
  reference : String
  answer : Option g.Found

/-- The places that have been found, by reference. -/
abbrev Memo := Record (Option Nat)

/-- Every entry is what a plain lookup finds. -/
def Memo.Sound (g : Graph) (memo : Memo) : Prop :=
  ∀ reference place, memo.get? reference = some place → place = g.place? (Reference.key reference)

theorem Memo.sound_empty (g : Graph) : Memo.Sound g ∅ := by
  intro reference place h
  cases h

namespace Query

variable {g : Graph} {α β : Type}

/-- One step of a computation, and the lookup that returns in it. -/
inductive Step (g : Graph) : {α : Type} → Memo → Query g α → Option (Call g) → Memo → Query g α →
    Prop where
  | hit {α : Type} {memo : Memo} {reference : String} {place : Option Nat}
      {next : Option g.Found → Query g α} (h : memo.get? reference = some place) :
    Step g memo (.ask reference next) (some ⟨reference, g.at? place⟩) memo (next (g.at? place))
  | miss {α : Type} {memo : Memo} {reference : String} {next : Option g.Found → Query g α}
      (h : memo.get? reference = none) :
    Step g memo (.ask reference next) none memo (.missed reference next)
  | enter {α : Type} {memo : Memo} {reference : String} {next : Option g.Found → Query g α} :
    Step g memo (.missed reference next) (some ⟨reference, g.found? reference⟩)
      (memo.insert reference (g.place? (Reference.key reference))) (next (g.found? reference))
  | left {α β γ : Type} {memo memo' : Memo} {left left' : Query g β} {right : Query g γ}
      {next : β → γ → Query g α} {call : Option (Call g)} (h : Step g memo left call memo' left') :
    Step g memo (.beside left right next) call memo' (.beside left' right next)
  | right {α β γ : Type} {memo memo' : Memo} {left : Query g β} {right right' : Query g γ}
      {next : β → γ → Query g α} {call : Option (Call g)}
      (h : Step g memo right call memo' right') :
    Step g memo (.beside left right next) call memo' (.beside left right' next)
  | join {α β γ : Type} {memo : Memo} {first : β} {second : γ} {next : β → γ → Query g α} :
    Step g memo (.beside (.done first) (.done second) next) none memo (next first second)

variable {memo memo' : Memo} {q q' : Query g α} {call : Option (Call g)}

/-- What the memo holds, it keeps. Another lookup may have entered the place meanwhile, but no other
place. -/
theorem Step.keeps (h : Step g memo q call memo' q') (hmemo : memo.Sound g) {reference : String}
    {place : Option Nat} (hplace : memo.get? reference = some place) :
    memo'.get? reference = some place := by
  induction h with
  | hit | miss | join => exact hplace
  | left _ ih => exact ih hmemo hplace
  | right _ ih => exact ih hmemo hplace
  | @enter _ memo asked _ =>
    rw [Record.get?_insert]
    split_ifs with heq
    · rw [hmemo reference place hplace, heq]
    · exact hplace

/-- A step enters only what a plain lookup finds. -/
theorem Step.sound (h : Step g memo q call memo' q') (hmemo : memo.Sound g) : memo'.Sound g := by
  induction h with
  | hit | miss | join => exact hmemo
  | left _ ih => exact ih hmemo
  | right _ ih => exact ih hmemo
  | @enter _ memo asked _ =>
    intro reference place hplace
    rw [Record.get?_insert] at hplace
    split_ifs at hplace with heq
    · rw [← Option.some.inj hplace, heq]
    · exact hmemo reference place hplace

/-- What a lookup returns is what a plain one finds, and the memo holds it from then on. -/
theorem Step.returns (h : Step g memo q call memo' q') (hmemo : memo.Sound g) {c : Call g}
    (hc : call = some c) : c.answer = g.found? c.reference ∧
      memo'.get? c.reference = some (g.place? (Reference.key c.reference)) := by
  induction h with
  | @hit _ memo reference place _ hplace =>
    obtain rfl := Option.some.inj hc
    obtain rfl := hmemo reference place hplace
    exact ⟨rfl, hplace⟩
  | miss | join => cases hc
  | enter =>
    obtain rfl := Option.some.inj hc
    exact ⟨rfl, by rw [Record.get?_insert, if_pos rfl]⟩
  | left _ ih => exact ih hmemo hc
  | right _ ih => exact ih hmemo hc

/-- No step changes the answer. -/
theorem Step.eval_eq (h : Step g memo q call memo' q') (hmemo : memo.Sound g) :
    q'.eval = q.eval := by
  induction h with
  | @hit _ memo reference place _ hplace =>
    obtain rfl := hmemo reference place hplace
    rfl
  | miss | enter | join => rfl
  | left _ ih => rw [eval, eval, ih hmemo]
  | right _ ih => rw [eval, eval, ih hmemo]

/-- Every step brings the computation nearer to its end. -/
theorem Step.cost_lt (h : Step g memo q call memo' q') (hmemo : memo.Sound g) :
    q'.cost < q.cost := by
  induction h with
  | @hit _ memo reference place _ hplace =>
    obtain rfl := hmemo reference place hplace
    rw [cost]
    exact Nat.lt_add_of_pos_right Nat.two_pos
  | miss => exact Nat.lt_succ_self _
  | enter => exact Nat.lt_succ_self _
  | left h ih =>
    have heval := h.eval_eq hmemo
    have hcost := ih hmemo
    rw [cost, cost, heval]
    omega
  | right h ih =>
    have heval := h.eval_eq hmemo
    have hcost := ih hmemo
    rw [cost, cost, heval]
    omega
  | join =>
    rw [cost]
    exact Nat.lt_succ_of_le (Nat.le_add_left _ _)

/-- A computation without an answer can always go on. -/
theorem done_or_step (q : Query g α) (memo : Memo) :
    (∃ answer, q = .done answer) ∨ ∃ call memo' q', Step g memo q call memo' q' := by
  induction q with
  | done answer => exact .inl ⟨answer, rfl⟩
  | ask reference next ih =>
    right
    cases h : memo.get? reference with
    | none => exact ⟨_, _, _, .miss h⟩
    | some place => exact ⟨_, _, _, .hit h⟩
  | missed reference next ih => exact .inr ⟨_, _, _, .enter⟩
  | beside left right next ihleft ihright ih =>
    right
    rcases ihleft with ⟨first, rfl⟩ | ⟨call, memo', left', h⟩
    · rcases ihright with ⟨second, rfl⟩ | ⟨call, memo', right', h⟩
      · exact ⟨_, _, _, .join⟩
      · exact ⟨_, _, _, .right h⟩
    · exact ⟨_, _, _, .left h⟩

end Query

/-- Any number of computations over one memo. -/
structure Pool (g : Graph) {ι : Type} (α : ι → Type) where
  memo : Memo
  tasks : ∀ i, Query g (α i)

namespace Pool

variable {g : Graph} {ι : Type} [DecidableEq ι] {α : ι → Type} {p p' start : Pool g α}
  {call : Option (Call g)} {calls : List (Option (Call g))}

/-- One step of one of the tasks. -/
inductive Step : Pool g α → Option (Call g) → Pool g α → Prop where
  | task {p : Pool g α} {i : ι} {call : Option (Call g)} {memo : Memo} {q : Query g (α i)}
      (h : Query.Step g p.memo (p.tasks i) call memo q) :
    Step p call ⟨memo, Function.update p.tasks i q⟩

/-- Steps of the tasks in any order. -/
inductive Run : Pool g α → List (Option (Call g)) → Pool g α → Prop where
  | refl {p : Pool g α} : Run p [] p
  | step {p p' p'' : Pool g α} {calls : List (Option (Call g))} {call : Option (Call g)}
      (h : Run p calls p') (hstep : Step p' call p'') : Run p (calls ++ [call]) p''

/-- What holds after every step of tasks that start with a sound memo. -/
structure Kept (start : Pool g α) (calls : List (Option (Call g))) (p : Pool g α) : Prop where
  memo : p.memo.Sound g
  calls : ∀ c, some c ∈ calls → c.answer = g.found? c.reference ∧
    p.memo.get? c.reference = some (g.place? (Reference.key c.reference))
  evals : ∀ i, (p.tasks i).eval = (start.tasks i).eval

/-- A step of any task keeps the memo sound, the answers of all tasks, and the calls in accord with
plain lookups. -/
theorem Step.kept (h : Step p call p') (hp : Kept start calls p) :
    Kept start (calls ++ [call]) p' := by
  cases h with
  | @task j _ _ q h =>
    refine ⟨h.sound hp.memo, fun c hc => ?_, fun i => ?_⟩
    · rcases List.mem_append.mp hc with hbefore | hnow
      · obtain ⟨hanswer, hplace⟩ := hp.calls c hbefore
        exact ⟨hanswer, h.keeps hp.memo hplace⟩
      · exact h.returns hp.memo (List.mem_singleton.mp hnow).symm
    · dsimp only
      by_cases hij : i = j
      · subst hij
        rw [Function.update_self, h.eval_eq hp.memo, hp.evals]
      · rw [Function.update_of_ne hij, hp.evals]

theorem Run.kept (h : Run start calls p) (hstart : start.memo.Sound g) : Kept start calls p := by
  induction h with
  | refl => exact ⟨hstart, fun c hc => absurd hc List.not_mem_nil, fun _ => rfl⟩
  | step _ hstep ih => exact hstep.kept ih

/-- The steps that are left to all tasks at most. -/
def cost [Fintype ι] (p : Pool g α) : Nat := ∑ i, (p.tasks i).cost

theorem Step.cost_lt [Fintype ι] (h : Step p call p') (hp : p.memo.Sound g) :
    p'.cost < p.cost := by
  cases h with
  | @task j _ _ q h =>
    have hj : (Function.update p.tasks j q j).cost < (p.tasks j).cost := by
      rw [Function.update_self]
      exact h.cost_lt hp
    refine Finset.sum_lt_sum (fun i _ => ?_) ⟨j, Finset.mem_univ j, hj⟩
    by_cases hij : i = j
    · subst hij
      exact hj.le
    · dsimp only
      rw [Function.update_of_ne hij]

/-- A run takes no more steps than the tasks cost at its start. -/
theorem Run.cost_le [Fintype ι] (h : Run start calls p) (hstart : start.memo.Sound g) :
    calls.length + p.cost ≤ start.cost := by
  induction h with
  | refl => exact (Nat.zero_add _).le
  | step hrun hstep ih =>
    have hlt := hstep.cost_lt (hrun.kept hstart).memo
    rw [List.length_append, List.length_singleton]
    omega

/-- What holds at every point of a run of tasks over one memo. A reference whose lookup has returned
is in the memo, also when it leads nowhere, and a task without an answer is never stuck. -/
structure Transparent (tasks : ∀ i, Query g (α i)) (calls : List (Option (Call g)))
    (p : Pool g α) : Prop where
  entries : ∀ reference place, p.memo.get? reference = some place →
    place = g.place? (Reference.key reference)
  calls : ∀ c, some c ∈ calls → Query.resolved c.reference c.answer = g.resolve c.reference ∧
    p.memo.get? c.reference = some (g.place? (Reference.key c.reference))
  answers : ∀ i answer, p.tasks i = .done answer → answer = (tasks i).eval
  goes_on : ∀ i, (∃ answer, p.tasks i = .done answer) ∨
    ∃ call memo q, Query.Step g p.memo (p.tasks i) call memo q

/-- Whatever the tasks do to the memo, each call and each task ends with its plain answer. -/
theorem Run.transparent (h : Run start calls p) (hstart : start.memo.Sound g) :
    p.Transparent start.tasks calls := by
  have hkept := h.kept hstart
  refine ⟨hkept.memo, fun c hc => ?_, fun i answer hdone => ?_, fun i =>
    Query.done_or_step (p.tasks i) p.memo⟩
  · obtain ⟨hanswer, hplace⟩ := hkept.calls c hc
    rw [hanswer, Query.resolved_found?]
    exact ⟨rfl, hplace⟩
  · have heval := hkept.evals i
    rw [hdone] at heval
    exact heval

end Pool

/-- The memos that tasks leave, which begin with no entry or with those that others have left. -/
inductive Memo.Reachable (g : Graph) : Memo → Prop where
  | empty : Memo.Reachable g ∅
  | run {ι : Type} [DecidableEq ι] {α : ι → Type} {start p : Pool g α}
      {calls : List (Option (Call g))} (h : Memo.Reachable g start.memo)
      (hrun : Pool.Run start calls p) : Memo.Reachable g p.memo

theorem Memo.Reachable.sound {g : Graph} {memo : Memo} (h : Memo.Reachable g memo) :
    memo.Sound g := by
  induction h with
  | empty => exact Memo.sound_empty g
  | run _ hrun ih => exact (hrun.kept ih).memo

end EntityModels
