import EntityModels.Proofs.Record
import EntityModels.Schema.Graph

/-!
Computations that look references up in a graph. After a lookup a computation goes on with what has
been found, and computations may run side by side. With plain lookups each has one answer, `eval`,
which passes through everything that puts computations together.
-/
namespace EntityModels

namespace Graph

variable {g : Graph} {reference : String}

/-- An entity of the graph. -/
def Found (g : Graph) : Type := {e : Entity // e ∈ g.entities}

/-- The place of the entity of exactly that name. -/
def place? (g : Graph) (name : String) : Option Nat := g.entities.findIdx? (·.name = name)

/-- The entity at a place. -/
def at? (g : Graph) (place : Option Nat) : Option g.Found := place.bind (g.entities.attach[·]?)

/-- What a plain lookup finds. -/
def found? (g : Graph) (reference : String) : Option g.Found :=
  g.at? (g.place? (Reference.key reference))

theorem at?_map_val (g : Graph) (place : Option Nat) :
    (g.at? place).map (·.val) = place.bind (g.entities[·]?) := by
  cases place with
  | none => rfl
  | some i =>
    change g.entities.attach[i]?.map Subtype.val = g.entities[i]?
    rw [← List.getElem?_map, List.attach_map_subtype_val]

/-- A reference is found where its target is. -/
theorem found?_map_val (g : Graph) (reference : String) :
    (g.found? reference).map (·.val) = g.target? reference := by
  rw [found?, at?_map_val, target?, get?, List.find?_eq_bind_findIdx?_getElem?, place?]

theorem found?_eq_none_iff :
    g.found? reference = none ↔ g.target? reference = none := by
  rw [← g.found?_map_val, Option.map_eq_none_iff]

theorem exists_found_of_target? {e : Entity} (h : g.target? reference = some e) :
    ∃ found, g.found? reference = some found ∧ found.val = e :=
  Option.map_eq_some_iff.mp ((g.found?_map_val reference).trans h)

end Graph

/-- A computation that looks references up in a graph. -/
inductive Query (g : Graph) : Type → Type 1 where
  | done {α : Type} (answer : α) : Query g α
  | ask {α : Type} (reference : String) (next : Option g.Found → Query g α) : Query g α
  /-- The memo has been read, and the reference was not there. -/
  | missed {α : Type} (reference : String) (next : Option g.Found → Query g α) : Query g α
  /-- Two computations side by side, whose answers are put together when both are there. -/
  | beside {α β γ : Type} (left : Query g β) (right : Query g γ) (next : β → γ → Query g α) :
    Query g α

namespace Query

variable {g : Graph} {α β ε ε' : Type}

/-- The answer with plain lookups. -/
def eval {α : Type} : Query g α → α
  | .done answer => answer
  | .ask reference next => (next (g.found? reference)).eval
  | .missed reference next => (next (g.found? reference)).eval
  | .beside left right next => (next left.eval right.eval).eval

/-- The steps that are left at most: two for each lookup, and one where two computations meet. -/
def cost {α : Type} : Query g α → Nat
  | .done _ => 0
  | .ask reference next => (next (g.found? reference)).cost + 2
  | .missed reference next => (next (g.found? reference)).cost + 1
  | .beside left right next => left.cost + right.cost + (next left.eval right.eval).cost + 1

/-- Goes on with the answer of a computation. -/
def bind {α β : Type} : Query g α → (α → Query g β) → Query g β
  | .done answer, k => k answer
  | .ask reference next, k => .ask reference fun answer => (next answer).bind k
  | .missed reference next, k => .missed reference fun answer => (next answer).bind k
  | .beside left right next, k => .beside left right fun first second => (next first second).bind k

instance : Monad (Query g) where
  pure := .done
  bind := bind

/-- A computation that goes on from another one goes on from its answer. -/
@[simp] theorem eval_bind (q : Query g α) (k : α → Query g β) :
    (q >>= k).eval = (k q.eval).eval := by
  change (q.bind k).eval = _
  induction q with
  | done answer => rfl
  | ask reference next ih => exact ih _ k
  | missed reference next ih => exact ih _ k
  | beside left right next _ _ ih => exact ih _ _ k

theorem bind_done (q : Query g α) : q.bind .done = q := by
  induction q with
  | done answer => rfl
  | ask reference next ih => exact congrArg (Query.ask reference) (funext ih)
  | missed reference next ih => exact congrArg (Query.missed reference) (funext ih)
  | beside left right next _ _ ih =>
    exact congrArg (Query.beside left right) (funext fun first => funext (ih first))

theorem bind_bind {γ : Type} (q : Query g α) (k : α → Query g β) (l : β → Query g γ) :
    (q.bind k).bind l = q.bind fun a => (k a).bind l := by
  induction q with
  | done answer => rfl
  | ask reference next ih => exact congrArg (Query.ask reference) (funext fun a => ih a k)
  | missed reference next ih => exact congrArg (Query.missed reference) (funext fun a => ih a k)
  | beside left right next _ _ ih =>
    exact congrArg (Query.beside left right) (funext fun first => funext fun second =>
      ih first second k)

instance : LawfulMonad (Query g) :=
  LawfulMonad.mk' (Query g) bind_done (fun _ _ => rfl) bind_bind

/-- All computations of a list side by side. -/
def all : List (Query g α) → Query g (List α)
  | [] => .done []
  | q :: rest => .beside q (all rest) fun answer answers => .done (answer :: answers)

/-- Side by side each computation has the answer it has alone. -/
@[simp] theorem eval_all (qs : List (Query g α)) : (all qs).eval = qs.map eval := by
  induction qs with
  | nil => rfl
  | cons q rest ih => rw [all, eval, eval, ih, List.map_cons]

/-- The answer of a computation that may fail. -/
def result (x : ExceptT ε (Query g) α) : Except ε α := x.run.eval

@[simp] theorem result_pure (a : α) : result (pure a : ExceptT ε (Query g) α) = .ok a := rfl

@[simp] theorem result_lift (q : Query g α) :
    result (liftM q : ExceptT ε (Query g) α) = .ok q.eval := by
  change (q.bind _).eval = _
  exact eval_bind q _

/-- Up to the first fault, a computation goes on from the result of the other. -/
@[simp] theorem result_bind (x : ExceptT ε (Query g) α) (f : α → ExceptT ε (Query g) β) :
    result (x >>= f) = result x >>= fun a => result (f a) := by
  have hrun : result (x >>= f) = (ExceptT.bindCont f (result x)).eval :=
    eval_bind x.run (ExceptT.bindCont f)
  rw [hrun]
  cases result x <;> rfl

@[simp] theorem result_adapt (f : ε → ε') (x : ExceptT ε (Query g) α) :
    result (x.adapt f) = (result x).mapError f :=
  eval_bind x.run _

@[simp] theorem result_mapM (f : α → ExceptT ε (Query g) β) (xs : List α) :
    result (xs.mapM f) = xs.mapM fun a => result (f a) := by
  induction xs with
  | nil => rfl
  | cons x xs ih =>
    simp only [List.mapM_cons, result_bind, result_pure, ih]
    rfl

@[simp] theorem result_forM (f : α → ExceptT ε (Query g) PUnit) (xs : List α) :
    result (xs.forM f) = xs.forM fun a => result (f a) := by
  induction xs with
  | nil => rfl
  | cons x xs ih =>
    change result (f x >>= fun _ => xs.forM f) =
      result (f x) >>= fun _ => xs.forM fun a => result (f a)
    rw [result_bind, ih]

@[simp] theorem result_map (f : α → β) (x : ExceptT ε (Query g) α) :
    result (f <$> x) = f <$> result x := by
  rw [← bind_pure_comp, result_bind]
  cases result x <;> rfl

@[simp] theorem result_ofExcept (x : Except ε α) :
    result (ofExcept x : ExceptT ε (Query g) α) = x := by
  cases x <;> rfl

/-- The entity that has been found for a reference. -/
def resolved (reference : String) : Option g.Found → Except Unresolved Entity
  | some found => .ok found.val
  | none => .error ⟨reference⟩

theorem resolved_found? (reference : String) :
    resolved reference (g.found? reference) = g.resolve reference := by
  rw [Graph.resolve, ← g.found?_map_val]
  cases g.found? reference <;> rfl

/-- Looks a reference up. -/
def resolve (g : Graph) (reference : String) : Query g (Except Unresolved Entity) :=
  .ask reference fun answer => .done (resolved reference answer)

@[simp] theorem eval_resolve (reference : String) :
    (resolve g reference).eval = g.resolve reference :=
  resolved_found? reference

end Query

end EntityModels
