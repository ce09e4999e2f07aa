import TraversalPlanner.Plan.Plan
import TraversalPlanner.Planner.Error

/-
  This file defines executors, which run plans one fragment at a
  time.  A fragment extends or filters a list of answers.

  Key definitions include:
    * `Answer`
    * `Executor`
    * `Traversal`
    * `Executor.run`
    * `Executor.executeFrom`
    * `Executor.execute`
-/

namespace TraversalPlanner

------------------------------------------------------------
-- Answers
------------------------------------------------------------

/- Variables bound to identifiers of concepts. -/
abbrev Answer : Type :=
  SortedMap Var String

namespace Answer

/- The answers before anything is run: one that binds nothing. -/
def seed : List Answer :=
  [SortedMap.empty]

end Answer

------------------------------------------------------------
-- Executors
------------------------------------------------------------

/- How one fragment is run, from some state of the executor. -/
structure Executor (σ : Type) where
  traverse :
    σ →
    Fragment →
    List Answer →
    Except DataError (List Answer) × σ

/-
  What running fragments came to: the answers or an error, the
  fragments that were run, the failing one included, and the
  state afterwards.
-/
structure Traversal (σ : Type) where
  result : Except DataError (List Answer)
  visited : List Fragment
  state : σ

namespace Executor

variable {σ : Type}

/- Run fragments in order, up to the first one that fails. -/
def run
    (e : Executor σ)
    (s : σ)
    (answers : List Answer) : List Fragment → Traversal σ
| [] => ⟨.ok answers, [], s⟩
| f :: fs =>
    match e.traverse s f answers with
    | (.error err, s) => ⟨.error err, [f], s⟩
    | (.ok answers, s) =>
        let later := run e s answers fs
        ⟨later.result, f :: later.visited, later.state⟩

/- Run a plan on given answers. -/
def executeFrom
    (e : Executor σ)
    (s : σ)
    (plan : Plan)
    (answers : List Answer) : Traversal σ :=
  e.run s answers plan.fragments

/- Run a plan from the start. -/
def execute
    (e : Executor σ)
    (s : σ)
    (plan : Plan) : Traversal σ :=
  e.executeFrom s plan Answer.seed

end Executor

end TraversalPlanner
