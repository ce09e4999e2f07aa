import TraversalPlanner.Planner.Planner
import TraversalPlanner.Query.Executor

/-
  This file defines match queries and their answers.  A pattern
  is checked on its own when the query is made.  All that needs
  the schema or the graph waits until the first answer is asked
  for.

  Key definitions include:
    * `MatchQuery`
    * `MatchQuery.ofPattern`
    * `MatchQuery.select`
    * `QuerySession`
    * `QueryEvent`
    * `MatchQuery.run`
    * `AnswerStream`
    * `AnswerStream.next`
-/

namespace TraversalPlanner

------------------------------------------------------------
-- Queries
------------------------------------------------------------

/- A pattern, and the variables that were selected if any were. -/
structure MatchQuery where
  pattern : Pattern
  selected : Option (List Var)
deriving DecidableEq, Repr

namespace MatchQuery

/- The query of a pattern that passes the checks without a schema. -/
def ofPattern
    [RegexGrammar]
    (pattern : Pattern) : Except ValidationError MatchQuery :=
  match pattern.checkStructure with
  | .error e => .error e
  | .ok () => .ok ⟨pattern, none⟩

/- The query with a selection of variables. -/
def select
    (q : MatchQuery)
    (xs : List Var) : Except ValidationError MatchQuery :=
  if xs.isEmpty then
    .error .noSelection
  else
    .ok { q with selected := some xs }

/-
  The variables that answers bind: the selected ones, or all that
  the pattern names itself.
-/
def selectedVars (q : MatchQuery) : List Var :=
  match q.selected with
  | some xs => xs
  | none => q.pattern.vars.toList.filter fun x => !x.isGenerated

end MatchQuery

------------------------------------------------------------
-- Sessions
------------------------------------------------------------

/- What a query did. -/
inductive QueryEvent where
/- it asked the planner for a plan -/
| planned : QueryEvent
/- it had the executor run a fragment -/
| traversed : Fragment → QueryEvent
deriving DecidableEq, Repr

namespace QueryEvent

/- The fragment of an event, if one was run. -/
def fragment? : QueryEvent → Option Fragment
| .planned => none
| .traversed f => some f

end QueryEvent

/-
  What queries work with: a planner, a schema and an executor in
  some state; and what they did, in order.
-/
structure QuerySession (σ : Type) where
  planner : Planner
  schema : SchemaView
  executor : Executor σ
  state : σ
  events : List QueryEvent

namespace QuerySession

variable {σ : Type}

/- Ask the planner for the plan of a pattern. -/
def plan
    [RegexGrammar]
    (s : QuerySession σ)
    (pattern : Pattern) : Except PlannerError CompiledPlan × QuerySession σ :=
  let (result, planner) := s.planner.plan pattern s.schema
  (result,
    { s with
      planner := planner
      events := s.events ++ [.planned] })

/- Have the executor run a plan. -/
def execute
    (s : QuerySession σ)
    (plan : Plan) : Except DataError (List Answer) × QuerySession σ :=
  let t := s.executor.execute s.state plan
  (t.result,
    { s with
      state := t.state
      events := s.events ++ t.visited.map .traversed })

end QuerySession

------------------------------------------------------------
-- Evaluation
------------------------------------------------------------

namespace Answer

/- The part of an answer that binds some variables. -/
def project
    (xs : List Var)
    (a : Answer) : Answer :=
  a.filterKeys fun x => decide (x ∈ xs)

/- The different projections of answers, in order of appearance. -/
def projections
    (xs : List Var)
    (answers : List Answer) : List Answer :=
  (answers.map (project xs)).eraseDups

end Answer

namespace MatchQuery

/- The first variable that the pattern does not mention. -/
def unknownVar?
    (q : MatchQuery)
    (xs : List Var) : Option Var :=
  xs.find? fun x => decide (x ∉ q.pattern.vars)

/- Evaluate a query, and project its answers to variables. -/
def run
    {σ : Type}
    [RegexGrammar]
    (q : MatchQuery)
    (xs : List Var)
    (s : QuerySession σ) :
    Except PlannerError (List Answer) × QuerySession σ :=
  match q.unknownVar? xs with
  | some x => (.error (.validation (.notInQuery x)), s)
  | none =>
      match s.plan q.pattern with
      | (.error e, s) => (.error e, s)
      | (.ok compiled, s) =>
          match s.execute compiled.plan with
          | (.error e, s) => (.error (.data e), s)
          | (.ok answers, s) => (.ok (Answer.projections xs answers), s)

end MatchQuery

------------------------------------------------------------
-- Streams of Answers
------------------------------------------------------------

/- The answers of a query that are still to come. -/
inductive AnswerStream where
/- the query has not been evaluated -/
| pending : MatchQuery → List Var → AnswerStream
/- answers that are left -/
| ready : List Answer → AnswerStream
/- nothing is left -/
| done : AnswerStream
deriving DecidableEq

namespace AnswerStream

variable {σ : Type}

/- What asking for an answer yields, and what is left. -/
structure Next (σ : Type) where
  item : Option (Except PlannerError Answer)
  stream : AnswerStream
  session : QuerySession σ

/- The next one of answers that are left. -/
def nextReady
    (answers : List Answer)
    (s : QuerySession σ) : Next σ :=
  match answers with
  | [] => ⟨none, .done, s⟩
  | a :: rest => ⟨some (.ok a), .ready rest, s⟩

/- Ask for the next answer.  An error is the last item. -/
def next
    [RegexGrammar]
    (stream : AnswerStream)
    (s : QuerySession σ) : Next σ :=
  match stream with
  | .pending q xs =>
      match q.run xs s with
      | (.error e, s) => ⟨some (.error e), .done, s⟩
      | (.ok answers, s) => nextReady answers s
  | .ready answers => nextReady answers s
  | .done => ⟨none, .done, s⟩

end AnswerStream

namespace MatchQuery

/- The answers of a query. -/
def stream (q : MatchQuery) : AnswerStream :=
  .pending q q.selectedVars

/- The answers of a query for one variable. -/
def get
    (q : MatchQuery)
    (x : Var) : AnswerStream :=
  .pending q [x]

end MatchQuery

end TraversalPlanner
