import TraversalPlanner.Query.Executor

/-
  This file defines an executor without a graph.  It binds each
  variable to identifiers made from its name, and can be told to
  fail or to lose all answers at some call.

  Key definitions include:
    * `DryRun`
    * `DryRun.identifiers`
    * `DryRun.bind`
    * `DryRun.executor`
-/

namespace TraversalPlanner

------------------------------------------------------------
-- Settings
------------------------------------------------------------

/- What the calls of a dry run do. -/
structure DryRun where
  /- how many concepts a name has, one unless listed -/
  fanout : SortedMap String Nat
  /- variables that are left unbound -/
  skipped : List Var
  /- the call that fails -/
  failAt : Option Nat
  /- the call that loses all answers -/
  dropAt : Option Nat
  /- why it fails -/
  reason : String

namespace DryRun

/- The reason of a failure, unless another one is given. -/
def standardReason : String :=
  "storage unavailable"

------------------------------------------------------------
-- Bindings
------------------------------------------------------------

/- The identifiers of the concepts of a variable. -/
def identifiers
    (d : DryRun)
    (x : Var) : List String :=
  let base := "V-" ++ x.name
  match d.fanout.get? x.name with
  | none => [base]
  | some n => (List.range n).map fun i => base ++ "-" ++ i.repr

/- Bind a variable in an answer that does not bind it yet. -/
def bindIn
    (d : DryRun)
    (x : Var)
    (a : Answer) : List Answer :=
  if a.contains x then
    [a]
  else
    (d.identifiers x).map fun id => a.insert x id

/- Bind a variable in all answers, unless it is skipped. -/
def bind
    (d : DryRun)
    (answers : List Answer)
    (x : Var) : List Answer :=
  if x ∈ d.skipped then
    answers
  else
    answers.flatMap (d.bindIn x)

/- What call number `n` does. -/
def traverse
    (d : DryRun)
    (n : Nat)
    (f : Fragment)
    (answers : List Answer) : Except DataError (List Answer) :=
  if d.failAt = some n then
    .error (.traversalFailed f d.reason)
  else if d.dropAt = some n then
    .ok []
  else
    .ok (f.vars.toList.foldl d.bind answers)

/- The executor of a dry run, whose state numbers its calls. -/
def executor (d : DryRun) : Executor Nat where
  traverse := fun n f answers => (d.traverse n f answers, n + 1)

end DryRun

end TraversalPlanner
