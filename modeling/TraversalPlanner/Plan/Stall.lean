import TraversalPlanner.Plan.FragmentSet

/-
  This file explains why planning is stuck.  A fragment that
  cannot run waits for unbound variables.  If such waits form a
  cycle, its variables are reported; otherwise the variables that
  nothing binds.

  Key definitions include:
    * `PlanningError`
    * `WaitGraph`
    * `WaitGraph.reachable`
    * `WaitGraph.leastCycle?`
    * `Stall.waits`
    * `Stall.missing`
    * `Stall.diagnose`
-/

namespace TraversalPlanner

------------------------------------------------------------
-- Planning Errors
------------------------------------------------------------

/- Why there is no plan. -/
inductive PlanningError where
/- no sets were given -/
| nothingToPlan : PlanningError
/- variables wait for each other -/
| cyclic : VarSet → PlanningError
/- variables are never bound, so that fragments cannot run -/
| unbound : VarSet → List Fragment → PlanningError
deriving DecidableEq

namespace PlanningError

/- Why there is no plan, in words. -/
def message : PlanningError → String
| .nothingToPlan => "Nothing to plan: no fragment sets were provided"
| .cyclic xs =>
    "Cyclic dependency between variables " ++
      String.intercalate ", " xs.render
| .unbound xs fs =>
    "Unbound dependencies " ++ String.intercalate ", " xs.render ++
      ": fragments " ++ String.intercalate ", " (fs.map Fragment.render) ++
      " can never run"

end PlanningError

------------------------------------------------------------
-- Graphs of Waiting Variables
------------------------------------------------------------

/- A graph on variables, given by its edges. -/
abbrev WaitGraph : Type :=
  List (Var × Var)

namespace WaitGraph

/- The variables with an edge. -/
def vertices (g : WaitGraph) : List Var :=
  (SortedSet.ofList (g.flatMap fun e => [e.1, e.2])).toList

/- Follow every edge from a set once. -/
def extend
    (g : WaitGraph)
    (s : VarSet) : VarSet :=
  g.foldl (fun s e => if e.1 ∈ s then s.insert e.2 else s) s

/- Follow edges from a set until it no longer grows, `n` times at most. -/
def closure
    (g : WaitGraph) : Nat → VarSet → VarSet
| 0, s => s
| n + 1, s =>
    let t := g.extend s
    if t = s then s else closure g n t

/- The variables that can be reached from a variable. -/
def reachable
    (g : WaitGraph)
    (x : Var) : VarSet :=
  g.closure g.length (SortedSet.ofList [x])

/- The reachable variables of every vertex. -/
def reachability (g : WaitGraph) : List (Var × VarSet) :=
  g.vertices.map fun x => (x, g.reachable x)

/- The classes of vertices that reach each other. -/
def classes (g : WaitGraph) : List VarSet :=
  let table := g.reachability
  table.map fun (x, fromX) =>
    SortedSet.ofList
      ((table.filter fun (y, fromY) => decide (y ∈ fromX ∧ x ∈ fromY)).map
        Prod.fst)

/- The lexicographic order of lists of variables. -/
def listBefore : List Var → List Var → Bool
| _, [] => false
| [], _ :: _ => true
| x :: xs, y :: ys =>
    KeyOrder.before x y || (decide (x = y) && listBefore xs ys)

/- The first of two sets in lexicographic order. -/
def lesser (s t : VarSet) : VarSet :=
  if listBefore t.toList s.toList then t else s

/-
  The first class in lexicographic order with two vertices at
  least.
-/
def leastCycle? (g : WaitGraph) : Option VarSet :=
  match g.classes.filter fun s => decide (1 < s.size) with
  | [] => none
  | s :: ss => some (ss.foldl lesser s)

end WaitGraph

------------------------------------------------------------
-- Diagnosis
------------------------------------------------------------

namespace Stall

/- The dependencies of a fragment that are not bound. -/
def unboundDependencies
    (bound : VarSet)
    (f : Fragment) : List Var :=
  f.dependencies.filter fun x => decide (x ∉ bound)

/- The unbound variables that residual fragments wait for. -/
def missing
    (bound : VarSet)
    (residual : List Fragment) : VarSet :=
  SortedSet.ofList (residual.flatMap (unboundDependencies bound))

/-
  The edges from each unbound dependency of a residual fragment
  to the other unbound variables of that fragment.
-/
def waits
    (bound : VarSet)
    (residual : List Fragment) : WaitGraph :=
  residual.flatMap fun f =>
    (unboundDependencies bound f).flatMap fun x =>
      (f.vars.toList.filter fun y => decide (y ≠ x ∧ y ∉ bound)).map
        fun y => (x, y)

/- Why none of the residual fragments can run. -/
def diagnose
    (bound : VarSet)
    (residual : List Fragment) : PlanningError :=
  match (waits bound residual).leastCycle? with
  | some xs => .cyclic xs
  | none => .unbound (missing bound residual) residual

end Stall

end TraversalPlanner
