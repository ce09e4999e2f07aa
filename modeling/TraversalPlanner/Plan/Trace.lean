import TraversalPlanner.Json.Printer
import TraversalPlanner.Number.Style

/-
  This file defines traces, which record the rounds of a planning
  run.  Times are measured outside of planning, in nanoseconds.

  Key definitions include:
    * `Duration.milliseconds`
    * `TraceStep`
    * `PlanTrace`
    * `PlanTrace.totalCost`
    * `PlanTrace.render`
    * `PlanTrace.toJson`
-/

namespace TraversalPlanner

------------------------------------------------------------
-- Durations
------------------------------------------------------------

/- A duration in nanoseconds. -/
structure Duration where
  nanoseconds : Nat
deriving DecidableEq, Repr

namespace Duration

/- No time at all. -/
def zero : Duration :=
  ⟨0⟩

/- The whole seconds of a duration. -/
def seconds (d : Duration) : Nat :=
  d.nanoseconds / tenTo 9

/- The nanoseconds beyond whole seconds. -/
def subseconds (d : Duration) : Nat :=
  d.nanoseconds % tenTo 9

/-
  A duration in milliseconds: seconds and their fraction are
  added first.
-/
def milliseconds (d : Duration) : Binary64 :=
  let fraction := Binary64.ofNat d.subseconds / Binary64.ofNat (tenTo 9)
  (Binary64.ofNat d.seconds + fraction) * 1000

/- A duration is written as seconds and nanoseconds. -/
def toJson (d : Duration) : Json :=
  .object [("secs", .ofNat d.seconds), ("nanos", .ofNat d.subseconds)]

end Duration

------------------------------------------------------------
-- Traces
------------------------------------------------------------

/- One round of planning. -/
structure TraceStep where
  /- the number of fragments that could run -/
  candidates : Nat
  /- the fragment that was chosen -/
  chosen : String
  cost : Binary64
  /- the variables that are bound after the round -/
  bound : List String
  duration : Duration
deriving DecidableEq, Repr

/- The rounds of a planning run. -/
structure PlanTrace where
  steps : List TraceStep
  duration : Duration
deriving DecidableEq, Repr

namespace TraceStep

/- The lines of the round with a number. -/
def render
    (n : Nat)
    (s : TraceStep) : String :=
  n.repr ++ ". " ++ s.chosen ++
    " (" ++ s.duration.milliseconds.renderFixed ++ "ms)\n" ++
    "   Candidates: " ++ s.candidates.repr ++ "\n" ++
    "   Cost: " ++ s.cost.renderFixed ++ "\n" ++
    "   Bound: " ++ String.intercalate ", " s.bound ++ "\n"

/- A round is written as a record. -/
def toJson (s : TraceStep) : Json :=
  .object
    [("candidates", .ofNat s.candidates),
     ("chosen", .string s.chosen),
     ("cost", .ofNumber s.cost),
     ("bound", .ofStrings s.bound),
     ("duration", s.duration.toJson)]

end TraceStep

namespace PlanTrace

/- The sum of the costs of all rounds. -/
def totalCost (t : PlanTrace) : Binary64 :=
  Binary64.sum (t.steps.map TraceStep.cost)

/- A line of a repeated character. -/
def rule
    (c : Char)
    (n : Nat) : String :=
  String.ofList (List.replicate n c) ++ "\n"

/- The text of a trace. -/
def render (t : PlanTrace) : String :=
  let rounds := t.steps.zipIdx.map fun (s, i) => s.render (i + 1)
  "Plan Trace (total: " ++ t.duration.milliseconds.renderFixed ++ "ms)\n" ++
    rule '=' 50 ++
    String.join rounds ++
    "Summary:\n" ++
    rule '-' 20 ++
    "Total estimated cost: " ++ t.totalCost.renderFixed ++ "\n" ++
    "Planning steps: " ++ t.steps.length.repr ++ "\n"

/- A trace is written as a record. -/
def toJson (t : PlanTrace) : Json :=
  .object
    [("steps", .array (t.steps.map TraceStep.toJson)),
     ("total_duration", t.duration.toJson)]

end PlanTrace

end TraversalPlanner
