import TraversalPlanner.Cache.PlanCache
import TraversalPlanner.Plan.Greedy
import TraversalPlanner.Plan.Lowering
import TraversalPlanner.Planner.Error

/-
  This file defines planners.  A planner checks a pattern against
  a schema, lowers it, orders its fragments, and keeps the plan
  in its cache.

  Key definitions include:
    * `Planner`
    * `Planner.ofConfig`
    * `Planner.compile`
    * `Planner.planFrom`
    * `Planner.plan`
    * `Planner.explain`
    * `Planner.planSets`
-/

namespace TraversalPlanner

------------------------------------------------------------
-- Planners
------------------------------------------------------------

/- Settings, and the plans compiled under them. -/
structure Planner where
  config : PlannerConfig
  cache : PlanCache ConceptMap
deriving DecidableEq

namespace Planner

/- A planner without plans, whatever its settings. -/
def build (config : PlannerConfig) : Planner :=
  ⟨config, .empty config.cache⟩

/- The planner with the standard settings. -/
def standard : Planner :=
  build .standard

/- A planner with usable settings. -/
def ofConfig (config : PlannerConfig) : Except PlannerError Planner :=
  match config.fault? with
  | some fault => .error (.config (.faulty fault))
  | none => .ok (build config)

/- The optimizer of a planner. -/
def optimizer (p : Planner) : Optimizer :=
  ⟨p.config.model, p.config.traced⟩

------------------------------------------------------------
-- Plans
------------------------------------------------------------

/- A plan for fragment sets, without checks and without the cache. -/
def planSets
    (p : Planner)
    (sets : List FragmentSet)
    (startVars : VarSet) : Except PlannerError Plan :=
  match p.optimizer.optimize sets startVars with
  | .error e => .error (.planning e)
  | .ok plan => .ok plan

/- A new plan for a pattern over a schema. -/
def compile
    [RegexGrammar]
    (p : Planner)
    (pattern : Pattern)
    (graph : SchemaGraph)
    (startVars : VarSet) : Except PlannerError Plan :=
  match graph.validate pattern with
  | .error e => .error (.validation e)
  | .ok () => p.planSets pattern.lower startVars

/- The key under which the plan of a pattern is cached. -/
def key
    (pattern : Pattern)
    (schema : SchemaView)
    (startVars : VarSet) : PlanKey ConceptMap :=
  PlanKey.of pattern.signature startVars schema.fingerprint schema.version

/- A plan for a pattern, when some variables are bound. -/
def planFrom
    [RegexGrammar]
    (p : Planner)
    (pattern : Pattern)
    (schema : SchemaView)
    (startVars : VarSet) : Except PlannerError CompiledPlan × Planner :=
  let response := p.cache.getOrCompile (key pattern schema startVars)
    fun cache => ⟨p.compile pattern schema.graph startVars, (), cache⟩
  (response.result, { p with cache := response.cache })

/- A plan for a pattern. -/
def plan
    [RegexGrammar]
    (p : Planner)
    (pattern : Pattern)
    (schema : SchemaView) : Except PlannerError CompiledPlan × Planner :=
  p.planFrom pattern schema .empty

/- A plan in words, by its trace if it has one. -/
def describe (plan : Plan) : String :=
  match plan.trace with
  | some trace => trace.render
  | none => plan.render

/- The plan for a pattern, in words. -/
def explain
    [RegexGrammar]
    (p : Planner)
    (pattern : Pattern)
    (schema : SchemaView) : Except PlannerError String × Planner :=
  let (result, p) := p.plan pattern schema
  (result.map fun c => describe c.plan, p)

end Planner

end TraversalPlanner
