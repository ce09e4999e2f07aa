import TraversalPlanner.Cache.Config
import TraversalPlanner.Json.Loading
import TraversalPlanner.Plan.Document

/-
  This file defines the settings of planners, and writes and
  loads them as documents.

  Key definitions include:
    * `PlannerConfig`
    * `ConfigFault`
    * `PlannerConfig.fault?`
    * `PlannerConfig.toJson`, `PlannerConfig.ofJson?`
    * `PlannerConfig.load`
-/

namespace TraversalPlanner

------------------------------------------------------------
-- Settings
------------------------------------------------------------

/-
  A cost model, the settings of the plan cache, and whether plans
  carry traces.
-/
structure PlannerConfig where
  model : CostModel Binary64
  cache : CacheConfig
  traced : Bool
deriving DecidableEq

/- Why settings cannot be used. -/
inductive ConfigFault where
/- a cardinality that is not a positive number -/
| model : CostModelFault → ConfigFault
/- an enabled cache without room -/
| noRoom : ConfigFault
deriving DecidableEq, Repr

namespace ConfigFault

/- Why settings cannot be used, in words. -/
def message : ConfigFault → String
| .model fault => fault.message
| .noRoom => "Plan cache must have max_entries > 0 when enabled"

end ConfigFault

namespace PlannerConfig

/- The settings that are used unless others are given. -/
def standard : PlannerConfig where
  model := CostModel.standard
  cache := CacheConfig.standard
  traced := false

/- The standard settings, with traces. -/
def tracing : PlannerConfig :=
  { standard with traced := true }

/- The first fault of settings, if there is one. -/
def fault? (c : PlannerConfig) : Option ConfigFault :=
  match c.model.fault? with
  | some fault => some (.model fault)
  | none => if c.cache.isUsable then none else some .noRoom

end PlannerConfig

------------------------------------------------------------
-- Documents
------------------------------------------------------------

namespace CacheConfig

/- Settings of a cache are written as a record. -/
def toJson (c : CacheConfig) : Json :=
  .object
    [("enabled", .bool c.enabled),
     ("max_entries", .ofNat c.maxEntries)]

/- Settings of a cache are read from a record of any of them. -/
def ofJson? (j : Json) : Option CacheConfig := do
  match ← j.slots? ["enabled", "max_entries"] with
  | [enabled, maxEntries] =>
      let enabled ← enabled.withDefault standard.enabled Json.toBool?
      let maxEntries ← maxEntries.withDefault standard.maxEntries Json.toNat?
      pure ⟨enabled, maxEntries⟩
  | _ => none

end CacheConfig

namespace PlannerConfig

/- Settings of a planner are written as a record. -/
def toJson (c : PlannerConfig) : Json :=
  .object
    [("cost_model", c.model.toJson),
     ("plan_cache", c.cache.toJson),
     ("trace_plans", .bool c.traced)]

/- Settings of a planner are read from a record of any of them. -/
def ofJson? (j : Json) : Option PlannerConfig := do
  match ← j.slots? ["cost_model", "plan_cache", "trace_plans"] with
  | [model, cache, traced] =>
      let model ← model.withDefault standard.model CostModel.ofJson?
      let cache ← cache.withDefault standard.cache CacheConfig.ofJson?
      let traced ← traced.withDefault standard.traced Json.toBool?
      pure ⟨model, cache, traced⟩
  | _ => none

/- Why settings cannot be loaded. -/
abbrev LoadFailure : Type :=
  LoadError ConfigFault

/- The settings of a text, which must be usable. -/
def ofText (text : String) : Except LoadFailure PlannerConfig :=
  match (Json.parse? text).bind ofJson? with
  | none => .error .malformed
  | some c =>
      match c.fault? with
      | some fault => .error (.faulty fault)
      | none => .ok c

/- The settings of a document. -/
def load (source : DocumentSource) : Except LoadFailure PlannerConfig :=
  source.load ofText

end PlannerConfig

end TraversalPlanner
