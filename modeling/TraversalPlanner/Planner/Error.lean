import TraversalPlanner.Plan.Stall
import TraversalPlanner.Planner.Config
import TraversalPlanner.Schema.Document
import TraversalPlanner.Schema.Validation

/-
  This file joins all ways in which the work of a planner fails,
  with their classes and codes.

  Key definitions include:
    * `DataError`
    * `ErrorKind`
    * `PlannerError`
    * `PlannerError.kind`
    * `PlannerError.code`
    * `PlannerError.message`
-/

namespace TraversalPlanner

------------------------------------------------------------
-- Errors in Data
------------------------------------------------------------

/- Why data is refused, or cannot be reached. -/
inductive DataError where
/- instances of a type may not own a resource -/
| mayNotOwn :
    (owner : String) →
    (resourceType : String) →
    DataError
/- instances of a type may not play a role -/
| mayNotPlay :
    (type : String) →
    (role : String) →
    DataError
/- a fragment could not be run -/
| traversalFailed :
    (fragment : Fragment) →
    (reason : String) →
    DataError
deriving DecidableEq, Repr

namespace DataError

/- What went wrong, in words. -/
def message : DataError → String
| .mayNotOwn owner resourceType =>
    "instances of '" ++ owner ++ "' are not allowed to have a resource " ++
      "of type '" ++ resourceType ++ "'"
| .mayNotPlay type role =>
    "instances of '" ++ type ++ "' are not allowed to play the role '" ++
      role ++ "'"
| .traversalFailed fragment reason =>
    "Traversal of " ++ fragment.render ++ " failed: " ++ reason

end DataError

namespace LoadError

/- Why a document cannot be loaded, in words. -/
def message
    {F : Type}
    (invalid : String)
    (describe : F → String) : LoadError F → String
| .faulty fault => invalid ++ ": " ++ describe fault
| .unreadable => "IO error"
| .malformed => "Serialization error"

end LoadError

------------------------------------------------------------
-- All Errors
------------------------------------------------------------

/- The class of an error. -/
inductive ErrorKind where
/- a query is malformed or does not fit the schema -/
| validation
/- there is no sound plan -/
| planning
/- fragment sets are misused -/
| contract
/- data does not fit the schema, or a traversal failed -/
| data
/- a schema or settings cannot be loaded -/
| configuration
deriving DecidableEq, Repr

/- Any error of a planner. -/
inductive PlannerError where
| validation : ValidationError → PlannerError
| planning : PlanningError → PlannerError
| contract : ContractViolation → PlannerError
| data : DataError → PlannerError
| schema : SchemaGraph.LoadFailure → PlannerError
| config : PlannerConfig.LoadFailure → PlannerError
deriving DecidableEq

namespace PlannerError

/- The class of an error. -/
def kind : PlannerError → ErrorKind
| .validation _ => .validation
| .planning _ => .planning
| .contract _ => .contract
| .data _ => .data
| .schema _ => .configuration
| .config _ => .configuration

/- The code of an error. -/
def code : PlannerError → String
| .validation .noClauses => "GP1001"
| .validation .noSelection => "GP1002"
| .validation (.labelNotFound _) => "GP1003"
| .validation (.notARole _ _ _) => "GP1004"
| .validation (.notARelation _ _) => "GP1005"
| .validation (.roleNotRelated _ _) => "GP1006"
| .validation (.notAResource _ _) => "GP1007"
| .validation (.instanceOfRole _) => "GP1008"
| .validation (.conflictingTypes _ _ _) => "GP1009"
| .validation (.notInQuery _) => "GP1010"
| .validation (.badName _) => "GP1011"
| .validation (.badRegex _ _) => "GP1012"
| .planning .nothingToPlan => "GP2001"
| .planning (.cyclic _) => "GP2002"
| .planning (.unbound _ _) => "GP2003"
| .contract .emptySet => "GP3001"
| .contract (.unassigned _) => "GP3002"
| .contract (.unknownSet _) => "GP3003"
| .data (.mayNotOwn _ _) => "GP4001"
| .data (.mayNotPlay _ _) => "GP4002"
| .data (.traversalFailed _ _) => "GP4003"
| .schema _ => "GP5001"
| .config _ => "GP5002"

/- What went wrong, in words. -/
def message : PlannerError → String
| .validation e => e.message
| .planning e => e.message
| .contract e => e.message
| .data e => e.message
| .schema e =>
    "Schema error: " ++
      e.message "Invalid schema definition" DefinitionFault.message
| .config e =>
    "Configuration error: " ++
      e.message "Invalid configuration" ConfigFault.message

end PlannerError

end TraversalPlanner
