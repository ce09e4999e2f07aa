import TraversalPlanner.Pattern.Var

/-
  This file defines the keys of cached plans.

  Key definitions include:
    * `PlanKey`
    * `PlanKey.of`
-/

namespace TraversalPlanner

------------------------------------------------------------
-- Keys
------------------------------------------------------------

/-
  What a plan was made for: the signature of a pattern, the
  variables that are bound from the start, and the content and
  the version of a schema.
-/
structure PlanKey (Φ : Type) where
  signature : String
  startVars : List String
  fingerprint : Φ
  version : UInt64
deriving DecidableEq, Repr

namespace PlanKey

/- The key for a set of variables that are bound from the start. -/
def of
    {Φ : Type}
    (signature : String)
    (startVars : VarSet)
    (fingerprint : Φ)
    (version : UInt64) : PlanKey Φ where
  signature := signature
  startVars := startVars.render
  fingerprint := fingerprint
  version := version

end PlanKey

end TraversalPlanner
