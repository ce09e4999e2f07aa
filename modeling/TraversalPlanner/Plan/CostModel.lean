import TraversalPlanner.Number.Style
import TraversalPlanner.Plan.Fragment

/-
  This file estimates what fragments cost.  The estimates come
  from fixed average cardinalities.  A fragment whose start
  variable is bound costs its fan-out; any other has to scan the
  instances of some type first and to expand each of them.

  Key definitions include:
    * `CostModel`
    * `CostModel.standard`
    * `CostModel.fault?`
    * `CostModel.fanOut`
    * `CostModel.cost`
-/

namespace TraversalPlanner

------------------------------------------------------------
-- Cost Models
------------------------------------------------------------

/- Average cardinalities of a graph, over some kind of numbers. -/
structure CostModel (R : Type) where
  instancesPerType : R
  instancesPerScope : R
  relationsPerCasting : R
  subtypesPerType : R
  castingsPerInstance : R
  scopesPerInstance : R
  typesPerRole : R
  rolesPerType : R
  rolePlayersPerRelation : R
  rolePlayersPerRole : R
  resourcesPerValue : R
deriving DecidableEq, Repr

namespace CostModel

/- The model that is used unless another one is given. -/
def standard : CostModel Binary64 where
  instancesPerType := 100
  instancesPerScope := 100
  relationsPerCasting := 10
  subtypesPerType := 3
  castingsPerInstance := 3
  scopesPerInstance := 3
  typesPerRole := 3
  rolesPerType := 3
  rolePlayersPerRelation := 2
  rolePlayersPerRole := 1
  resourcesPerValue := 2

/- The cardinalities of a model in order, with their names. -/
def constants
    {R : Type}
    (m : CostModel R) : List (String × R) :=
  [("instances_per_type", m.instancesPerType),
   ("instances_per_scope", m.instancesPerScope),
   ("relations_per_casting", m.relationsPerCasting),
   ("subtypes_per_type", m.subtypesPerType),
   ("castings_per_instance", m.castingsPerInstance),
   ("scopes_per_instance", m.scopesPerInstance),
   ("types_per_role", m.typesPerRole),
   ("roles_per_type", m.rolesPerType),
   ("role_players_per_relation", m.rolePlayersPerRelation),
   ("role_players_per_role", m.rolePlayersPerRole),
   ("resources_per_value", m.resourcesPerValue)]

/- The model with every cardinality replaced. -/
def map
    {R S : Type}
    (f : R → S)
    (m : CostModel R) : CostModel S where
  instancesPerType := f m.instancesPerType
  instancesPerScope := f m.instancesPerScope
  relationsPerCasting := f m.relationsPerCasting
  subtypesPerType := f m.subtypesPerType
  castingsPerInstance := f m.castingsPerInstance
  scopesPerInstance := f m.scopesPerInstance
  typesPerRole := f m.typesPerRole
  rolesPerType := f m.rolesPerType
  rolePlayersPerRelation := f m.rolePlayersPerRelation
  rolePlayersPerRole := f m.rolePlayersPerRole
  resourcesPerValue := f m.resourcesPerValue

end CostModel

------------------------------------------------------------
-- Usable Models
------------------------------------------------------------

/- A cardinality that is not a positive number. -/
structure CostModelFault where
  name : String
  value : Binary64
deriving DecidableEq, Repr

namespace CostModelFault

/- Which cardinality is wrong. -/
def message (f : CostModelFault) : String :=
  f.name ++ " must be a positive number, got " ++ f.value.render .plain

end CostModelFault

namespace CostModel

/- The first cardinality that is not a positive finite number. -/
def fault? (m : CostModel Binary64) : Option CostModelFault :=
  (m.constants.find? fun c => !c.2.isPositive).map fun c => ⟨c.1, c.2⟩

end CostModel

------------------------------------------------------------
-- Costs
------------------------------------------------------------

namespace CostModel

variable {R : Type} [Add R] [Mul R] [OfNat R 1]

/- The relations of an instance, through any of its castings. -/
def relationsPerInstance (m : CostModel R) : R :=
  m.relationsPerCasting * m.castingsPerInstance

/- The expected number of ends for each start. -/
def fanOut
    (m : CostModel R) : FragmentKind → R
| .filter _ => 1
| .neq => 1
| .step .isa .outward => 1
| .step .isa .inward => m.instancesPerType
| .step .sub _ => m.subtypesPerType
| .step .relates .outward => m.rolePlayersPerRelation
| .step .relates .inward => 1
| .step .plays .outward => m.rolesPerType
| .step .plays .inward => m.typesPerRole
| .step (.has _) .outward => m.castingsPerInstance
| .step (.has _) .inward => m.relationsPerCasting
| .casting (some _) .outward => m.rolePlayersPerRole
| .casting none .outward => m.rolePlayersPerRelation
| .casting _ .inward => m.relationsPerInstance

/- The cost of scanning the instances of a type and expanding each. -/
def scan
    (m : CostModel R)
    (fanOut : R) : R :=
  m.instancesPerType * (1 + fanOut)

/-
  The estimated cost of a kind of fragment, depending on whether
  its start variable is bound.  Labels, identifiers and single
  values are looked up in an index.
-/
def kindCost
    (m : CostModel R)
    (anchored : Bool) : FragmentKind → R
| .filter (.label _) => 1
| .filter (.id _) => 1
| .filter (.value p) =>
    if anchored then
      1
    else if p.isIndexable then
      m.resourcesPerValue
    else
      m.scan 1
| .filter _ => if anchored then 1 else m.scan 1
| .neq => if anchored then 1 else m.scan 1
| .step e d =>
    if anchored then
      m.fanOut (.step e d)
    else
      m.scan (m.fanOut (.step e d))
| .casting role d =>
    if anchored then
      m.fanOut (.casting role d)
    else
      m.scan (m.fanOut (.casting role d))

/- The estimated cost of a fragment when some variables are bound. -/
def cost
    (m : CostModel R)
    (bound : VarSet)
    (f : Fragment) : R :=
  m.kindCost (decide (f.start ∈ bound)) f.kind

end CostModel

end TraversalPlanner
