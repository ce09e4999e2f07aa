import TraversalPlanner.Pattern.Document
import TraversalPlanner.Plan.CostModel
import TraversalPlanner.Plan.Plan

/-
  This file writes fragments and plans as documents, and writes
  and reads cost models.

  Key definitions include:
    * `FragmentKind.toJson`
    * `Fragment.toJson`
    * `FragmentSet.toJson`
    * `Plan.toJson`
    * `CostModel.toJson`, `CostModel.ofJson?`
-/

namespace TraversalPlanner

------------------------------------------------------------
-- Fragments
------------------------------------------------------------

namespace Edge

/- The tag of an edge. -/
def tag : Edge → String
| .isa => "Isa"
| .sub => "Sub"
| .relates => "Relates"
| .plays => "Plays"
| .has _ => "Has"

end Edge

namespace Direction

/- The tag of a direction. -/
def tag : Direction → String
| .outward => "Out"
| .inward => "In"

end Direction

namespace FragmentKind

/- A kind is written under its tag. -/
def toJson : FragmentKind → Json
| .filter (.label l) => .tagged "Label" (.string l)
| .filter (.id i) => .tagged "Id" (.string i)
| .filter (.value p) => .tagged "Value" p.toJson
| .filter (.dataType t) => .tagged "DataType" t.toJson
| .filter .isAbstract => .string "IsAbstract"
| .filter (.regex r) => .tagged "Regex" (.string r)
| .neq => .string "Neq"
| .step (.has type) d =>
    .tagged (d.tag ++ "Has") (.object [("attribute_type", .string type)])
| .step e d => .string (d.tag ++ e.tag)
| .casting role d =>
    .tagged (d.tag ++ "RolePlayer")
      (.object [("role", .ofOption (role.map Json.string))])

end FragmentKind

namespace Fragment

/- A fragment is written as a record. -/
def toJson (f : Fragment) : Json :=
  .object
    [("kind", f.kind.toJson),
     ("start", f.start.toJson),
     ("end", .ofOption (f.finish?.map Var.toJson)),
     ("others", .array (f.others.map Var.toJson))]

end Fragment

namespace FragmentSet

/- A set of fragments is written as a record. -/
def toJson (s : FragmentSet) : Json :=
  .object [("fragments", .array (s.fragments.map Fragment.toJson))]

end FragmentSet

------------------------------------------------------------
-- Plans
------------------------------------------------------------

namespace PlanStep

/- A step is written as a record. -/
def toJson (s : PlanStep) : Json :=
  .object
    [("fragment", s.fragment.toJson),
     ("cost", .ofNumber s.cost),
     ("set", .ofNat s.set)]

end PlanStep

namespace Plan

/- A plan is written as a record. -/
def toJson (p : Plan) : Json :=
  .object
    [("steps", .array (p.steps.map PlanStep.toJson)),
     ("start_vars", .array (p.startVars.toList.map Var.toJson)),
     ("trace", .ofOption (p.trace.map PlanTrace.toJson))]

end Plan

------------------------------------------------------------
-- Cost Models
------------------------------------------------------------

namespace CostModel

/- A model is written as a record of its cardinalities. -/
def toJson (m : CostModel Binary64) : Json :=
  .object (m.constants.map fun c => (c.1, .ofNumber c.2))

/- The model of a list of cardinalities. -/
def ofConstants?
    {R : Type} : List R → Option (CostModel R)
| [a, b, c, d, e, f, g, h, i, j, k] => some ⟨a, b, c, d, e, f, g, h, i, j, k⟩
| _ => none

/-
  A model is read from a record.  A cardinality that is not there
  has its standard value.
-/
def ofJson? (j : Json) : Option (CostModel Binary64) := do
  let slots ← j.slots? (standard.constants.map Prod.fst)
  let values ← (standard.constants.zip slots).mapM fun (c, slot) =>
    slot.withDefault c.2 Json.toNumber?
  ofConstants? values

/- The model of a document. -/
def ofText? (text : String) : Option (CostModel Binary64) :=
  (Json.parse? text).bind ofJson?

end CostModel

end TraversalPlanner
