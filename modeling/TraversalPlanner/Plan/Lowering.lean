import TraversalPlanner.Pattern.Clause
import TraversalPlanner.Plan.FragmentSet

/-
  This file lowers patterns into sets of equivalent fragments.
  An edge becomes a set with both directions.  A label gets a
  variable of its own, pinned by a filter, so that plans can
  start from an index lookup.

  Key definitions include:
    * `Lowering.labelVar`
    * `Lowering.resourceVar`
    * `Lowering.ofProperty`
    * `Lowering.ofClause`
    * `Pattern.lower`
-/

namespace TraversalPlanner

namespace Lowering

------------------------------------------------------------
-- Generated Variables
------------------------------------------------------------

/- The variable that stands for the schema concept with a label. -/
def labelVar (label : String) : Var :=
  Var.generated ("label-" ++ label)

/- The variable of a resource that a pattern leaves unnamed. -/
def resourceVar (n : Nat) : Var :=
  Var.generated ("attr" ++ n.repr)

/- The number of resources that a property leaves unnamed. -/
def unnamedResources : Property → Nat
| .has _ none _ => 1
| _ => 0

/- The number of resources that a clause leaves unnamed. -/
def unnamedInClause (c : Clause) : Nat :=
  (c.properties.map unnamedResources).foldr (· + ·) 0

------------------------------------------------------------
-- Constraints
------------------------------------------------------------

/- The variable of a type reference. -/
def typeVar : TypeRef → Var
| .label l => labelVar l
| .var x => x

/- The set that pins the label of a type reference. -/
def pin : TypeRef → List FragmentSet
| .label l => [.single (.filter (.label l) (labelVar l))]
| .var _ => []

/- A filter on a variable. -/
def filtered
    (f : Filter)
    (x : Var) : FragmentSet :=
  .single (.filter f x)

/- An edge, followed in either direction. -/
def connected
    (e : Edge)
    (x y : Var) : FragmentSet :=
  ⟨.step e .outward x y, [.step e .inward y x]⟩

/- A relation and its player, reached from either end. -/
def cast
    (role : Option String)
    (roleVar : Option Var)
    (relation player : Var) : FragmentSet :=
  ⟨.casting role roleVar .outward relation player,
   [.casting role roleVar .inward player relation]⟩

/- Two variables for different concepts, either of them first. -/
def distinct (x y : Var) : FragmentSet :=
  ⟨.neq x y, [.neq y x]⟩

------------------------------------------------------------
-- Patterns
------------------------------------------------------------

/-
  The sets of a property of a variable.  `n` resources of the
  pattern are left unnamed before this property.
-/
def ofProperty
    (n : Nat)
    (x : Var) : Property → List FragmentSet
| .isa t => pin t ++ [connected .isa x (typeVar t)]
| .sub t => pin t ++ [connected .sub x (typeVar t)]
| .relates t => pin t ++ [connected .relates x (typeVar t)]
| .plays t => pin t ++ [connected .plays x (typeVar t)]
| .label l => [filtered (.label l) x]
| .id i => [filtered (.id i) x]
| .value p => [filtered (.value p) x]
| .has type resource predicate =>
    let y := resource.getD (resourceVar n)
    connected (.has type) x y ::
      (predicate.map fun p => filtered (.value p) y).toList
| .rolePlayer p =>
    (p.role.map pin).getD [] ++
      [cast p.roleLabel? (p.role.map typeVar) x p.player]
| .dataType t => [filtered (.dataType t) x]
| .isAbstract => [filtered .isAbstract x]
| .regex r => [filtered (.regex r) x]
| .neq y => [distinct x y]

/- The sets of properties of a variable, in order. -/
def ofProperties
    (n : Nat)
    (x : Var) : List Property → List FragmentSet
| [] => []
| p :: ps => ofProperty n x p ++ ofProperties (n + unnamedResources p) x ps

/- The sets of a clause. -/
def ofClause
    (n : Nat)
    (c : Clause) : List FragmentSet :=
  ofProperties n c.subject c.properties

/- The sets of clauses, in order. -/
def ofClauses
    (n : Nat) : List Clause → List FragmentSet
| [] => []
| c :: cs => ofClause n c ++ ofClauses (n + unnamedInClause c) cs

end Lowering

/- The sets of equivalent fragments that express a pattern. -/
def Pattern.lower (p : Pattern) : List FragmentSet :=
  Lowering.ofClauses 0 p.clauses

end TraversalPlanner
