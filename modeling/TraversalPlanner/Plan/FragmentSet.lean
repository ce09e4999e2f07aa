import TraversalPlanner.Plan.OwnerTable

/-
  This file defines sets of equivalent fragments.  All fragments
  of a set express the same constraint, so a plan runs exactly
  one of them.  An arena numbers the sets of one planning run.

  Key definitions include:
    * `FragmentSet`
    * `FragmentSet.ofList`
    * `FragmentSet.Similar`
    * `FragmentSet.Duplicates`
    * `ContractViolation`
    * `Arena`
    * `Arena.build`
    * `Arena.set`
    * `Arena.owners`
    * `Arena.owner`
-/

namespace TraversalPlanner

------------------------------------------------------------
-- Misuse of Sets
------------------------------------------------------------

/- A misuse of fragment sets. -/
inductive ContractViolation where
/- a set without fragments -/
| emptySet : ContractViolation
/- a fragment that belongs to no set -/
| unassigned : Fragment → ContractViolation
/- a number that no set has -/
| unknownSet : Nat → ContractViolation
deriving DecidableEq, Repr

/- The number of a set as messages show it. -/
def renderSetId (id : Nat) : String :=
  "#" ++ id.repr

namespace ContractViolation

/- What was misused. -/
def message : ContractViolation → String
| .emptySet =>
    "an equivalent fragment set must contain at least one fragment"
| .unassigned f =>
    "fragment " ++ f.render ++
      " was read before being assigned to an equivalent fragment set"
| .unknownSet id =>
    "no equivalent fragment set with id " ++ renderSetId id

end ContractViolation

------------------------------------------------------------
-- Sets of Equivalent Fragments
------------------------------------------------------------

/- Fragments for the same constraint, at least one. -/
structure FragmentSet where
  first : Fragment
  rest : List Fragment
deriving DecidableEq, Repr

namespace FragmentSet

/- The fragments of a set in order. -/
def fragments (s : FragmentSet) : List Fragment :=
  s.first :: s.rest

/- The set of a list of fragments. -/
def ofList : List Fragment → Except ContractViolation FragmentSet
| [] => .error .emptySet
| f :: fs => .ok ⟨f, fs⟩

/- The set of one fragment. -/
def single (f : Fragment) : FragmentSet :=
  ⟨f, []⟩

/- A set as messages show it. -/
def render (s : FragmentSet) : String :=
  "\x7b" ++ String.intercalate ", " (s.fragments.map Fragment.render) ++ "\x7d"

/- Every fragment of a set has a similar one in the other set. -/
def Similar (s t : FragmentSet) : Prop :=
  (∀ f ∈ s.fragments, ∃ g ∈ t.fragments, g.Similar f) ∧
    (∀ g ∈ t.fragments, ∃ f ∈ s.fragments, f.Similar g)

instance (s t : FragmentSet) : Decidable (s.Similar t) := by
  unfold Similar
  infer_instance

/-
  Two sets state the same constraint: every fragment of each has
  a duplicate in the other.
-/
def Duplicates (s t : FragmentSet) : Prop :=
  (∀ f ∈ s.fragments, ∃ g ∈ t.fragments, f.Duplicates g) ∧
    (∀ g ∈ t.fragments, ∃ f ∈ s.fragments, g.Duplicates f)

instance (s t : FragmentSet) : Decidable (s.Duplicates t) := by
  unfold Duplicates
  infer_instance

end FragmentSet

------------------------------------------------------------
-- Arenas
------------------------------------------------------------

/- The sets of a planning run; the number of a set is its position. -/
structure Arena where
  sets : List FragmentSet
deriving DecidableEq, Repr

/- A fragment with the number of its set and its position there. -/
structure Candidate where
  set : Nat
  index : Nat
  fragment : Fragment
deriving DecidableEq, Repr

namespace Arena

/- Register a set unless it duplicates a registered one. -/
def register
    (known : List FragmentSet)
    (s : FragmentSet) : List FragmentSet :=
  if ∃ k ∈ known, k.Duplicates s then known else known ++ [s]

/- The arena of a list of sets, of duplicates the first ones. -/
def build (sets : List FragmentSet) : Arena :=
  ⟨sets.foldl register []⟩

/- The number of sets. -/
def size (a : Arena) : Nat :=
  a.sets.length

/- The set with a number. -/
def set
    (a : Arena)
    (id : Nat) : Except ContractViolation FragmentSet :=
  match a.sets[id]? with
  | some s => .ok s
  | none => .error (.unknownSet id)

/- The table of all fragments, with the numbers of their sets in order. -/
def owners (a : Arena) : OwnerTable :=
  a.sets.zipIdx.foldl (fun t (s, id) => t.addAll id s.fragments) .empty

/- The set with a number contains a duplicate of a fragment. -/
def holdsDuplicate
    (a : Arena)
    (f : Fragment)
    (id : Nat) : Bool :=
  decide (∃ s ∈ a.sets[id]?, ∃ g ∈ s.fragments, g.Duplicates f)

/-
  The first set that contains a duplicate of a fragment, among
  those that are noted for fragments similar to it.
-/
def owner
    (a : Arena)
    (f : Fragment) : Except ContractViolation Nat :=
  match (a.owners.row f).find? (a.holdsDuplicate f) with
  | some id => .ok id
  | none => .error (.unassigned f)

/- Every fragment of every set, in order. -/
def candidates (a : Arena) : List Candidate :=
  a.sets.zipIdx.flatMap fun (s, id) =>
    s.fragments.zipIdx.map fun (f, index) => ⟨id, index, f⟩

end Arena

end TraversalPlanner
