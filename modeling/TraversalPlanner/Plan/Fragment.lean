import TraversalPlanner.Pattern.Value

/-
  This file defines fragments, the primitive steps of a plan.  A
  fragment filters the concepts bound to its start variable, or
  follows one kind of connection from its start variable to
  another variable.

  Key definitions include:
    * `Filter`
    * `Edge`
    * `Direction`
    * `FragmentKind`
    * `FragmentKind.name`
    * `Fragment`
    * `Fragment.vars`
    * `Fragment.dependencies`
    * `Fragment.Similar`
    * `Fragment.Duplicates`
-/

namespace TraversalPlanner

------------------------------------------------------------
-- Filters
------------------------------------------------------------

/- A constraint on the concepts of one variable. -/
inductive Filter where
/- the schema concept with a label -/
| label : String → Filter
/- the concept with an identifier -/
| id : String → Filter
/- resources whose value satisfies a predicate -/
| value : ValuePredicate → Filter
/- resource types with a data type -/
| dataType : DataType → Filter
/- types without direct instances -/
| isAbstract : Filter
/- resource types with a regular expression -/
| regex : String → Filter
deriving DecidableEq, Repr

namespace Filter

/- The name of a filter. -/
def name : Filter → String
| .label l => "[label:" ++ l ++ "]"
| .id i => "[id:" ++ i ++ "]"
| .value p => "[value:" ++ p.render ++ "]"
| .dataType t => "[datatype:" ++ t.name ++ "]"
| .isAbstract => "[is-abstract]"
| .regex r => "[regex:" ++ r ++ "]"

/- The variable whose value the filter needs. -/
def var? : Filter → Option Var
| .value p => p.var?
| _ => none

/- Two filters ask for the same. -/
def Agree : Filter → Filter → Prop
| .value p, .value q => p.Agree q
| f, g => f = g

instance (f g : Filter) : Decidable (f.Agree g) := by
  unfold Agree
  split <;> infer_instance

end Filter

------------------------------------------------------------
-- Edges and Directions
------------------------------------------------------------

/- A kind of edge between two concepts. -/
inductive Edge where
/- from an instance to its type -/
| isa : Edge
/- from a subtype to its supertype -/
| sub : Edge
/- from a relation type to a role -/
| relates : Edge
/- from a type to a role -/
| plays : Edge
/- from an owner to a resource of a type -/
| has : String → Edge
deriving DecidableEq, Repr

namespace Edge

/- The label of an edge. -/
def label : Edge → String
| .isa => "isa"
| .sub => "sub"
| .relates => "relates"
| .plays => "plays"
| .has type => "has:" ++ type

end Edge

/- The direction in which an edge is followed. -/
inductive Direction where
| outward
| inward
deriving DecidableEq, Repr

namespace Direction

/- An arrow with a label. -/
def arrow
    (label : String) : Direction → String
| .outward => "-[" ++ label ++ "]->"
| .inward => "<-[" ++ label ++ "]-"

/- The opposite direction. -/
def flip : Direction → Direction
| .outward => .inward
| .inward => .outward

end Direction

------------------------------------------------------------
-- Kinds of Fragments
------------------------------------------------------------

/- What a fragment does, apart from its variables. -/
inductive FragmentKind where
/- keep the concepts that pass a filter -/
| filter : Filter → FragmentKind
/- keep the concepts that differ from another one -/
| neq : FragmentKind
/- follow an edge -/
| step : Edge → Direction → FragmentKind
/-
  move between a relation and a role player, whose role may be
  restricted to a label
-/
| casting : Option String → Direction → FragmentKind
deriving DecidableEq, Repr

namespace FragmentKind

/- The label of a casting. -/
def castingLabel : Option String → String
| none => "rel"
| some role => "rel:" ++ role

/- The name of a kind, which stands between the variables. -/
def name : FragmentKind → String
| .filter f => f.name
| .neq => "-[neq]-"
| .step e d => d.arrow e.label
| .casting role d => d.arrow (castingLabel role)

/- The fragment moves from its start variable to another one. -/
def isTraversal : FragmentKind → Bool
| .filter _ => false
| .neq => false
| .step _ _ => true
| .casting _ _ => true

/- Two kinds are equal up to literals for the same value. -/
def Agree : FragmentKind → FragmentKind → Prop
| .filter f, .filter g => f.Agree g
| k, l => k = l

instance (k l : FragmentKind) : Decidable (k.Agree l) := by
  unfold Agree
  split <;> infer_instance

end FragmentKind

------------------------------------------------------------
-- Shapes
------------------------------------------------------------

/- A kind of fragment without labels, types, values and roles. -/
inductive FragmentShape where
| label
| id
| value
| neq
| dataType
| isAbstract
| regex
| isa : Direction → FragmentShape
| sub : Direction → FragmentShape
| relates : Direction → FragmentShape
| plays : Direction → FragmentShape
| has : Direction → FragmentShape
| casting : Direction → FragmentShape
deriving DecidableEq, Repr

namespace FragmentKind

/- The shape of a kind. -/
def shape : FragmentKind → FragmentShape
| .filter (.label _) => .label
| .filter (.id _) => .id
| .filter (.value _) => .value
| .filter (.dataType _) => .dataType
| .filter .isAbstract => .isAbstract
| .filter (.regex _) => .regex
| .neq => .neq
| .step .isa d => .isa d
| .step .sub d => .sub d
| .step .relates d => .relates d
| .step .plays d => .plays d
| .step (.has _) d => .has d
| .casting _ d => .casting d

end FragmentKind

------------------------------------------------------------
-- Fragments
------------------------------------------------------------

/- A primitive step of a plan. -/
inductive Fragment where
| filter :
    (filter : Filter) →
    (start : Var) →
    Fragment
| neq :
    (start : Var) →
    (other : Var) →
    Fragment
| step :
    (edge : Edge) →
    (direction : Direction) →
    (start : Var) →
    (finish : Var) →
    Fragment
| casting :
    (role : Option String) →
    (roleVar : Option Var) →
    (direction : Direction) →
    (start : Var) →
    (finish : Var) →
    Fragment
deriving DecidableEq, Repr

namespace Fragment

/- The kind of a fragment. -/
def kind : Fragment → FragmentKind
| .filter f _ => .filter f
| .neq _ _ => .neq
| .step e d _ _ => .step e d
| .casting role _ d _ _ => .casting role d

/- The variable that a fragment starts from. -/
def start : Fragment → Var
| .filter _ x => x
| .neq x _ => x
| .step _ _ x _ => x
| .casting _ _ _ x _ => x

/- The variable that a fragment ends at, if it has one. -/
def finish? : Fragment → Option Var
| .filter _ _ => none
| .neq _ y => some y
| .step _ _ _ y => some y
| .casting _ _ _ _ y => some y

/- The variables of a fragment that are neither its start nor its end. -/
def others : Fragment → List Var
| .filter f _ => f.var?.toList
| .neq _ _ => []
| .step _ _ _ _ => []
| .casting _ roleVar _ _ _ => roleVar.toList

/- All variables of a fragment. -/
def vars (f : Fragment) : VarSet :=
  SortedSet.ofList (f.start :: (f.finish?.toList ++ f.others))

/- The variables that must be bound before a fragment can run. -/
def dependencies : Fragment → List Var
| .filter f _ => f.var?.toList
| .neq _ y => [y]
| .step _ _ _ _ => []
| .casting _ _ _ _ _ => []

/- The name of a fragment is that of its kind. -/
def name (f : Fragment) : String :=
  f.kind.name

/- A fragment as plans show it. -/
def render (f : Fragment) : String :=
  f.start.render ++ f.name ++ (f.finish?.elim "" Var.render)

------------------------------------------------------------
-- Similar Fragments and Duplicates
------------------------------------------------------------

/-
  Two fragments have the same shape, start and end.  Labels,
  types, values, roles and role variables are left aside.
-/
def Similar (f g : Fragment) : Prop :=
  f.kind.shape = g.kind.shape ∧
    f.start = g.start ∧
    f.finish? = g.finish?

instance (f g : Fragment) : Decidable (f.Similar g) := by
  unfold Similar
  infer_instance

namespace Similar

/- A fragment is similar to itself. -/
theorem refl (f : Fragment) : f.Similar f :=
  ⟨rfl, rfl, rfl⟩

/- Similar fragments are similar to each other. -/
theorem symm
    {f g : Fragment}
    (h : f.Similar g) :
    g.Similar f :=
  ⟨h.1.symm, h.2.1.symm, h.2.2.symm⟩

/- Fragments that are similar to one fragment are similar. -/
theorem trans
    {f g e : Fragment}
    (h : f.Similar g)
    (h' : g.Similar e) :
    f.Similar e :=
  ⟨h.1.trans h'.1, h.2.1.trans h'.2.1, h.2.2.trans h'.2.2⟩

end Similar

/- Fragments of which no two are similar, of similar ones the first. -/
def dissimilar (fs : List Fragment) : List Fragment :=
  fs.foldl
    (fun known f => if ∃ g ∈ known, g.Similar f then known else known ++ [f])
    []

/-
  Two fragments state the same constraint: they are similar and
  of the same kind.  Role variables are left aside.
-/
def Duplicates (f g : Fragment) : Prop :=
  f.Similar g ∧ f.kind.Agree g.kind

instance (f g : Fragment) : Decidable (f.Duplicates g) := by
  unfold Duplicates
  infer_instance

end Fragment

end TraversalPlanner
