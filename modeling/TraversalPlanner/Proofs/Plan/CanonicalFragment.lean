import TraversalPlanner.Plan.CostModel
import TraversalPlanner.Plan.Lowering
import TraversalPlanner.Proofs.Pattern.CanonicalPattern

/-
  Fragments in which all literals that stand for no number are
  taken as one.  Their variables, names, costs and duplicates
  stay the same, and lowering a pattern gives such fragments if
  the pattern has such literals.

  Main declarations:
    * `Fragment.canonical`
    * `Fragment.duplicates_canonical`
    * `FragmentSet.canonical`
    * `Pattern.lower_canonical`
-/

namespace TraversalPlanner

------------------------------------------------------------
-- Filters and Kinds
------------------------------------------------------------

namespace Filter

/- A filter with a canonical literal. -/
def canonical : Filter → Filter
| .value p => .value p.canonical
| f => f

/- The canonical filter waits for the same variable. -/
@[simp] theorem var?_canonical (f : Filter) :
    f.canonical.var? = f.var? := by
  cases f with
  | value p => exact p.var?_canonical
  | _ => rfl

/- The canonical filter has the same name. -/
@[simp] theorem name_canonical (f : Filter) :
    f.canonical.name = f.name := by
  cases f with
  | value p => simp [canonical, name]
  | _ => rfl

/- Canonical filters ask for the same. -/
theorem agree_canonical
    {f g : Filter} :
    f.canonical.Agree g.canonical ↔ f.Agree g := by
  cases f with
  | value p =>
      cases g with
      | value q => exact ValuePredicate.agree_canonical
      | _ =>
          constructor
          · intro h
            cases h
          · intro h
            cases h
  | _ =>
      cases g with
      | value q =>
          constructor
          · intro h
            cases h
          · intro h
            cases h
      | _ => exact Iff.rfl

end Filter

namespace FragmentKind

/- A kind with a canonical literal. -/
def canonical : FragmentKind → FragmentKind
| .filter f => .filter f.canonical
| k => k

/- The canonical kind has the same name. -/
@[simp] theorem name_canonical (k : FragmentKind) :
    k.canonical.name = k.name := by
  cases k with
  | filter f => exact f.name_canonical
  | _ => rfl

/- The canonical kind has the same shape. -/
@[simp] theorem shape_canonical (k : FragmentKind) :
    k.canonical.shape = k.shape := by
  cases k with
  | filter f => cases f <;> rfl
  | _ => rfl

/- Canonical kinds ask for the same. -/
theorem agree_canonical
    {k l : FragmentKind} :
    k.canonical.Agree l.canonical ↔ k.Agree l := by
  cases k with
  | filter f =>
      cases l with
      | filter g => exact Filter.agree_canonical
      | _ =>
          constructor
          · intro h
            cases h
          · intro h
            cases h
  | _ =>
      cases l with
      | filter g =>
          constructor
          · intro h
            cases h
          · intro h
            cases h
      | _ => exact Iff.rfl

end FragmentKind

/- The canonical kind costs the same. -/
@[simp] theorem CostModel.kindCost_canonical
    {R : Type}
    [Add R]
    [Mul R]
    [OfNat R 1]
    (m : CostModel R)
    (anchored : Bool)
    (k : FragmentKind) :
    m.kindCost anchored k.canonical = m.kindCost anchored k := by
  cases k with
  | filter f =>
      cases f with
      | value p =>
          simp [FragmentKind.canonical, Filter.canonical, kindCost]
      | _ => rfl
  | _ => rfl

------------------------------------------------------------
-- Fragments
------------------------------------------------------------

namespace Fragment

/- A fragment with a canonical literal. -/
def canonical : Fragment → Fragment
| .filter f x => .filter f.canonical x
| f => f

/- The kind of a canonical fragment. -/
@[simp] theorem kind_canonical (f : Fragment) :
    f.canonical.kind = f.kind.canonical := by
  cases f <;> rfl

/- The canonical fragment starts from the same variable. -/
@[simp] theorem start_canonical (f : Fragment) :
    f.canonical.start = f.start := by
  cases f <;> rfl

/- The canonical fragment ends at the same variable. -/
@[simp] theorem finish?_canonical (f : Fragment) :
    f.canonical.finish? = f.finish? := by
  cases f <;> rfl

/- The canonical fragment has the same other variables. -/
@[simp] theorem others_canonical (f : Fragment) :
    f.canonical.others = f.others := by
  cases f with
  | filter f x => simp [canonical, others]
  | _ => rfl

/- The canonical fragment has the same variables. -/
@[simp] theorem vars_canonical (f : Fragment) :
    f.canonical.vars = f.vars := by
  simp [vars]

/- The canonical fragment has the same dependencies. -/
@[simp] theorem dependencies_canonical (f : Fragment) :
    f.canonical.dependencies = f.dependencies := by
  cases f with
  | filter f x => simp [canonical, dependencies]
  | _ => rfl

/- The canonical fragment has the same name. -/
@[simp] theorem name_canonical (f : Fragment) :
    f.canonical.name = f.name := by
  simp [name]

/- The canonical fragment is shown alike. -/
@[simp] theorem render_canonical (f : Fragment) :
    f.canonical.render = f.render := by
  simp [render]

/- Canonical fragments have the same duplicates. -/
theorem duplicates_canonical
    {f g : Fragment} :
    f.canonical.Duplicates g.canonical ↔ f.Duplicates g := by
  simp [Duplicates, Similar, FragmentKind.agree_canonical]

end Fragment

/- The canonical fragment costs the same. -/
@[simp] theorem CostModel.cost_canonical
    (m : CostModel Binary64)
    (bound : VarSet)
    (f : Fragment) :
    m.cost bound f.canonical = m.cost bound f := by
  simp [cost]

------------------------------------------------------------
-- Sets
------------------------------------------------------------

namespace FragmentSet

/- A set of fragments with canonical literals. -/
def canonical (s : FragmentSet) : FragmentSet where
  first := s.first.canonical
  rest := s.rest.map Fragment.canonical

/- The fragments of a canonical set. -/
@[simp] theorem fragments_canonical (s : FragmentSet) :
    s.canonical.fragments = s.fragments.map Fragment.canonical :=
  rfl

/- Canonical sets have the same duplicates. -/
theorem duplicates_canonical
    {s t : FragmentSet} :
    s.canonical.Duplicates t.canonical ↔ s.Duplicates t := by
  simp [Duplicates, Fragment.duplicates_canonical]

end FragmentSet

------------------------------------------------------------
-- Lowering
------------------------------------------------------------

namespace Lowering

/- Canonical properties leave as many resources unnamed. -/
@[simp] theorem unnamedResources_canonical (p : Property) :
    unnamedResources p.canonical = unnamedResources p := by
  cases p with
  | has type resource predicate => cases resource <;> rfl
  | _ => rfl

/- A pinned label has no literal. -/
theorem pin_map_canonical (t : TypeRef) :
    (pin t).map FragmentSet.canonical = pin t := by
  cases t <;> rfl

/- A canonical property has canonical sets. -/
theorem ofProperty_canonical
    (n : Nat)
    (x : Var)
    (p : Property) :
    ofProperty n x p.canonical =
      (ofProperty n x p).map FragmentSet.canonical := by
  cases p with
  | isa t =>
      simp only [Property.canonical, ofProperty, List.map_append,
        pin_map_canonical]
      rfl
  | sub t =>
      simp only [Property.canonical, ofProperty, List.map_append,
        pin_map_canonical]
      rfl
  | relates t =>
      simp only [Property.canonical, ofProperty, List.map_append,
        pin_map_canonical]
      rfl
  | plays t =>
      simp only [Property.canonical, ofProperty, List.map_append,
        pin_map_canonical]
      rfl
  | has type resource predicate => cases predicate <;> rfl
  | rolePlayer p =>
      have hPin :
          ((p.role.map pin).getD []).map FragmentSet.canonical =
            (p.role.map pin).getD [] := by
        cases p.role with
        | none => rfl
        | some t => exact pin_map_canonical t
      simp only [Property.canonical, ofProperty, List.map_append, hPin]
      rfl
  | _ => rfl

/- Canonical properties have canonical sets. -/
theorem ofProperties_canonical
    (x : Var)
    {ps : List Property} :
    ∀ n : Nat,
      ofProperties n x (ps.map Property.canonical) =
        (ofProperties n x ps).map FragmentSet.canonical := by
  induction ps with
  | nil =>
      intro n
      rfl
  | cons p ps ih =>
      intro n
      rw [List.map_cons, ofProperties, ofProperties, List.map_append,
        ofProperty_canonical, unnamedResources_canonical, ih]

/- Canonical clauses leave as many resources unnamed. -/
@[simp] theorem unnamedInClause_canonical (c : Clause) :
    unnamedInClause c.canonical = unnamedInClause c := by
  simp [unnamedInClause, Clause.canonical, Function.comp_def]

/- Canonical clauses have canonical sets. -/
theorem ofClauses_canonical
    {cs : List Clause} :
    ∀ n : Nat,
      ofClauses n (cs.map Clause.canonical) =
        (ofClauses n cs).map FragmentSet.canonical := by
  induction cs with
  | nil =>
      intro n
      rfl
  | cons c cs ih =>
      intro n
      have hClause :
          ofClause n c.canonical =
            (ofClause n c).map FragmentSet.canonical :=
        ofProperties_canonical c.subject n
      rw [List.map_cons, ofClauses, ofClauses, List.map_append, hClause,
        unnamedInClause_canonical, ih]

end Lowering

/- A canonical pattern has canonical sets. -/
theorem Pattern.lower_canonical (p : Pattern) :
    p.canonical.lower = p.lower.map FragmentSet.canonical :=
  Lowering.ofClauses_canonical 0

end TraversalPlanner
