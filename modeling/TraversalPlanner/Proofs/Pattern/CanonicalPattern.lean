import TraversalPlanner.Pattern.Clause
import TraversalPlanner.Proofs.Number.WrittenNumber

/-
  Patterns in which all literals that stand for no number are
  taken as one.  What queries write, and which literals stand for
  the same value, is not changed by that.

  Main declarations:
    * `Value.canonical`
    * `ValuePredicate.canonical`
    * `ValuePredicate.agree_canonical`
    * `Property.canonical`
    * `Pattern.canonical`
-/

namespace TraversalPlanner

------------------------------------------------------------
-- Numbers
------------------------------------------------------------

namespace Binary64

/- Taking words as one keeps which words stand for no number. -/
theorem isNaN_canonical (x : Binary64) :
    x.canonical.isNaN = x.isNaN := by
  unfold canonical
  split
  · rename_i h
    rw [h]
    decide
  · rfl

/- A word that stands for a number is kept. -/
theorem canonical_of_not_isNaN
    {x : Binary64}
    (h : x.isNaN = false) :
    x.canonical = x := by
  unfold canonical
  rw [h]
  exact if_neg Bool.false_ne_true

/- Taking words as one keeps which words stand for the same number. -/
theorem agree_canonical
    {x y : Binary64} :
    x.canonical.Agree y.canonical ↔ x.Agree y := by
  constructor
  · intro h
    have hx : x.isNaN = false := by
      rw [← isNaN_canonical]
      exact h.1
    have hy : y.isNaN = false := by
      rw [← isNaN_canonical]
      exact h.2.1
    rw [canonical_of_not_isNaN hx, canonical_of_not_isNaN hy] at h
    exact h
  · intro h
    rw [canonical_of_not_isNaN h.1, canonical_of_not_isNaN h.2.1]
    exact h

end Binary64

------------------------------------------------------------
-- Literals and Operands
------------------------------------------------------------

namespace Value

/- A literal, where all that stand for no number are taken as one. -/
def canonical : Value → Value
| .double x => .double x.canonical
| v => v

/- The canonical literal is written alike. -/
@[simp] theorem render_canonical (v : Value) :
    v.canonical.render = v.render := by
  cases v with
  | double x => exact Binary64.render_canonical _ x
  | string s => rfl
  | long n => rfl
  | boolean b => rfl

/- Canonical literals stand for the same values. -/
theorem agree_canonical
    {v w : Value} :
    v.canonical.Agree w.canonical ↔ v.Agree w := by
  cases v with
  | double x =>
      cases w with
      | double y => exact Binary64.agree_canonical
      | string t => exact Iff.rfl
      | long n => exact Iff.rfl
      | boolean b => exact Iff.rfl
  | string s => cases w <;> exact Iff.rfl
  | long m => cases w <;> exact Iff.rfl
  | boolean a => cases w <;> exact Iff.rfl

end Value

namespace Operand

/- An operand with a canonical literal. -/
def canonical : Operand → Operand
| .value v => .value v.canonical
| .var x => .var x

/- The canonical operand is written alike. -/
@[simp] theorem render_canonical (o : Operand) :
    o.canonical.render = o.render := by
  cases o with
  | value v => exact v.render_canonical
  | var x => rfl

/- The canonical operand is the same variable, if it is one. -/
@[simp] theorem var?_canonical (o : Operand) :
    o.canonical.var? = o.var? := by
  cases o <;> rfl

/- Canonical operands ask for the same. -/
theorem agree_canonical
    {o p : Operand} :
    o.canonical.Agree p.canonical ↔ o.Agree p := by
  cases o with
  | value v =>
      cases p with
      | value w => exact Value.agree_canonical
      | var y => exact Iff.rfl
  | var x => cases p <;> exact Iff.rfl

end Operand

------------------------------------------------------------
-- Predicates
------------------------------------------------------------

namespace ValuePredicate

/- A predicate with a canonical literal. -/
def canonical : ValuePredicate → ValuePredicate
| .compare c o => .compare c o.canonical
| .contains s => .contains s
| .regex r => .regex r

/- The canonical predicate is written alike. -/
@[simp] theorem render_canonical (p : ValuePredicate) :
    p.canonical.render = p.render := by
  cases p with
  | compare c o =>
      cases o with
      | value v =>
          cases c <;>
            simp [canonical, render, Operand.canonical, Operand.render]
      | var x => rfl
  | contains s => rfl
  | regex r => rfl

/- The canonical predicate waits for the same variable. -/
@[simp] theorem var?_canonical (p : ValuePredicate) :
    p.canonical.var? = p.var? := by
  cases p with
  | compare c o => exact o.var?_canonical
  | contains s => rfl
  | regex r => rfl

/- The canonical predicate has the same regular expression. -/
@[simp] theorem regex?_canonical (p : ValuePredicate) :
    p.canonical.regex? = p.regex? := by
  cases p <;> rfl

/- An index can look up the same canonical predicates. -/
@[simp] theorem isIndexable_canonical (p : ValuePredicate) :
    p.canonical.isIndexable = p.isIndexable := by
  cases p with
  | compare c o => cases c <;> cases o <;> rfl
  | contains s => rfl
  | regex r => rfl

/- Canonical predicates ask for the same. -/
theorem agree_canonical
    {p q : ValuePredicate} :
    p.canonical.Agree q.canonical ↔ p.Agree q := by
  cases p with
  | compare c o =>
      cases q with
      | compare d r => exact and_congr Iff.rfl Operand.agree_canonical
      | contains t => exact Iff.rfl
      | regex r => exact Iff.rfl
  | contains s => cases q <;> exact Iff.rfl
  | regex r => cases q <;> exact Iff.rfl

end ValuePredicate

------------------------------------------------------------
-- Patterns
------------------------------------------------------------

/- A property with canonical literals. -/
def Property.canonical : Property → Property
| .value p => .value p.canonical
| .has type resource predicate =>
    .has type resource (predicate.map ValuePredicate.canonical)
| p => p

/- A clause with canonical literals. -/
def Clause.canonical (c : Clause) : Clause where
  subject := c.subject
  properties := c.properties.map Property.canonical

/- A pattern with canonical literals. -/
def Pattern.canonical (p : Pattern) : Pattern where
  clauses := p.clauses.map Clause.canonical

end TraversalPlanner
