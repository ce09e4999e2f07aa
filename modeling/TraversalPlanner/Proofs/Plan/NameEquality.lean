import TraversalPlanner.Proofs.Pattern.SignatureEquality
import TraversalPlanner.Proofs.Plan.FragmentNames

/-
  Which kinds of fragments share a name: those that are equal, or
  compare in one way with doubles that are written alike.  So the
  text of a predicate shows its operator, and whether it compares
  with a variable or with a literal of some type.

  Main declarations:
    * `FragmentKind.Alike`
    * `ValuePredicate.render_eq_iff`
    * `ValuePredicate.operator`, `ValuePredicate.operandForm?`
    * `FragmentKind.name_eq_iff`
    * `FragmentKind.name_identifies`
-/

namespace TraversalPlanner

------------------------------------------------------------
-- Predicates
------------------------------------------------------------

/- What a predicate asks for, apart from what it compares with. -/
inductive Operator where
| compare : Comparison → Operator
| contains : Operator
| regex : Operator
deriving DecidableEq, Repr

/- What an operand is: a certain variable, or a literal of a type. -/
inductive OperandForm where
| var : Var → OperandForm
| literal : DataType → OperandForm
deriving DecidableEq, Repr

/- The form of an operand. -/
def Operand.form : Operand → OperandForm
| .var x => .var x
| .value v => .literal v.dataType

namespace ValuePredicate

/- The operator of a predicate. -/
def operator : ValuePredicate → Operator
| .compare c _ => .compare c
| .contains _ => .contains
| .regex _ => .regex

/- The form of what a predicate compares with, if it compares. -/
def operandForm? : ValuePredicate → Option OperandForm
| .compare _ o => some o.form
| .contains _ => none
| .regex _ => none

/- Predicates that are alike are written alike. -/
theorem Alike.render_eq
    {p q : ValuePredicate}
    (h : p.Alike q) :
    p.render = q.render := by
  cases h with
  | same => rfl
  | double c x y hText =>
      have hValue : (Value.double x).render = (Value.double y).render :=
        hText
      cases c <;> simp only [render, Operand.render, hValue]

/- Predicates are written alike exactly if they are alike. -/
theorem render_eq_iff
    {p q : ValuePredicate} :
    p.render = q.render ↔ p.Alike q :=
  ⟨fun h => alike_of_canonical_eq (canonical_eq_of_render_eq h),
    Alike.render_eq⟩

/- Predicates that are alike have the same operator. -/
theorem Alike.operator_eq
    {p q : ValuePredicate}
    (h : p.Alike q) :
    p.operator = q.operator := by
  cases h <;> rfl

/- Predicates that are alike compare with operands of one form. -/
theorem Alike.operandForm?_eq
    {p q : ValuePredicate}
    (h : p.Alike q) :
    p.operandForm? = q.operandForm? := by
  cases h <;> rfl

/- A comparison with an integer is like itself only. -/
theorem Alike.eq_of_long
    {c : Comparison}
    {n : Int64}
    {q : ValuePredicate}
    (h : (compare c (.value (.long n))).Alike q) :
    q = compare c (.value (.long n)) := by
  cases h
  rfl

end ValuePredicate

------------------------------------------------------------
-- Kinds
------------------------------------------------------------

/-
  Filters whose literals are taken as one are equal, or ask for
  values by predicates that are alike.
-/
theorem Filter.eq_or_value_of_canonical_eq
    {f g : Filter}
    (h : f.canonical = g.canonical) :
    f = g ∨ ∃ p q, f = .value p ∧ g = .value q ∧ p.Alike q := by
  cases f with
  | value p =>
      cases g with
      | value q =>
          have hPredicate := ValuePredicate.alike_of_canonical_eq
            (Filter.value.inj h)
          exact Or.inr ⟨p, q, rfl, rfl, hPredicate⟩
      | _ => cases h
  | _ =>
      cases g with
      | value q => cases h
      | _ => exact Or.inl h

namespace FragmentKind

/- Two kinds are the same, or ask for values by predicates that are alike. -/
inductive Alike : FragmentKind → FragmentKind → Prop where
| same
    (k : FragmentKind) :
    Alike k k
| value
    {p q : ValuePredicate} :
    p.Alike q →
    Alike (.filter (.value p)) (.filter (.value q))

/- Equal kinds are alike. -/
theorem Alike.of_eq
    {k l : FragmentKind}
    (h : k = l) :
    k.Alike l := by
  subst h
  exact .same k

/- Kinds whose literals are taken as one are alike. -/
theorem alike_of_canonical_eq
    {k l : FragmentKind}
    (h : k.canonical = l.canonical) :
    k.Alike l := by
  cases k with
  | filter f =>
      cases l with
      | filter g =>
          have hFilter : f.canonical = g.canonical :=
            FragmentKind.filter.inj h
          rcases Filter.eq_or_value_of_canonical_eq hFilter
            with rfl | ⟨p, q, rfl, rfl, hPredicate⟩
          · exact .same _
          · exact .value hPredicate
      | _ => cases h
  | _ =>
      cases l with
      | filter g => cases h
      | _ => exact .of_eq h

/- Kinds that are alike have the same name. -/
theorem Alike.name_eq
    {k l : FragmentKind}
    (h : k.Alike l) :
    k.name = l.name := by
  cases h with
  | same => rfl
  | value hPredicate => simp only [name, Filter.name, hPredicate.render_eq]

/- Kinds have the same name exactly if they are alike. -/
theorem name_eq_iff
    {k l : FragmentKind} :
    k.name = l.name ↔ k.Alike l :=
  ⟨fun h => alike_of_canonical_eq (canonical_eq_of_name_eq h),
    Alike.name_eq⟩

/-
  The name of a kind identifies it, up to doubles that are written
  alike.  The text of a predicate identifies it in the same way,
  so it shows the operator, the variable or the type of the
  literal, and nothing else is written as a comparison with an
  integer is.
-/
theorem name_identifies :
    (∀ k l : FragmentKind, k.name = l.name ↔ k.Alike l) ∧
    (∀ p q : ValuePredicate, p.render = q.render ↔ p.Alike q) ∧
    (∀ p q : ValuePredicate, p.render = q.render →
      p.operator = q.operator ∧ p.operandForm? = q.operandForm?) ∧
    ∀ (c : Comparison) (n : Int64) (q : ValuePredicate),
      (ValuePredicate.compare c (.value (.long n))).render = q.render →
        q = .compare c (.value (.long n)) := by
  refine ⟨fun k l => name_eq_iff, fun p q => ValuePredicate.render_eq_iff,
    ?_, ?_⟩
  · intro p q h
    have hAlike := ValuePredicate.render_eq_iff.mp h
    exact ⟨hAlike.operator_eq, hAlike.operandForm?_eq⟩
  · intro c n q h
    exact (ValuePredicate.render_eq_iff.mp h).eq_of_long

/-
  The sign of a literal for no number is not written, so two kinds
  have one name.  An integer is not written as the double of the
  same value.
-/
theorem name_identifies_unsignedNaNs :
    let above := fun x => ValuePredicate.compare .gt (.value (.double x))
    let noNumber := above (.nan false)
    let negated := above (.nan true)
    let three := ValuePredicate.compare .eq (.value (.long 3))
    let threeDouble := ValuePredicate.compare .eq (.value (.double 3))
    noNumber ≠ negated ∧
      noNumber.render = negated.render ∧
      noNumber.operandForm? = negated.operandForm? ∧
      (filter (.value noNumber)).name = (filter (.value negated)).name ∧
      three.render ≠ threeDouble.render := by
  intro above noNumber negated three threeDouble
  have hText : noNumber.render = negated.render := by decide +kernel
  have hAlike : noNumber.Alike negated :=
    (name_identifies.2.1 noNumber negated).mp hText
  refine ⟨by decide +kernel, hText,
    (name_identifies.2.2.1 noNumber negated hText).2,
    (name_identifies.1 _ _).mpr (.value hAlike), ?_⟩
  intro hThree
  have hSame : threeDouble = three :=
    name_identifies.2.2.2 .eq 3 threeDouble hThree
  exact absurd hSame (by decide)

end FragmentKind

end TraversalPlanner
