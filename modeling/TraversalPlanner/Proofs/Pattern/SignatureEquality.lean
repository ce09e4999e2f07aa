import Mathlib.Data.List.Forall2
import TraversalPlanner.Proofs.Pattern.SignatureReading

/-
  Which patterns share a signature: those with the same clauses,
  property by property and text by text, up to doubles that are
  written alike.

  Main declarations:
    * `ValuePredicate.Alike`, `Property.Alike`, `Clause.Alike`
    * `Pattern.Alike`
    * `Pattern.signature_eq_iff`
-/

namespace TraversalPlanner

------------------------------------------------------------
-- Patterns up to Doubles
------------------------------------------------------------

/-
  Two predicates are the same, or make the same comparison with
  doubles that are written alike.
-/
inductive ValuePredicate.Alike :
    ValuePredicate → ValuePredicate → Prop where
| same
    (p : ValuePredicate) :
    Alike p p
| double
    (c : Comparison)
    (x y : Binary64) :
    x.render .literal = y.render .literal →
    Alike (.compare c (.value (.double x)))
      (.compare c (.value (.double y)))

/- Two properties are the same, up to predicates that are alike. -/
inductive Property.Alike : Property → Property → Prop where
| same
    (p : Property) :
    Alike p p
| value
    {p q : ValuePredicate} :
    p.Alike q →
    Alike (.value p) (.value q)
| has
    (type : String)
    (resource : Option Var)
    {p q : ValuePredicate} :
    p.Alike q →
    Alike (.has type resource (some p)) (.has type resource (some q))

/- Two clauses on one variable have properties that are alike. -/
structure Clause.Alike (c d : Clause) : Prop where
  subject : c.subject = d.subject
  properties : List.Forall₂ Property.Alike c.properties d.properties

/- Two patterns have clauses that are alike, one by one. -/
def Pattern.Alike (p q : Pattern) : Prop :=
  List.Forall₂ Clause.Alike p.clauses q.clauses

------------------------------------------------------------
-- Patterns with the Same Canonical Literals
------------------------------------------------------------

/- Literals that are taken as one are doubles that are written alike. -/
theorem Value.eq_or_double_of_canonical_eq
    {v w : Value}
    (h : v.canonical = w.canonical) :
    v = w ∨
      ∃ x y, v = .double x ∧ w = .double y ∧
        x.render .literal = y.render .literal := by
  cases v with
  | double x =>
      cases w with
      | double y =>
          have hWord : x.canonical = y.canonical := Value.double.inj h
          refine Or.inr ⟨x, y, rfl, rfl, ?_⟩
          rw [← x.render_canonical, hWord, y.render_canonical]
      | _ => cases h
  | string s => cases w <;> first | exact Or.inl h | cases h
  | long n => cases w <;> first | exact Or.inl h | cases h
  | boolean b => cases w <;> first | exact Or.inl h | cases h

/- Predicates whose literals are taken as one are alike. -/
theorem ValuePredicate.alike_of_canonical_eq
    {p q : ValuePredicate}
    (h : p.canonical = q.canonical) :
    p.Alike q := by
  cases p with
  | compare c o =>
      cases q with
      | compare d r =>
          injection h with hComparison hOperand
          cases hComparison
          cases o with
          | value v =>
              cases r with
              | value w =>
                  rcases Value.eq_or_double_of_canonical_eq
                      (Operand.value.inj hOperand)
                    with rfl | ⟨x, y, rfl, rfl, hText⟩
                  · exact .same _
                  · exact .double c x y hText
              | var y => cases hOperand
          | var x =>
              cases r with
              | value w => cases hOperand
              | var y =>
                  cases hOperand
                  exact .same _
      | contains t => cases h
      | regex t => cases h
  | contains s =>
      cases q with
      | contains t =>
          cases h
          exact .same _
      | _ => cases h
  | regex s =>
      cases q with
      | regex t =>
          cases h
          exact .same _
      | _ => cases h

/- Properties whose literals are taken as one are alike. -/
theorem Property.alike_of_canonical_eq
    {p q : Property}
    (h : p.canonical = q.canonical) :
    p.Alike q := by
  cases p with
  | value p =>
      cases q with
      | value q =>
          exact .value
            (ValuePredicate.alike_of_canonical_eq (Property.value.inj h))
      | _ => cases h
  | has type resource predicate =>
      cases q with
      | has type' resource' predicate' =>
          injection h with hType hResource hPredicate
          cases hType
          cases hResource
          cases predicate with
          | none =>
              cases predicate' with
              | none => exact .same _
              | some q => cases hPredicate
          | some p =>
              cases predicate' with
              | none => cases hPredicate
              | some q =>
                  exact .has type resource
                    (ValuePredicate.alike_of_canonical_eq
                      (Option.some.inj hPredicate))
      | _ => cases h
  | _ =>
      cases q <;> first
        | cases h; exact .same _
        | cases h

/- Lists have the same images exactly if their elements have, one by one. -/
theorem map_eq_map_iff_forall₂
    {A B : Type}
    {f : A → B}
    {as bs : List A} :
    as.map f = bs.map f ↔
      List.Forall₂ (fun a b => f a = f b) as bs := by
  rw [← List.forall₂_eq_eq_eq, List.forall₂_map_left_iff,
    List.forall₂_map_right_iff]

/- Clauses whose literals are taken as one are alike. -/
theorem Clause.alike_of_canonical_eq
    {c d : Clause}
    (h : c.canonical = d.canonical) :
    c.Alike d where
  subject := (Clause.mk.inj h).1
  properties :=
    (map_eq_map_iff_forall₂.mp (Clause.mk.inj h).2).imp
      fun _ _ => Property.alike_of_canonical_eq

------------------------------------------------------------
-- Signatures
------------------------------------------------------------

/- Predicates that are alike have the same signature. -/
theorem ValuePredicate.Alike.signature_eq
    {p q : ValuePredicate}
    (h : p.Alike q) :
    p.signature = q.signature := by
  cases h with
  | same => rfl
  | double c x y hText =>
      have hValue :
          (Value.double x).signature = (Value.double y).signature :=
        congrArg (Signature.tagged "Double") hText
      simp only [signature, Operand.signature, hValue]

/- Properties that are alike have the same signature. -/
theorem Property.Alike.signature_eq
    {p q : Property}
    (h : p.Alike q) :
    p.signature = q.signature := by
  cases h with
  | same => rfl
  | value hPredicate => simp only [signature, hPredicate.signature_eq]
  | has type resource hPredicate =>
      simp only [signature, Option.map_some, hPredicate.signature_eq]

/- Clauses that are alike have the same signature. -/
theorem Clause.Alike.signature_eq
    {c d : Clause}
    (h : c.Alike d) :
    c.signature = d.signature := by
  have hProperties :
      c.properties.map Property.signature =
        d.properties.map Property.signature :=
    map_eq_map_iff_forall₂.mpr
      (h.properties.imp fun _ _ hProperty => hProperty.signature_eq)
  unfold signature
  rw [h.subject, hProperties]

/-
  Two patterns have the same signature exactly if they have the
  same clauses with the same properties, up to doubles that are
  written alike.
-/
theorem Pattern.signature_eq_iff (p q : Pattern) :
    p.signature = q.signature ↔ p.Alike q := by
  constructor
  · intro h
    have hCanonical := Pattern.mk.inj (canonical_eq_of_signature_eq h)
    exact (map_eq_map_iff_forall₂.mp hCanonical).imp
      fun _ _ => Clause.alike_of_canonical_eq
  · intro h
    have hClauses :
        p.clauses.map Clause.signature =
          q.clauses.map Clause.signature :=
      map_eq_map_iff_forall₂.mpr
        (h.imp fun _ _ hClause => hClause.signature_eq)
    unfold signature
    rw [hClauses]

/- A quote inside a text does not pass for the end of a property. -/
example :
    (Pattern.mk [⟨⟨"x"⟩, [.label "a\"), Label(\"b"]⟩]).signature ≠
      (Pattern.mk [⟨⟨"x"⟩, [.label "a", .label "b"]⟩]).signature := by
  decide +kernel

end TraversalPlanner
