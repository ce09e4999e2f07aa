import TraversalPlanner.Plan.FragmentSet

/-
  Fragments and sets of fragments that are duplicates form
  classes, except that a literal for no number makes a fragment
  no duplicate of anything, not even of itself.

  Main declarations:
    * `IsAgreement`
    * `IsAgreement.lift`, `IsAgreement.covers`
    * `ValuePredicate.hasNaN`, `Fragment.hasNaN`, `FragmentSet.hasNaN`
    * `Fragment.isAgreement_duplicates`
    * `FragmentSet.isAgreement_duplicates`
-/

namespace TraversalPlanner

------------------------------------------------------------
-- Agreement
------------------------------------------------------------

/-
  A relation that is an equivalence, except that some things do
  not agree with themselves.
-/
structure IsAgreement
    {α : Type}
    (R : α → α → Prop)
    (Valid : α → Prop) : Prop where
  symm : ∀ {a b}, R a b → R b a
  trans : ∀ {a b c}, R a b → R b c → R a c
  self_iff : ∀ a, R a a ↔ Valid a

namespace IsAgreement

variable
  {ι α β : Type}
  {R : β → β → Prop}
  {S : α → α → Prop}
  {Valid : β → Prop}
  {Whole : α → Prop}

/-
  If things that are made of parts agree as their parts do, and
  all others as they are equal, then they agree if their parts
  do.
-/
theorem lift
    (h : IsAgreement R Valid)
    (make : ι → β → α)
    (hMake : ∀ {i j b c}, make i b = make j c → i = j ∧ b = c)
    (hAgree : ∀ {a a'}, S a a' ↔
      (∃ i b c, a = make i b ∧ a' = make i c ∧ R b c) ∨
        a = a' ∧ ∀ i b, a ≠ make i b)
    (hWhole : ∀ {a}, Whole a ↔ ∀ i b, a = make i b → Valid b) :
    IsAgreement S Whole where
  symm := by
    intro a a' hS
    rcases hAgree.mp hS with ⟨i, b, c, rfl, rfl, hR⟩ | ⟨rfl, hOther⟩
    · exact hAgree.mpr (Or.inl ⟨i, c, b, rfl, rfl, h.symm hR⟩)
    · exact hS
  trans := by
    intro a a' a'' hS hS'
    rcases hAgree.mp hS with ⟨i, b, c, rfl, rfl, hR⟩ | ⟨rfl, _⟩
    · rcases hAgree.mp hS'
        with ⟨j, c', d, hEq, rfl, hR'⟩ | ⟨_, hOther⟩
      · rcases hMake hEq with ⟨rfl, rfl⟩
        exact hAgree.mpr (Or.inl ⟨i, b, d, rfl, rfl, h.trans hR hR'⟩)
      · exact absurd rfl (hOther i c)
    · exact hS'
  self_iff := by
    intro a
    rw [hWhole]
    constructor
    · rintro hS j c rfl
      rcases hAgree.mp hS with ⟨i, b, b', hb, hb', hR⟩ | ⟨_, hOther⟩
      · rcases hMake hb with ⟨rfl, rfl⟩
        rcases hMake hb' with ⟨_, rfl⟩
        exact (h.self_iff c).mp hR
      · exact absurd rfl (hOther j c)
    · intro hValid
      by_cases hMade : ∃ i b, a = make i b
      · rcases hMade with ⟨i, b, rfl⟩
        exact hAgree.mpr (Or.inl
          ⟨i, b, b, rfl, rfl, (h.self_iff b).mpr (hValid i b rfl)⟩)
      · exact hAgree.mpr (Or.inr
          ⟨rfl, fun i b hEq => hMade ⟨i, b, hEq⟩⟩)

/- Lists agree if each has what agrees with any part of the other. -/
theorem covers (h : IsAgreement R Valid) :
    IsAgreement
      (fun bs cs : List β =>
        (∀ b ∈ bs, ∃ c ∈ cs, R b c) ∧ ∀ c ∈ cs, ∃ b ∈ bs, R c b)
      fun bs => ∀ b ∈ bs, Valid b where
  symm := And.symm
  trans := by
    rintro bs cs ds ⟨hbc, hcb⟩ ⟨hcd, hdc⟩
    constructor
    · intro b hb
      rcases hbc b hb with ⟨c, hc, hR⟩
      rcases hcd c hc with ⟨d, hd, hR'⟩
      exact ⟨d, hd, h.trans hR hR'⟩
    · intro d hd
      rcases hdc d hd with ⟨c, hc, hR⟩
      rcases hcb c hc with ⟨b, hb, hR'⟩
      exact ⟨b, hb, h.trans hR hR'⟩
  self_iff := by
    intro bs
    constructor
    · rintro ⟨hEach, _⟩ b hb
      rcases hEach b hb with ⟨c, _, hR⟩
      exact (h.self_iff b).mp (h.trans hR (h.symm hR))
    · intro hValid
      have hEach : ∀ b ∈ bs, ∃ c ∈ bs, R b c :=
        fun b hb => ⟨b, hb, (h.self_iff b).mpr (hValid b hb)⟩
      exact ⟨hEach, hEach⟩

end IsAgreement

------------------------------------------------------------
-- Literals for No Number
------------------------------------------------------------

/- A word stands for the same number as itself if it stands for one. -/
theorem Binary64.isAgreement_agree :
    IsAgreement Binary64.Agree fun x => x.isNaN = false where
  symm := Agree.symm
  trans := Agree.trans
  self_iff := fun _ => ⟨And.left, fun h => ⟨h, h, Or.inl rfl⟩⟩

namespace ValuePredicate

/- A comparison with a floating-point literal. -/
def comparing
    (c : Comparison)
    (x : Binary64) : ValuePredicate :=
  .compare c (.value (.double x))

/- A predicate compares with a literal for no number. -/
def hasNaN : ValuePredicate → Bool
| .compare _ (.value (.double x)) => x.isNaN
| _ => false

/- Predicates agree if their literals do, or if they are equal. -/
theorem agree_iff
    {p q : ValuePredicate} :
    p.Agree q ↔
      (∃ c x y, p = comparing c x ∧ q = comparing c y ∧ x.Agree y) ∨
        p = q ∧ ∀ c x, p ≠ comparing c x := by
  cases p with
  | compare c o =>
      cases q with
      | compare d r =>
          cases o with
          | value v =>
              cases r with
              | value w =>
                  cases v <;> cases w <;>
                    simp [Agree, Operand.Agree, Value.Agree, comparing,
                      and_assoc, eq_comm]
              | var y => simp [Agree, Operand.Agree, comparing]
          | var x =>
              cases r <;> simp [Agree, Operand.Agree, comparing]
      | contains t => simp [Agree, comparing]
      | regex t => simp [Agree, comparing]
  | contains s => cases q <;> simp [Agree, comparing]
  | regex s => cases q <;> simp [Agree, comparing]

/- A predicate agrees with itself unless its literal is no number. -/
theorem isAgreement_agree :
    IsAgreement ValuePredicate.Agree fun p => p.hasNaN = false := by
  refine Binary64.isAgreement_agree.lift comparing ?_ agree_iff ?_
  · intro c d x y h
    cases h
    exact ⟨rfl, rfl⟩
  · intro p
    unfold hasNaN
    split
    · rename_i c x
      constructor
      · rintro hx _ _ ⟨⟩
        exact hx
      · intro h
        exact h c x rfl
    · rename_i hOther
      refine iff_of_true rfl ?_
      rintro c x rfl
      exact absurd rfl (hOther c x)

end ValuePredicate

namespace Filter

/- A filter compares with a literal for no number. -/
def hasNaN : Filter → Bool
| .value p => p.hasNaN
| _ => false

/- A filter agrees with itself unless its literal is no number. -/
theorem isAgreement_agree :
    IsAgreement Filter.Agree fun f => f.hasNaN = false := by
  refine ValuePredicate.isAgreement_agree.lift
    (fun _ : Unit => Filter.value) ?_ ?_ ?_
  · rintro _ _ p q ⟨⟩
    exact ⟨rfl, rfl⟩
  · intro f g
    cases f <;> cases g <;> simp [Agree]
  · intro f
    cases f <;> simp [hasNaN]

end Filter

namespace FragmentKind

/- A kind compares with a literal for no number. -/
def hasNaN : FragmentKind → Bool
| .filter f => f.hasNaN
| _ => false

/- A kind agrees with itself unless its literal is no number. -/
theorem isAgreement_agree :
    IsAgreement FragmentKind.Agree fun k => k.hasNaN = false := by
  refine Filter.isAgreement_agree.lift
    (fun _ : Unit => FragmentKind.filter) ?_ ?_ ?_
  · rintro _ _ f g ⟨⟩
    exact ⟨rfl, rfl⟩
  · intro k l
    cases k <;> cases l <;> simp [Agree]
  · intro k
    cases k <;> simp [hasNaN]

end FragmentKind

------------------------------------------------------------
-- Duplicates
------------------------------------------------------------

namespace Fragment

/- A fragment compares with a literal for no number. -/
def hasNaN (f : Fragment) : Bool :=
  f.kind.hasNaN

/- A fragment is its own duplicate unless its literal is no number. -/
theorem isAgreement_duplicates :
    IsAgreement Fragment.Duplicates fun f => f.hasNaN = false where
  symm := by
    rintro f g ⟨hSimilar, hKind⟩
    exact ⟨hSimilar.symm, FragmentKind.isAgreement_agree.symm hKind⟩
  trans := by
    rintro f g e ⟨hSimilar, hKind⟩ ⟨hSimilar', hKind'⟩
    exact ⟨hSimilar.trans hSimilar',
      FragmentKind.isAgreement_agree.trans hKind hKind'⟩
  self_iff := by
    intro f
    rw [Duplicates, and_iff_right (Similar.refl f)]
    exact FragmentKind.isAgreement_agree.self_iff f.kind

end Fragment

namespace FragmentSet

/- A set has a fragment that compares with a literal for no number. -/
def hasNaN (s : FragmentSet) : Bool :=
  s.fragments.any Fragment.hasNaN

/- A set is its own duplicate unless some literal is no number. -/
theorem isAgreement_duplicates :
    IsAgreement FragmentSet.Duplicates fun s => s.hasNaN = false where
  symm := Fragment.isAgreement_duplicates.covers.symm
  trans := Fragment.isAgreement_duplicates.covers.trans
  self_iff := by
    intro s
    have hEach :
        s.Duplicates s ↔ ∀ f ∈ s.fragments, f.hasNaN = false :=
      Fragment.isAgreement_duplicates.covers.self_iff s.fragments
    rw [hEach]
    simp [hasNaN]

end FragmentSet

end TraversalPlanner
