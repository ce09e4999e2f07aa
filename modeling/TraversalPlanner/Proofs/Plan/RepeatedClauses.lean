import TraversalPlanner.Plan.Greedy
import TraversalPlanner.Proofs.Plan.Agreement
import TraversalPlanner.Proofs.Plan.LoweredVariables
import TraversalPlanner.Proofs.Plan.Registration

/-
  What repetitions change in a plan.  An arena keeps the first set
  of each class of duplicates, in order, so repeated sets change
  nothing.  A repeated clause is lowered to repeated sets, unless
  it leaves a resource unnamed or compares with a literal for no
  number.

  Main declarations:
    * `Arena.build_sublist`
    * `Arena.exists_first_duplicate`
    * `Arena.build_append_of_duplicates`
    * `Pattern.States`
    * `Lowering.exists_duplicate_of_states`
    * `Optimizer.optimize_repeats`
-/

namespace TraversalPlanner

------------------------------------------------------------
-- First Duplicates
------------------------------------------------------------

namespace Arena

/- Sets are registered in order. -/
theorem foldl_register_sublist
    {sets : List FragmentSet} :
    ∀ {known : List FragmentSet},
      (sets.foldl register known).Sublist (known ++ sets) := by
  induction sets with
  | nil =>
      intro known
      rw [List.append_nil]
      exact .refl known
  | cons s sets ih =>
      intro known
      rw [List.foldl_cons]
      by_cases hDup : ∃ k ∈ known, k.Duplicates s
      · rw [register_of_duplicate hDup]
        exact ih.trans ((List.sublist_cons_self s sets).append_left known)
      · rw [register_of_new hDup]
        have hOrder := @ih (known ++ [s])
        rw [List.append_assoc] at hOrder
        exact hOrder

/- The sets of an arena are some of those it was built from, in order. -/
theorem build_sublist (sets : List FragmentSet) :
    (build sets).sets.Sublist sets :=
  foldl_register_sublist

/- The first duplicate of a set is the first one of an arena. -/
theorem find?_build
    (sets : List FragmentSet)
    (s : FragmentSet) :
    (build sets).sets.find? (fun t => decide (t.Duplicates s)) =
      sets.find? fun t => decide (t.Duplicates s) := by
  rw [List.find?_eq_findSome?_guard, List.find?_eq_findSome?_guard]
  refine findSome?_foldl_register (fun _ => True) ?_
    (fun _ _ => trivial) (fun _ _ => trivial)
  intro k t _ _ hkt hts
  have hDup : t.Duplicates s := by simpa using hts
  have hFirst := FragmentSet.isAgreement_duplicates.trans hkt hDup
  simpa using hFirst

/- Only one set of an arena is a duplicate of another set. -/
theorem filter_build_of_find?
    {sets : List FragmentSet}
    {s k : FragmentSet}
    (h :
      (build sets).sets.find? (fun t => decide (t.Duplicates s)) =
        some k) :
    (build sets).sets.filter (fun t => decide (t.Duplicates s)) =
      [k] := by
  rcases List.find?_eq_some_iff_append.mp h
    with ⟨hk, before, later, hSets, hBefore⟩
  have hPairwise := pairwise_build sets
  rw [hSets, List.pairwise_append] at hPairwise
  have hLater := (List.pairwise_cons.mp hPairwise.2.1).1
  rw [hSets, List.filter_append, List.filter_cons, if_pos hk]
  have hNoneBefore :
      before.filter (fun t => decide (t.Duplicates s)) = [] := by
    apply List.filter_eq_nil_iff.mpr
    intro t ht
    simpa using hBefore t ht
  have hNoneLater :
      later.filter (fun t => decide (t.Duplicates s)) = [] := by
    apply List.filter_eq_nil_iff.mpr
    intro t ht hDup
    -- it would be a duplicate of the first one as well
    have hkt := FragmentSet.isAgreement_duplicates.trans
      (of_decide_eq_true hk)
      (FragmentSet.isAgreement_duplicates.symm (of_decide_eq_true hDup))
    exact hLater t ht hkt
  rw [hNoneBefore, hNoneLater, List.nil_append]

/-
  A set has exactly one duplicate in an arena, which is its first
  one among the sets that the arena was built from.
-/
theorem exists_first_duplicate
    {sets : List FragmentSet}
    {s : FragmentSet}
    (hs : s ∈ sets)
    (hNumbers : s.hasNaN = false) :
    ∃ k,
      sets.find? (fun t => decide (t.Duplicates s)) = some k ∧
        (build sets).sets.filter (fun t => decide (t.Duplicates s)) =
          [k] := by
  have hSelf := (FragmentSet.isAgreement_duplicates.self_iff s).mpr hNumbers
  have hSome :
      (sets.find? fun t => decide (t.Duplicates s)).isSome = true :=
    List.find?_isSome.mpr ⟨s, hs, decide_eq_true hSelf⟩
  rcases Option.isSome_iff_exists.mp hSome with ⟨k, hk⟩
  refine ⟨k, hk, filter_build_of_find? ?_⟩
  rw [find?_build, hk]

------------------------------------------------------------
-- Repeated Sets
------------------------------------------------------------

/- Duplicates of registered sets are not registered. -/
theorem foldl_register_of_duplicates
    {known sets : List FragmentSet}
    (h : ∀ s ∈ sets, ∃ k ∈ known, k.Duplicates s) :
    sets.foldl register known = known := by
  induction sets with
  | nil => rfl
  | cons s sets ih =>
      rw [List.foldl_cons,
        register_of_duplicate (h s List.mem_cons_self)]
      exact ih fun t ht => h t (List.mem_cons_of_mem s ht)

/- Duplicates behind the sets of an arena do not change it. -/
theorem build_append_of_duplicates
    {sets others : List FragmentSet}
    (h : ∀ s ∈ others, ∃ t ∈ sets, t.Duplicates s) :
    build (sets ++ others) = build sets := by
  unfold build
  rw [List.foldl_append, foldl_register_of_duplicates]
  intro s hs
  rcases h s hs with ⟨t, ht, hts⟩
  rcases mem_build_or_duplicate ht with hKept | ⟨k, hk, hkt⟩
  · exact ⟨t, hKept, hts⟩
  · exact ⟨k, hk, FragmentSet.isAgreement_duplicates.trans hkt hts⟩

end Arena

namespace Optimizer

/- Duplicates behind the sets of a plan do not change it. -/
theorem optimize_append
    {sets others : List FragmentSet}
    (h : ∀ s ∈ others, ∃ t ∈ sets, t.Duplicates s)
    (o : Optimizer)
    (startVars : VarSet) :
    o.optimize (sets ++ others) startVars = o.optimize sets startVars := by
  have hEmpty : (sets ++ others).isEmpty = sets.isEmpty := by
    cases sets with
    | nil =>
        cases others with
        | nil => rfl
        | cons s others =>
            rcases h s List.mem_cons_self with ⟨_, ht, _⟩
            cases ht
    | cons s sets => rfl
  unfold optimize
  rw [hEmpty, Arena.build_append_of_duplicates h]

end Optimizer

------------------------------------------------------------
-- Repeated Properties
------------------------------------------------------------

namespace Property

/- A property compares with a literal for no number. -/
def hasNaN : Property → Bool
| .value p => p.hasNaN
| .has _ _ (some p) => p.hasNaN
| _ => false

/- A property agrees with itself unless its literal is no number. -/
theorem agree_self
    {q : Property}
    (h : q.hasNaN = false) :
    q.Agree q := by
  cases q with
  | value p => exact (ValuePredicate.isAgreement_agree.self_iff p).mpr h
  | has type resource predicate =>
      refine ⟨rfl, rfl, ?_⟩
      cases predicate with
      | none => trivial
      | some p => exact (ValuePredicate.isAgreement_agree.self_iff p).mpr h
  | _ => rfl

/-
  Properties that agree are equal up to a predicate on a value,
  and compare with a number.
-/
theorem Agree.cases
    {q r : Property}
    (h : r.Agree q) :
    (∃ p p', r = .value p ∧ q = .value p' ∧ p.Agree p') ∨
      (∃ type resource p p', r = .has type resource p ∧
        q = .has type resource p' ∧ PredicateAgree p p') ∨
      r = q ∧ q.hasNaN = false := by
  unfold Agree at h
  split at h
  · rename_i p p'
    exact Or.inl ⟨p, p', rfl, rfl, h⟩
  · rename_i type resource p _ _ p'
    rcases h with ⟨rfl, rfl, hPredicates⟩
    exact Or.inr (Or.inl
      ⟨type, resource, p, p', rfl, rfl, hPredicates⟩)
  · exact h.elim
  · exact h.elim
  · rename_i hValue hHas _ _
    subst h
    refine Or.inr (Or.inr ⟨rfl, ?_⟩)
    unfold hasNaN
    split
    · exact absurd rfl (hValue _ _ rfl)
    · exact absurd rfl (hHas _ _ _ _ _ _ rfl)
    · rfl

/- Properties that agree leave the same resources unnamed. -/
theorem Agree.leavesUnnamed_eq
    {q r : Property}
    (h : r.Agree q) :
    r.leavesUnnamed = q.leavesUnnamed := by
  rcases h.cases with
    ⟨_, _, rfl, rfl, _⟩ | ⟨_, resource, _, _, rfl, rfl, _⟩ | ⟨rfl, _⟩
  · rfl
  · cases resource <;> rfl
  · rfl

end Property

namespace Lowering

/- The set of a filter compares with the literal of the filter. -/
theorem hasNaN_filtered
    (f : Filter)
    (x : Var) :
    (filtered f x).hasNaN = f.hasNaN :=
  Bool.or_false f.hasNaN

/- The sets of a property compare with the literals that it has. -/
theorem any_hasNaN_ofProperty
    (n : Nat)
    (x : Var)
    (q : Property) :
    (ofProperty n x q).any FragmentSet.hasNaN = q.hasNaN := by
  cases q with
  | isa t => cases t <;> rfl
  | sub t => cases t <;> rfl
  | relates t => cases t <;> rfl
  | plays t => cases t <;> rfl
  | value p =>
      rw [ofProperty, List.any_cons, hasNaN_filtered]
      exact Bool.or_false p.hasNaN
  | has type resource predicate =>
      cases predicate with
      | none => rfl
      | some p =>
          rw [ofProperty, List.any_cons, Option.map_some,
            Option.toList_some, List.any_cons, hasNaN_filtered]
          exact Bool.or_false p.hasNaN
  | rolePlayer p =>
      rcases p with ⟨role, player⟩
      cases role with
      | none => rfl
      | some t => cases t <;> rfl
  | _ => rfl

/- The sets of a property without unnamed resources are the same. -/
theorem ofProperty_of_named
    {q : Property}
    (h : q.leavesUnnamed = false)
    (m n : Nat)
    (x : Var) :
    ofProperty m x q = ofProperty n x q := by
  cases q with
  | has type resource predicate =>
      cases resource with
      | none => cases h
      | some y => rfl
  | _ => rfl

/- A filter and one that agrees with it are duplicates. -/
theorem duplicates_filtered
    {p p' : ValuePredicate}
    (h : p.Agree p')
    (x : Var) :
    (filtered (.value p) x).Duplicates (filtered (.value p') x) := by
  have hDup : (Fragment.filter (.value p) x).Duplicates
      (.filter (.value p') x) :=
    ⟨⟨rfl, rfl, rfl⟩, h⟩
  have hDup' := Fragment.isAgreement_duplicates.symm hDup
  simpa [FragmentSet.Duplicates, filtered, FragmentSet.single,
    FragmentSet.fragments] using ⟨hDup, hDup'⟩

/- Properties that agree are lowered to duplicates. -/
theorem exists_duplicate_ofProperty
    {n : Nat}
    {x : Var}
    {q r : Property}
    {s : FragmentSet}
    (h : r.Agree q)
    (hs : s ∈ ofProperty n x q) :
    ∃ t ∈ ofProperty n x r, t.Duplicates s := by
  rcases h.cases with
    ⟨p, p', rfl, rfl, hPredicates⟩ |
      ⟨type, resource, p, p', rfl, rfl, hPredicates⟩ | ⟨rfl, hNumbers⟩
  · rw [List.mem_singleton.mp hs]
    exact ⟨_, List.mem_cons_self, duplicates_filtered hPredicates x⟩
  · rcases List.mem_cons.mp hs with rfl | hs
    · refine ⟨_, List.mem_cons_self, ?_⟩
      exact (FragmentSet.isAgreement_duplicates.self_iff _).mpr rfl
    · cases p' with
      | none => cases hs
      | some p' =>
          cases p with
          | none => exact hPredicates.elim
          | some p =>
              rw [List.mem_singleton.mp hs]
              exact ⟨_, List.mem_cons_of_mem _ List.mem_cons_self,
                duplicates_filtered hPredicates _⟩
  · refine ⟨s, hs, (FragmentSet.isAgreement_duplicates.self_iff s).mpr ?_⟩
    rw [← any_hasNaN_ofProperty n x, List.any_eq_false] at hNumbers
    simpa using hNumbers s hs

end Lowering

------------------------------------------------------------
-- Repeated Clauses
------------------------------------------------------------

namespace Clause

/- A clause compares with a literal for no number. -/
def hasNaN (c : Clause) : Bool :=
  c.properties.any Property.hasNaN

/- A clause leaves a resource unnamed. -/
def leavesUnnamed (c : Clause) : Bool :=
  c.properties.any Property.leavesUnnamed

/- A clause agrees with itself unless a literal is no number. -/
theorem agree_self
    {c : Clause}
    (h : c.hasNaN = false) :
    c.Agree c := by
  refine ⟨rfl, ?_⟩
  have hEach : ∀ qs : List Property,
      (∀ q ∈ qs, q.hasNaN = false) → PropertiesAgree qs qs := by
    intro qs
    induction qs with
    | nil => exact fun _ => trivial
    | cons q qs ih =>
        intro hqs
        exact ⟨Property.agree_self (hqs q List.mem_cons_self),
          ih fun r hr => hqs r (List.mem_cons_of_mem q hr)⟩
  apply hEach
  simpa [hasNaN] using h

/- Each property agrees with one of a clause that agrees. -/
theorem Agree.exists_property
    {c d : Clause}
    (h : d.Agree c) :
    ∀ q ∈ c.properties, ∃ r ∈ d.properties, r.Agree q := by
  have hEach : ∀ rs qs : List Property, PropertiesAgree rs qs →
      ∀ q ∈ qs, ∃ r ∈ rs, r.Agree q := by
    intro rs
    induction rs with
    | nil =>
        intro qs hAgree q hq
        cases qs with
        | nil => cases hq
        | cons q' qs => exact hAgree.elim
    | cons r rs ih =>
        intro qs hAgree q hq
        cases qs with
        | nil => cases hq
        | cons q' qs =>
            rcases List.mem_cons.mp hq with rfl | hq
            · exact ⟨r, List.mem_cons_self, hAgree.1⟩
            · rcases ih qs hAgree.2 q hq with ⟨r', hr', hr'q⟩
              exact ⟨r', List.mem_cons_of_mem r hr', hr'q⟩
  exact hEach _ _ h.2

end Clause

namespace Pattern

/- A clause of the pattern is equal up to literals for one number. -/
def States
    (p : Pattern)
    (c : Clause) : Prop :=
  ∃ d ∈ p.clauses, d.Agree c

/- A pattern states its clauses, but for literals for no number. -/
theorem states_of_mem
    {p : Pattern}
    {c : Clause}
    (hc : c ∈ p.clauses)
    (hNumbers : c.hasNaN = false) :
    p.States c :=
  ⟨c, hc, Clause.agree_self hNumbers⟩

end Pattern

namespace Lowering

/- Clauses are lowered one after the other. -/
theorem ofClauses_append
    (n : Nat)
    (cs ds : List Clause) :
    ∃ m, ofClauses n (cs ++ ds) = ofClauses n cs ++ ofClauses m ds := by
  simp only [ofClauses_eq, List.flatMap_append, ofStatements_append]
  exact ⟨_, rfl⟩

/- A property without unnamed resources is lowered with its pattern. -/
theorem mem_lower_of_named
    {p : Pattern}
    {d : Clause}
    {r : Property}
    {n : Nat}
    {s : FragmentSet}
    (hd : d ∈ p.clauses)
    (hr : r ∈ d.properties)
    (hNamed : r.leavesUnnamed = false)
    (hs : s ∈ ofProperty n d.subject r) :
    s ∈ p.lower := by
  have hStatement : Statement.mk d.subject r ∈ p.statements :=
    List.mem_flatMap.mpr ⟨d, hd, List.mem_map_of_mem hr⟩
  rcases List.mem_iff_getElem?.mp hStatement with ⟨i, hi⟩
  refine Pattern.mem_lower_iff.mpr
    ⟨(⟨d.subject, r⟩, i), List.mem_zipIdx_iff_getElem?.mpr hi, ?_⟩
  rw [ofProperty_of_named hNamed _ n]
  exact hs

/- A clause that a pattern states is lowered to duplicates. -/
theorem exists_duplicate_of_states
    {p : Pattern}
    {cs : List Clause}
    {n : Nat}
    {s : FragmentSet}
    (hStates : ∀ c ∈ cs, p.States c)
    (hNamed : ∀ c ∈ cs, c.leavesUnnamed = false)
    (hs : s ∈ ofClauses n cs) :
    ∃ t ∈ p.lower, t.Duplicates s := by
  rcases exists_property_of_mem_ofClauses hs with ⟨c, hc, q, hq, m, hSet⟩
  rcases hStates c hc with ⟨d, hd, hAgree⟩
  rcases hAgree.exists_property q hq with ⟨r, hr, hrq⟩
  rcases exists_duplicate_ofProperty hrq hSet with ⟨t, ht, hts⟩
  have hNamed' : r.leavesUnnamed = false := by
    rw [hrq.leavesUnnamed_eq]
    have hEach := hNamed c hc
    rw [Clause.leavesUnnamed, List.any_eq_false] at hEach
    simpa using hEach q hq
  rw [← hAgree.1] at ht
  exact ⟨t, mem_lower_of_named hd hr hNamed' ht, hts⟩

end Lowering

namespace Optimizer

/-
  An arena has the first sets of each class of duplicates, in
  order: no two of its sets are duplicates, and exactly one of
  them is a duplicate of a given set without literals for no
  number, namely the first one of all.  So further duplicates do
  not change a plan, and neither do clauses that the pattern
  states already and that leave no resource unnamed.
-/
theorem optimize_repeats :
    (∀ sets : List FragmentSet,
      (Arena.build sets).sets.Sublist sets ∧
        (Arena.build sets).sets.Pairwise (fun s t => ¬ s.Duplicates t) ∧
        ∀ s ∈ sets, s.hasNaN = false →
          ∃ k,
            sets.find? (fun t => decide (t.Duplicates s)) = some k ∧
              (Arena.build sets).sets.filter
                  (fun t => decide (t.Duplicates s)) =
                [k]) ∧
    (∀ (o : Optimizer) (sets others : List FragmentSet)
        (startVars : VarSet),
      (∀ s ∈ others, ∃ t ∈ sets, t.Duplicates s) →
        o.optimize (sets ++ others) startVars =
          o.optimize sets startVars) ∧
    (∀ (o : Optimizer) (p : Pattern) (cs : List Clause)
        (startVars : VarSet),
      (∀ c ∈ cs, p.States c) →
      (∀ c ∈ cs, c.leavesUnnamed = false) →
        o.optimize (Pattern.lower ⟨p.clauses ++ cs⟩) startVars =
          o.optimize p.lower startVars) ∧
    (∀ (p : Pattern), ∀ c ∈ p.clauses, c.hasNaN = false → p.States c) := by
  refine ⟨?_, ?_, ?_, fun p c => Pattern.states_of_mem⟩
  · intro sets
    exact ⟨Arena.build_sublist sets, Arena.pairwise_build sets,
      fun s => Arena.exists_first_duplicate⟩
  · intro o sets others startVars h
    exact optimize_append h o startVars
  · intro o p cs startVars hStates hNamed
    rcases Lowering.ofClauses_append 0 p.clauses cs with ⟨n, hLower⟩
    have hDuplicates : ∀ s ∈ Lowering.ofClauses n cs,
        ∃ t ∈ p.lower, t.Duplicates s :=
      fun s => Lowering.exists_duplicate_of_states hStates hNamed
    have hSets :
        Pattern.lower ⟨p.clauses ++ cs⟩ =
          p.lower ++ Lowering.ofClauses n cs :=
      hLower
    rw [hSets, optimize_append hDuplicates]

/- Resources with a value. -/
def resourceClause (value : Binary64) : Clause :=
  ⟨⟨"r"⟩, [.value (.compare .eq (.value (.double value)))]⟩

/- The plan for some resources with values. -/
def resourcePlan (values : List Binary64) : Except PlanningError Plan :=
  optimize ⟨.standard, false⟩
    (Pattern.lower ⟨values.map resourceClause⟩) .empty

/-
  A comparison with negative zero repeats one with positive zero.
  Nothing repeats a comparison with a literal for no number.
-/
theorem optimize_repeats_resourceClause :
    let zero := Binary64.zero false
    let negativeZero := Binary64.zero true
    let noNumber := Binary64.nan false
    Pattern.States ⟨[resourceClause zero]⟩ (resourceClause negativeZero) ∧
      resourcePlan [zero, negativeZero] = resourcePlan [zero] ∧
      resourcePlan [noNumber, noNumber] ≠ resourcePlan [noNumber] := by
  intro zero negativeZero noNumber
  have hStates :
      Pattern.States ⟨[resourceClause zero]⟩
        (resourceClause negativeZero) :=
    ⟨_, List.mem_cons_self, by decide +kernel⟩
  refine ⟨hStates, ?_, by decide +kernel⟩
  apply optimize_repeats.2.2.1 ⟨.standard, false⟩
    ⟨[resourceClause zero]⟩ [resourceClause negativeZero] .empty
  · intro c hc
    rw [List.mem_singleton.mp hc]
    exact hStates
  · intro c hc
    rw [List.mem_singleton.mp hc]
    rfl

end Optimizer

end TraversalPlanner
