import Mathlib.Data.Multiset.Bind
import TraversalPlanner.Proofs.Plan.CandidateOrder
import TraversalPlanner.Proofs.Plan.PlainFragments
import TraversalPlanner.Proofs.Plan.Registration
import TraversalPlanner.Proofs.Plan.WaitingVariables

/-
  The order of constraints does not matter to planning.  If a
  plain pattern is lowered and its sets are given in another
  order, the same fragments are chosen at the same costs, or
  planning fails in the same way.

  Main declarations:
    * `Arena.candidates_perm`
    * `Greedy.Interchangeable`
    * `Greedy.rounds_of_interchangeable`
    * `Optimizer.SameOutcome`
    * `Optimizer.optimize_of_perm_lower`
-/

namespace TraversalPlanner

open Lowering

------------------------------------------------------------
-- Arenas of Permuted Sets
------------------------------------------------------------

namespace Arena

/- The constraints of an arena: the fragments of each of its sets. -/
def constraints (a : Arena) : List (Multiset Fragment) :=
  a.sets.map fun s => s.fragments

section PlainSets

variable
  {sets : List FragmentSet}
  (hSets : ∀ s ∈ sets, IsPlainSet s)

include hSets

/- The constraints of an arena differ from each other. -/
theorem nodup_constraints :
    (build sets).constraints.Nodup := by
  unfold constraints List.Nodup
  rw [List.pairwise_map]
  apply (pairwise_build sets).imp_of_mem
  intro k s hk hs hNotDup hEq
  apply hNotDup
  rw [(hSets k (mem_of_mem_build hk)).duplicates_iff
    (hSets s (mem_of_mem_build hs))]
  exact Multiset.coe_eq_coe.mp hEq

/- The constraints of an arena are those of the given sets. -/
theorem mem_constraints_iff
    {k : Multiset Fragment} :
    k ∈ (build sets).constraints ↔ ∃ s ∈ sets, k = s.fragments := by
  unfold constraints
  rw [List.mem_map]
  constructor
  · rintro ⟨s, hs, rfl⟩
    exact ⟨s, mem_of_mem_build hs, rfl⟩
  · rintro ⟨s, hs, rfl⟩
    rcases mem_build_or_duplicate hs with hMem | ⟨t, ht, hDup⟩
    · exact ⟨s, hMem, rfl⟩
    · refine ⟨t, ht, Multiset.coe_eq_coe.mpr ?_⟩
      exact ((hSets t (mem_of_mem_build ht)).duplicates_iff
        (hSets s hs)).mp hDup

/- The constraints do not depend on the order of the given sets. -/
theorem constraints_perm
    {others : List FragmentSet}
    (hPerm : sets.Perm others) :
    (build sets).constraints.Perm (build others).constraints := by
  have hOthers : ∀ s ∈ others, IsPlainSet s :=
    fun s hs => hSets s (hPerm.mem_iff.mpr hs)
  rw [List.perm_ext_iff_of_nodup (nodup_constraints hSets)
    (nodup_constraints hOthers)]
  intro k
  rw [mem_constraints_iff hSets, mem_constraints_iff hOthers]
  simp only [hPerm.mem_iff]

end PlainSets

/- The fragments of all candidates are those of all sets. -/
theorem map_fragment_candidates (a : Arena) :
    a.candidates.map Candidate.fragment =
      (a.sets.map FragmentSet.fragments).flatten := by
  have hSet : ∀ x : FragmentSet × Nat,
      (x.1.fragments.zipIdx.map fun y =>
          Candidate.mk x.2 y.2 y.1).map Candidate.fragment =
        x.1.fragments := by
    intro x
    rw [List.map_map]
    exact List.zipIdx_map_fst 0 x.1.fragments
  unfold candidates
  rw [List.map_flatMap, ← List.flatMap_def]
  apply (List.flatMap_congr fun x _ => hSet x).trans
  have hSets := List.flatMap_map Prod.fst FragmentSet.fragments
    a.sets.zipIdx
  rw [List.zipIdx_map_fst] at hSets
  exact hSets.symm

/-
  The candidates for plain sets do not depend on the order of the
  sets, apart from their numbers.
-/
theorem candidates_perm
    {sets others : List FragmentSet}
    (hSets : ∀ s ∈ sets, IsPlainSet s)
    (hPerm : sets.Perm others) :
    ((build sets).candidates.map Candidate.fragment).Perm
      ((build others).candidates.map Candidate.fragment) := by
  have hJoin : ∀ a : Arena,
      (a.constraints : Multiset (Multiset Fragment)).join =
        a.candidates.map Candidate.fragment := by
    intro a
    have hConstraints :
        a.constraints =
          (a.sets.map FragmentSet.fragments).map Multiset.ofList := by
      rw [List.map_map]
      rfl
    rw [hConstraints, Multiset.coe_join, map_fragment_candidates]
  rw [← Multiset.coe_eq_coe, ← hJoin, ← hJoin,
    Multiset.coe_eq_coe.mpr (constraints_perm hSets hPerm)]

/- The number of sets does not depend on their order. -/
theorem size_eq_of_perm
    {sets others : List FragmentSet}
    (hSets : ∀ s ∈ sets, IsPlainSet s)
    (hPerm : sets.Perm others) :
    (build sets).size = (build others).size := by
  have hLength := (constraints_perm hSets hPerm).length_eq
  simpa [constraints, size] using hLength

end Arena

------------------------------------------------------------
-- Choices of Equal Rank
------------------------------------------------------------

namespace PricedCandidate

/- Plain candidates of equal rank have the same fragment. -/
theorem fragment_eq_of_rank_eq
    {p q : PricedCandidate}
    (hp : p.candidate.fragment.IsPlain)
    (hq : q.candidate.fragment.IsPlain)
    (hpq : (p.rank q).isLE = true)
    (hqp : (q.rank p).isLE = true) :
    p.candidate.fragment = q.candidate.fragment := by
  have hEq : p.rank q = .eq := Std.OrientedCmp.isLE_antisymm hpq hqp
  simp only [rank, Ordering.then_eq_eq] at hEq
  rcases hEq with ⟨_, hStart, hFinish, hName⟩
  exact hp.eq_of_name_eq hq (eq_of_compareKeys_eq hName)
    (eq_of_compareKeys_eq hStart) (eq_of_compareOptional_eq hFinish)

end PricedCandidate

namespace Greedy

------------------------------------------------------------
-- Candidates in Different Orders
------------------------------------------------------------

/- Candidates of one set have mirrored fragments, and no others have. -/
def IsGrouped (cs : List Candidate) : Prop :=
  ∀ c ∈ cs, ∀ d ∈ cs,
    c.set = d.set ↔
      d.fragment = c.fragment ∨ d.fragment = c.fragment.mirror

/-
  Two lists of candidates for the same plain fragments, in any
  order and with any numbers.
-/
structure Interchangeable (cs ds : List Candidate) : Prop where
  perm : (cs.map Candidate.fragment).Perm (ds.map Candidate.fragment)
  left : IsGrouped cs
  right : IsGrouped ds
  isPlain : ∀ c ∈ cs, c.fragment.IsPlain

namespace Interchangeable

variable
  {cs ds : List Candidate}

/- The two lists can be exchanged. -/
theorem symm
    (h : Interchangeable cs ds) :
    Interchangeable ds cs where
  perm := h.perm.symm
  left := h.right
  right := h.left
  isPlain := by
    intro d hd
    rcases List.mem_map.mp (h.perm.mem_iff.mpr (List.mem_map_of_mem hd))
      with ⟨c, hc, hEq⟩
    rw [← hEq]
    exact h.isPlain c hc

/- Each candidate has one with its fragment in the other list. -/
theorem exists_fragment_eq
    (h : Interchangeable cs ds)
    {c : Candidate}
    (hc : c ∈ cs) :
    ∃ d ∈ ds, d.fragment = c.fragment :=
  List.mem_map.mp (h.perm.mem_iff.mp (List.mem_map_of_mem hc))

/- As many candidates are eligible in one list as in the other. -/
theorem length_eligible_eq
    (h : Interchangeable cs ds)
    (bound : VarSet) :
    (eligible bound cs).length = (eligible bound ds).length := by
  have hCount : ∀ es : List Candidate,
      (eligible bound es).length =
        ((es.map Candidate.fragment).filter fun f =>
          decide (bound.ContainsAll f.dependencies)).length := by
    intro es
    rw [List.filter_map, List.length_map]
    rfl
  rw [hCount, hCount, (h.perm.filter _).length_eq]

/-
  The cheapest candidate of one list ranks no lower than any
  eligible one of the other list.
-/
theorem rank_isLE_of_cheapest?
    (h : Interchangeable cs ds)
    {m : CostModel Binary64}
    {bound : VarSet}
    {p : PricedCandidate}
    (hp : cheapest? ((eligible bound cs).map (price m bound)) = some p)
    {d : Candidate}
    (hd : d ∈ eligible bound ds) :
    (p.rank (price m bound d)).isLE = true := by
  rcases List.mem_filter.mp hd with ⟨hMem, hBound⟩
  rcases h.symm.exists_fragment_eq hMem with ⟨c, hc, hEq⟩
  have hEligible : c ∈ eligible bound cs := by
    refine List.mem_filter.mpr ⟨hc, ?_⟩
    rw [hEq]
    exact hBound
  have hRank := PricedCandidate.rank_isLE_of_order_isLE
    (order_isLE_of_cheapest? hp (List.mem_map_of_mem hEligible))
  -- the rank does not depend on the numbers of a candidate
  have hSame :
      p.rank (price m bound c) = p.rank (price m bound d) := by
    unfold PricedCandidate.rank price
    rw [hEq]
  rw [← hSame]
  exact hRank

/- The cheapest candidates of both lists have the same fragment. -/
theorem fragment_eq_of_cheapest?
    (h : Interchangeable cs ds)
    {m : CostModel Binary64}
    {bound : VarSet}
    {p q : PricedCandidate}
    (hp : cheapest? ((eligible bound cs).map (price m bound)) = some p)
    (hq : cheapest? ((eligible bound ds).map (price m bound)) = some q) :
    p.candidate.fragment = q.candidate.fragment := by
  rcases List.mem_map.mp (mem_of_cheapest? hp) with ⟨c, hc, rfl⟩
  rcases List.mem_map.mp (mem_of_cheapest? hq) with ⟨d, hd, rfl⟩
  exact PricedCandidate.fragment_eq_of_rank_eq
    (h.isPlain c (List.mem_of_mem_filter hc))
    (h.symm.isPlain d (List.mem_of_mem_filter hd))
    (h.rank_isLE_of_cheapest? hp hd)
    (h.symm.rank_isLE_of_cheapest? hq hc)

/- What is left after a choice, when its set is removed. -/
theorem map_fragment_others
    (hGrouped : IsGrouped cs)
    {c : Candidate}
    (hc : c ∈ cs) :
    (cs.filter fun d => decide (d.set ≠ c.set)).map Candidate.fragment =
      (cs.map Candidate.fragment).filter fun f =>
        decide (f ≠ c.fragment ∧ f ≠ c.fragment.mirror) := by
  rw [List.filter_map]
  apply congrArg
  apply List.filter_congr
  intro d hd
  have hSet := hGrouped c hc d hd
  simp only [Function.comp, decide_eq_decide, ne_eq, ← not_or]
  rw [← hSet, eq_comm]

/- Choosing the same fragment leaves interchangeable candidates. -/
theorem others
    (h : Interchangeable cs ds)
    {c d : Candidate}
    (hc : c ∈ cs)
    (hd : d ∈ ds)
    (hEq : c.fragment = d.fragment) :
    Interchangeable
      (cs.filter fun e => decide (e.set ≠ c.set))
      (ds.filter fun e => decide (e.set ≠ d.set)) where
  perm := by
    rw [map_fragment_others h.left hc, map_fragment_others h.right hd, hEq]
    exact h.perm.filter _
  left := fun a ha b hb =>
    h.left a (List.mem_of_mem_filter ha) b (List.mem_of_mem_filter hb)
  right := fun a ha b hb =>
    h.right a (List.mem_of_mem_filter ha) b (List.mem_of_mem_filter hb)
  isPlain := fun a ha => h.isPlain a (List.mem_of_mem_filter ha)

end Interchangeable

------------------------------------------------------------
-- Rounds in Lock Step
------------------------------------------------------------

/- All of a round but the number of the chosen set. -/
def Round.choice (r : Round) : Fragment × Binary64 × Nat × VarSet :=
  (r.step.fragment, r.step.cost, r.candidates, r.bound)

/-
  Two results of planning are the same up to the numbers of sets
  and the order of the fragments that cannot run.
-/
inductive SameRounds :
    Except PlanningError (List Round) →
    Except PlanningError (List Round) →
    Prop where
| chosen
    {rs qs : List Round} :
    rs.map Round.choice = qs.map Round.choice →
    SameRounds (.ok rs) (.ok qs)
| stuck
    {e f : PlanningError} :
    e.SameUpToOrder f →
    SameRounds (.error e) (.error f)

/- Results stay the same behind equal first choices. -/
theorem SameRounds.cons
    {x y : Except PlanningError (List Round)}
    {r q : Round}
    (hFirst : r.choice = q.choice) :
    SameRounds x y →
      SameRounds
        (match x with
          | .error e => .error e
          | .ok later => .ok (r :: later))
        (match y with
          | .error e => .error e
          | .ok later => .ok (q :: later)) := by
  intro h
  cases h with
  | chosen hLater =>
      apply SameRounds.chosen
      rw [List.map_cons, List.map_cons, hFirst, hLater]
  | stuck hError => exact .stuck hError

/-
  Planning takes the same rounds from interchangeable candidates:
  each round chooses the same fragment from both, and leaves
  interchangeable candidates.
-/
theorem rounds_of_interchangeable
    {m : CostModel Binary64}
    {n : Nat} :
    ∀ {cs ds : List Candidate} {bound : VarSet},
      Interchangeable cs ds →
        SameRounds (rounds m n cs bound) (rounds m n ds bound) := by
  induction n with
  | zero =>
      intro cs ds bound _
      exact .chosen rfl
  | succ n ih =>
      intro cs ds bound h
      have hLength := h.length_eligible_eq bound
      unfold rounds
      cases hp : cheapest? ((eligible bound cs).map (price m bound)) with
      | none =>
          have hNone :
              cheapest? ((eligible bound ds).map (price m bound)) =
                none := by
            rw [cheapest?_eq_none_iff, List.map_eq_nil_iff] at hp ⊢
            rw [hp, List.length_nil] at hLength
            exact List.length_eq_zero_iff.mp hLength.symm
          simp only [hp, hNone]
          exact .stuck (Stall.diagnose_of_perm h.perm)
      | some p =>
          cases hq : cheapest? ((eligible bound ds).map (price m bound)) with
          | none =>
              rw [cheapest?_eq_none_iff, List.map_eq_nil_iff] at hq
              rw [hq, List.length_nil] at hLength
              rw [List.length_eq_zero_iff.mp hLength] at hp
              cases hp
          | some q =>
              have hEq := h.fragment_eq_of_cheapest? hp hq
              rcases List.mem_map.mp (mem_of_cheapest? hp)
                with ⟨c, hc, rfl⟩
              rcases List.mem_map.mp (mem_of_cheapest? hq)
                with ⟨d, hd, rfl⟩
              have hFragment : c.fragment = d.fragment := hEq
              have hOthers := h.others (List.mem_of_mem_filter hc)
                (List.mem_of_mem_filter hd) hFragment
              simp only [hp, hq]
              apply SameRounds.cons
              · simp only [Round.choice, price, List.length_map, hLength,
                  hFragment]
              · simp only [price, hFragment]
                exact ih hOthers

/- Candidates of plain sets are grouped by their fragments. -/
theorem isGrouped_candidates
    {sets : List FragmentSet}
    (hSets : ∀ s ∈ sets, IsPlainSet s) :
    IsGrouped (Arena.build sets).candidates := by
  intro c hc d hd
  rcases Arena.mem_candidates_iff.mp hc with ⟨s, hs, hcs⟩
  rcases Arena.mem_candidates_iff.mp hd with ⟨t, ht, hdt⟩
  have hcs := List.mem_of_getElem? hcs
  have hdt := List.mem_of_getElem? hdt
  have hsPlain := hSets s (Arena.mem_of_mem_build (List.mem_of_getElem? hs))
  have htPlain := hSets t (Arena.mem_of_mem_build (List.mem_of_getElem? ht))
  rw [← hsPlain.isLowered.mem_fragments_iff hcs]
  constructor
  · intro hSet
    rw [hSet, ht] at hs
    cases hs
    exact hdt
  · intro hds
    -- sets that share a fragment are the same constraint
    have hPerm := (hsPlain.isLowered.perm_images hds).trans
      (htPlain.isLowered.perm_images hdt).symm
    have hConstraints :
        (Arena.build sets).constraints[c.set]? =
          (Arena.build sets).constraints[d.set]? := by
      unfold Arena.constraints
      rw [List.getElem?_map, List.getElem?_map, hs, ht]
      exact congrArg some (Multiset.coe_eq_coe.mpr hPerm)
    have hLength : c.set < (Arena.build sets).constraints.length := by
      simpa [Arena.constraints, Arena.size] using Arena.set_lt_size hc
    exact (List.getElem?_inj hLength
      (Arena.nodup_constraints hSets)).mp hConstraints

/- The candidates for permuted plain sets are interchangeable. -/
theorem interchangeable_of_perm
    {sets others : List FragmentSet}
    (hSets : ∀ s ∈ sets, IsPlainSet s)
    (hPerm : sets.Perm others) :
    Interchangeable (Arena.build sets).candidates
      (Arena.build others).candidates where
  perm := Arena.candidates_perm hSets hPerm
  left := isGrouped_candidates hSets
  right := isGrouped_candidates
    fun s hs => hSets s (hPerm.mem_iff.mpr hs)
  isPlain := by
    intro c hc
    rcases Arena.mem_candidates_iff.mp hc with ⟨s, hs, hcs⟩
    exact (hSets s (Arena.mem_of_mem_build (List.mem_of_getElem? hs))).isPlain
      c.fragment (List.mem_of_getElem? hcs)

/- The fragments and costs of rounds. -/
theorem map_step_eq_of_map_choice_eq
    {rs qs : List Round}
    (h : rs.map Round.choice = qs.map Round.choice) :
    (rs.map Round.step).map (fun s => (s.fragment, s.cost)) =
      (qs.map Round.step).map (fun s => (s.fragment, s.cost)) := by
  have hSteps : ∀ rs : List Round,
      (rs.map Round.step).map (fun s => (s.fragment, s.cost)) =
        (rs.map Round.choice).map fun (f, cost, _) => (f, cost) := by
    intro rs
    rw [List.map_map, List.map_map]
    rfl
  rw [hSteps, hSteps, h]

/- The trace of rounds does not show the numbers of sets. -/
theorem trace_eq_of_map_choice_eq
    {rs qs : List Round}
    (h : rs.map Round.choice = qs.map Round.choice) :
    trace rs = trace qs := by
  have hTrace : ∀ rs : List Round,
      rs.map traceStep =
        (rs.map Round.choice).map fun (f, cost, candidates, bound) =>
          ⟨candidates, f.render, cost, VarSet.render bound, .zero⟩ := by
    intro rs
    rw [List.map_map]
    rfl
  unfold trace
  rw [hTrace, hTrace, h]

end Greedy

------------------------------------------------------------
-- Plans
------------------------------------------------------------

namespace Optimizer

/-
  Two results of planning are the same up to the numbers of sets
  in plans and the order of the fragments in errors.
-/
inductive SameOutcome :
    Except PlanningError Plan →
    Except PlanningError Plan →
    Prop where
| planned
    {p q : Plan} :
    p.steps.map (fun s => (s.fragment, s.cost)) =
      q.steps.map (fun s => (s.fragment, s.cost)) →
    p.startVars = q.startVars →
    p.trace = q.trace →
    SameOutcome (.ok p) (.ok q)
| failed
    {e f : PlanningError} :
    e.SameUpToOrder f →
    SameOutcome (.error e) (.error f)

/-
  Planning the sets of a plain pattern in any order chooses the
  same fragments at the same costs, or fails in the same way.
-/
theorem optimize_of_perm_lower
    {p : Pattern}
    (hp : p.IsPlain)
    {sets : List FragmentSet}
    (hPerm : sets.Perm p.lower)
    (o : Optimizer)
    (startVars : VarSet) :
    SameOutcome
      (o.optimize sets startVars)
      (o.optimize p.lower startVars) := by
  have hSets : ∀ s ∈ sets, IsPlainSet s :=
    fun s hs => isPlainSet_of_mem_lower hp (hPerm.mem_iff.mp hs)
  have hRounds :
      Greedy.SameRounds
        (Greedy.rounds o.model (Arena.build sets).size
          (Arena.build sets).candidates startVars)
        (Greedy.rounds o.model (Arena.build sets).size
          (Arena.build p.lower).candidates startVars) :=
    Greedy.rounds_of_interchangeable
      (Greedy.interchangeable_of_perm hSets hPerm)
  unfold optimize
  by_cases hEmpty : sets = []
  · have hLower : p.lower = [] := by
      rw [hEmpty] at hPerm
      exact hPerm.nil_eq.symm
    rw [hEmpty, hLower]
    exact .failed .nothingToPlan
  · have hLower : p.lower ≠ [] := by
      intro h
      rw [h] at hPerm
      exact hEmpty hPerm.eq_nil
    rw [if_neg (by simpa using hEmpty), if_neg (by simpa using hLower)]
    simp only [← Arena.size_eq_of_perm hSets hPerm]
    generalize hx : Greedy.rounds o.model (Arena.build sets).size
      (Arena.build sets).candidates startVars = x at hRounds ⊢
    generalize hy : Greedy.rounds o.model (Arena.build sets).size
      (Arena.build p.lower).candidates startVars = y at hRounds ⊢
    cases hRounds with
    | chosen hChoices =>
        refine .planned (Greedy.map_step_eq_of_map_choice_eq hChoices)
          rfl ?_
        simp only [Greedy.trace_eq_of_map_choice_eq hChoices]
    | stuck hError => exact .failed hError

/- Two different actors of one cast, told apart twice. -/
def coStarsPattern : Pattern where
  clauses :=
    [⟨⟨"cast"⟩,
      [.isa (.label "has-cast"),
       .rolePlayer ⟨some (.label "actor"), ⟨"x"⟩⟩,
       .rolePlayer ⟨some (.label "actor"), ⟨"y"⟩⟩]⟩,
     ⟨⟨"x"⟩, [.neq ⟨"y"⟩]⟩,
     ⟨⟨"y"⟩, [.neq ⟨"x"⟩, .has "name" none (some (.contains "Lee"))]⟩]

/-
  In reverse order, the sets of the pattern have other numbers and
  another one of the two inequalities is kept, but the plan has the
  same fragments at the same costs.
-/
theorem optimize_of_perm_lower_coStarsPattern :
    coStarsPattern.lower.reverse.Perm coStarsPattern.lower ∧
      (Optimizer.mk .standard true).optimize
          coStarsPattern.lower.reverse .empty ≠
        (Optimizer.mk .standard true).optimize
          coStarsPattern.lower .empty ∧
      SameOutcome
        ((Optimizer.mk .standard true).optimize
          coStarsPattern.lower.reverse .empty)
        ((Optimizer.mk .standard true).optimize
          coStarsPattern.lower .empty) := by
  have hPlain : coStarsPattern.IsPlain :=
    ⟨by decide, by decide⟩
  have hPerm := List.reverse_perm coStarsPattern.lower
  exact ⟨hPerm, by decide +kernel,
    optimize_of_perm_lower hPlain hPerm _ _⟩

end Optimizer

end TraversalPlanner
