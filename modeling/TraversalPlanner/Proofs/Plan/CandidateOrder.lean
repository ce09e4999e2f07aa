import TraversalPlanner.Plan.Greedy

/-
  The order of candidates is a total preorder whose ties agree on
  set and position, so the cheapest of a list of candidates comes
  before every other one that is numbered differently.

  Main declarations:
    * `PricedCandidate.rank`
    * `PricedCandidate.order_isLE_of_not_precedes`
    * `PricedCandidate.numbers_eq_of_order_eq`
    * `Greedy.cheapest?_eq_none_iff`
    * `Greedy.mem_of_cheapest?`
    * `Greedy.order_isLE_of_cheapest?`
-/

namespace TraversalPlanner

------------------------------------------------------------
-- Orders of Keys
------------------------------------------------------------

namespace PricedCandidate

section Keys

variable {K : Type} [KeyOrder K]

/- A key does not come after another one that it may precede. -/
theorem compareKeys_isLE_iff
    {a b : K} :
    (compareKeys a b).isLE = true ↔
      KeyOrder.before b a = false := by
  unfold compareKeys
  cases hab : KeyOrder.before a b with
  | true =>
      simp [KeyOrder.before_asymm hab]
  | false =>
      cases hba : KeyOrder.before b a <;> simp

instance : Std.TransCmp (@compareKeys K _) where
  eq_swap := by
    intro a b
    unfold compareKeys
    cases hab : KeyOrder.before a b with
    | true =>
        simp [KeyOrder.before_asymm hab]
    | false =>
        cases hba : KeyOrder.before b a <;> simp
  isLE_trans := by
    intro a b c hab hbc
    rw [compareKeys_isLE_iff] at *
    -- were `c` before `a`, it would be before `b` as well
    cases hca : KeyOrder.before c a with
    | false => rfl
    | true =>
        cases hab' : KeyOrder.before a b with
        | true =>
            rw [KeyOrder.before_trans hca hab'] at hbc
            cases hbc
        | false =>
            have hEq : a = b :=
              KeyOrder.eq_of_not_before hab' hab
            rw [← hEq, hca] at hbc
            cases hbc

/- Keys that are ordered equally are equal. -/
theorem eq_of_compareKeys_eq
    {a b : K}
    (h : compareKeys a b = .eq) :
    a = b := by
  unfold compareKeys at h
  split at h
  · cases h
  · rename_i hab
    split at h
    · cases h
    · rename_i hba
      exact KeyOrder.eq_of_not_before
        (eq_false_of_ne_true hab) (eq_false_of_ne_true hba)

end Keys

instance : Std.TransCmp compareOptional where
  eq_swap := by
    intro x y
    cases x with
    | none => cases y <;> rfl
    | some x =>
        cases y with
        | none => rfl
        | some y =>
            have hSwap : compareKeys x y = (compareKeys y x).swap :=
              Std.OrientedCmp.eq_swap
            exact hSwap
  isLE_trans := by
    intro x y z hxy hyz
    cases x with
    | none => cases z <;> rfl
    | some x =>
        cases y with
        | none => cases hxy
        | some y =>
            cases z with
            | none => cases hyz
            | some z =>
                have hxy' : (compareKeys x y).isLE = true := hxy
                have hyz' : (compareKeys y z).isLE = true := hyz
                have hxz : (compareKeys x z).isLE = true :=
                  Std.TransCmp.isLE_trans hxy' hyz'
                exact hxz

/- Optional variables that are ordered equally are equal. -/
theorem eq_of_compareOptional_eq
    {x y : Option Var}
    (h : compareOptional x y = .eq) :
    x = y := by
  cases x with
  | none =>
      cases y with
      | none => rfl
      | some y => cases h
  | some x =>
      cases y with
      | none => cases h
      | some y => exact congrArg some (eq_of_compareKeys_eq h)

end PricedCandidate

------------------------------------------------------------
-- The Order of Candidates
------------------------------------------------------------

namespace PricedCandidate

/- Comparing by a part of the data is transitive. -/
theorem transCmp_on
    {A B : Type}
    (f : A → B)
    (cmp : B → B → Ordering)
    [Std.TransCmp cmp] :
    Std.TransCmp fun a b => cmp (f a) (f b) where
  eq_swap := Std.OrientedCmp.eq_swap
  isLE_trans := fun hab hbc => Std.TransCmp.isLE_trans hab hbc

/-
  How two candidates are ordered when their numbers are left
  aside.
-/
def rank (p q : PricedCandidate) : Ordering :=
  let f := p.candidate.fragment
  let g := q.candidate.fragment
  (compare p.cost.rank q.cost.rank).then <|
    (compareKeys f.start g.start).then <|
      (compareOptional f.finish? g.finish?).then <|
        compareKeys f.name g.name

/- The order without numbers compares four keys. -/
instance : Std.TransCmp rank := by
  have hCost := transCmp_on
    (fun p : PricedCandidate => p.cost.rank) compare
  have hStart := transCmp_on
    (fun p : PricedCandidate => p.candidate.fragment.start)
    compareKeys
  have hFinish := transCmp_on
    (fun p : PricedCandidate => p.candidate.fragment.finish?)
    compareOptional
  have hName := transCmp_on
    (fun p : PricedCandidate => p.candidate.fragment.name)
    compareKeys
  exact inferInstanceAs (Std.TransCmp
    (compareLex _ (compareLex _ (compareLex _ _))))

/- Candidates of equal rank are ordered by their numbers. -/
theorem order_eq
    (p q : PricedCandidate) :
    p.order q =
      (p.rank q).then
        ((compare p.candidate.set q.candidate.set).then
          (compare p.candidate.index q.candidate.index)) := by
  simp only [order, rank, Ordering.then_assoc]

/- The order of candidates compares ranks, and then numbers. -/
instance : Std.TransCmp order := by
  have hSet := transCmp_on
    (fun p : PricedCandidate => p.candidate.set) compare
  have hIndex := transCmp_on
    (fun p : PricedCandidate => p.candidate.index) compare
  have hOrder : order = compareLex rank
      (compareLex
        (fun p q => compare p.candidate.set q.candidate.set)
        (fun p q => compare p.candidate.index q.candidate.index)) := by
    funext p q
    exact order_eq p q
  rw [hOrder]
  infer_instance

/- A candidate that is ordered before another one ranks no lower. -/
theorem rank_isLE_of_order_isLE
    {p q : PricedCandidate}
    (h : (p.order q).isLE = true) :
    (p.rank q).isLE = true := by
  rw [order_eq] at h
  cases hRank : p.rank q with
  | lt => rfl
  | eq => rfl
  | gt =>
      rw [hRank] at h
      cases h

/- A candidate that does not precede another comes no earlier. -/
theorem order_isLE_of_not_precedes
    {p q : PricedCandidate}
    (h : ¬ q.precedes p = true) :
    (p.order q).isLE = true := by
  have hSwap : p.order q = (q.order p).swap :=
    Std.OrientedCmp.eq_swap
  rw [hSwap]
  cases hqp : q.order p with
  | lt => exact absurd (by simp [precedes, hqp]) h
  | eq => rfl
  | gt => rfl

/- Candidates that are ordered equally have the same numbers. -/
theorem numbers_eq_of_order_eq
    {p q : PricedCandidate}
    (h : p.order q = .eq) :
    p.candidate.set = q.candidate.set ∧
      p.candidate.index = q.candidate.index := by
  simp only [order_eq, Ordering.then_eq_eq, Nat.compare_eq_eq] at h
  exact h.2

end PricedCandidate

------------------------------------------------------------
-- Picking from a List
------------------------------------------------------------

/-
  Picking one of two elements along a list ends with an element of
  the list.  If the picked one is never above the other, the last
  one is below all elements.
-/
theorem foldl_pick
    {A : Type}
    (le : A → A → Prop)
    {pick : A → A → A}
    (hRefl : ∀ a, le a a)
    (hTrans : ∀ a b c, le a b → le b c → le a c)
    (hPick :
      ∀ a b,
        (pick a b = a ∨ pick a b = b) ∧
          le (pick a b) a ∧ le (pick a b) b)
    (a : A)
    (as : List A) :
    as.foldl pick a ∈ a :: as ∧
      ∀ b ∈ a :: as, le (as.foldl pick a) b := by
  induction as generalizing a with
  | nil => simpa using hRefl a
  | cons c as ih =>
      rw [List.foldl_cons]
      rcases ih (pick a c) with ⟨hMem, hLe⟩
      rcases hPick a c with ⟨hOne, hFirst, hSecond⟩
      have hHead := hLe _ List.mem_cons_self
      constructor
      · rcases List.mem_cons.mp hMem with hEq | hMem
        · rw [hEq]
          rcases hOne with hOne | hOne
          · simp [hOne]
          · simp [hOne]
        · exact List.mem_cons_of_mem a (List.mem_cons_of_mem c hMem)
      · intro b hb
        rcases List.mem_cons.mp hb with rfl | hb
        · exact hTrans _ _ _ hHead hFirst
        · rcases List.mem_cons.mp hb with rfl | hb
          · exact hTrans _ _ _ hHead hSecond
          · exact hLe b (List.mem_cons_of_mem _ hb)

------------------------------------------------------------
-- The Cheapest Candidate
------------------------------------------------------------

namespace Greedy

/- Without candidates there is no cheapest one. -/
theorem cheapest?_eq_none_iff
    {ps : List PricedCandidate} :
    cheapest? ps = none ↔ ps = [] := by
  cases ps <;> simp [cheapest?]

/-
  Keeping the earlier of two candidates along a list ends with a
  candidate of the list that no other one precedes.
-/
theorem foldl_earlier
    (p : PricedCandidate)
    (ps : List PricedCandidate) :
    ps.foldl (fun p q => if q.precedes p then q else p) p ∈ p :: ps ∧
      ∀ q ∈ p :: ps,
        ((ps.foldl (fun p q => if q.precedes p then q else p)
          p).order q).isLE = true := by
  apply foldl_pick fun p q : PricedCandidate => (p.order q).isLE = true
  · intro q
    simp [Std.ReflCmp.compare_self]
  · intro q r t hqr hrt
    exact Std.TransCmp.isLE_trans hqr hrt
  · intro q r
    by_cases hr : r.precedes q = true
    · have hLt : r.order q = .lt := by
        simpa [PricedCandidate.precedes] using hr
      rw [if_pos hr]
      exact ⟨Or.inr rfl, by simp [hLt], by simp [Std.ReflCmp.compare_self]⟩
    · rw [if_neg hr]
      exact ⟨Or.inl rfl, by simp [Std.ReflCmp.compare_self],
        PricedCandidate.order_isLE_of_not_precedes hr⟩

/- The cheapest candidate is one of the list. -/
theorem mem_of_cheapest?
    {ps : List PricedCandidate}
    {p : PricedCandidate}
    (h : cheapest? ps = some p) :
    p ∈ ps := by
  cases ps with
  | nil => cases h
  | cons q ps =>
      cases h
      exact (foldl_earlier q ps).1

/- No candidate of the list precedes the cheapest one. -/
theorem order_isLE_of_cheapest?
    {ps : List PricedCandidate}
    {p q : PricedCandidate}
    (h : cheapest? ps = some p)
    (hq : q ∈ ps) :
    (p.order q).isLE = true := by
  cases ps with
  | nil => cases h
  | cons r ps =>
      cases h
      exact (foldl_earlier r ps).2 q hq

end Greedy

end TraversalPlanner
