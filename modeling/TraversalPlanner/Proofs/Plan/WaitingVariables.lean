import Mathlib.Logic.Relation
import Mathlib.Tactic.ByContra
import TraversalPlanner.Plan.Stall

/-
  Following the edges of a graph of waiting variables as often as
  it has edges reaches all variables on paths, so the diagnosis of
  a stall depends on which edges there are and not on their order.

  Main statements:
    * `WaitGraph.mem_reachable_iff`
    * `WaitGraph.leastCycle?_eq_of_mem_iff`
    * `Stall.diagnose_of_perm`
-/

namespace TraversalPlanner

namespace WaitGraph

------------------------------------------------------------
-- Following Edges Once
------------------------------------------------------------

/- Following a first edge, and then the others. -/
theorem extend_cons
    (e : Var × Var)
    (g : WaitGraph)
    (s : VarSet) :
    extend (e :: g) s =
      extend g (if e.1 ∈ s then s.insert e.2 else s) :=
  rfl

/- Following edges keeps what was reached. -/
theorem mem_extend_of_mem
    {g : WaitGraph}
    {x : Var} :
    ∀ {s : VarSet}, x ∈ s → x ∈ g.extend s := by
  induction g with
  | nil =>
      intro s hx
      exact hx
  | cons e g ih =>
      intro s hx
      rw [extend_cons]
      apply ih
      split
      · exact SortedSet.mem_insert.mpr (Or.inr hx)
      · exact hx

/- Following edges reaches the ends of all that start in a set. -/
theorem mem_extend_of_edge
    {g : WaitGraph}
    {e : Var × Var}
    (he : e ∈ g) :
    ∀ {s : VarSet}, e.1 ∈ s → e.2 ∈ g.extend s := by
  induction g with
  | nil => cases he
  | cons f g ih =>
      intro s hStart
      rw [extend_cons]
      rcases List.mem_cons.mp he with rfl | he
      · apply mem_extend_of_mem
        rw [if_pos hStart]
        exact SortedSet.mem_insert.mpr (Or.inl rfl)
      · apply ih he
        split
        · exact SortedSet.mem_insert.mpr (Or.inr hStart)
        · exact hStart

/- Whatever the edges preserve holds for all that is reached. -/
theorem forall_mem_extend
    {P : Var → Prop}
    {g : WaitGraph}
    (hEdges : ∀ e ∈ g, P e.1 → P e.2) :
    ∀ {s : VarSet}, (∀ x ∈ s, P x) → ∀ x ∈ g.extend s, P x := by
  induction g with
  | nil =>
      intro s hs
      exact hs
  | cons f g ih =>
      intro s hs
      have hLater : ∀ e ∈ g, P e.1 → P e.2 :=
        fun e he => hEdges e (List.mem_cons_of_mem f he)
      rw [extend_cons]
      apply ih hLater
      intro x hx
      split at hx
      · rename_i hStart
        rcases SortedSet.mem_insert.mp hx with rfl | hx
        · exact hEdges f List.mem_cons_self (hs f.1 hStart)
        · exact hs x hx
      · exact hs x hx

------------------------------------------------------------
-- Following Edges to the End
------------------------------------------------------------

/- The edges that end outside of a set. -/
def leaving
    (g : WaitGraph)
    (s : VarSet) : WaitGraph :=
  g.filter fun e => decide (e.2 ∉ s)

/- A set that grows has fewer edges that end outside of it. -/
theorem length_leaving_extend_lt
    {g : WaitGraph}
    {s : VarSet}
    (h : g.extend s ≠ s) :
    (g.leaving (g.extend s)).length < (g.leaving s).length := by
  -- something new was reached, by an edge
  have hNew : ∃ e ∈ g, e.2 ∈ g.extend s ∧ e.2 ∉ s := by
    by_contra hNone
    apply h
    apply SortedSet.ext
    intro x
    refine ⟨?_, mem_extend_of_mem⟩
    intro hx
    have hEnds : ∀ x ∈ g.extend s, x ∈ s ∨ ∃ e ∈ g, e.2 = x :=
      forall_mem_extend (fun e he _ => Or.inr ⟨e, he, rfl⟩)
        fun x hx => Or.inl hx
    rcases hEnds x hx with hOld | ⟨e, he, rfl⟩
    · exact hOld
    · by_contra hOut
      exact hNone ⟨e, he, hx, hOut⟩
  have hLeaving :
      g.leaving (g.extend s) =
        (g.leaving s).filter fun e => decide (e.2 ∉ g.extend s) := by
    unfold leaving
    rw [List.filter_filter]
    apply List.filter_congr
    intro e _
    by_cases he : e.2 ∈ s
    · simp [he, mem_extend_of_mem he]
    · simp [he]
  rcases hNew with ⟨e, he, hIn, hOut⟩
  rw [hLeaving]
  apply List.length_filter_lt_length_iff_exists.mpr
  refine ⟨e, ?_, by simpa using hIn⟩
  exact List.mem_filter.mpr ⟨he, by simpa using hOut⟩

/- The closure keeps what was reached. -/
theorem mem_closure_of_mem
    {g : WaitGraph}
    {x : Var}
    {n : Nat} :
    ∀ {s : VarSet}, x ∈ s → x ∈ g.closure n s := by
  induction n with
  | zero =>
      intro s hx
      exact hx
  | succ n ih =>
      intro s hx
      simp only [closure]
      split
      · exact hx
      · exact ih (mem_extend_of_mem hx)

/- Whatever the edges preserve holds in the closure. -/
theorem forall_mem_closure
    {P : Var → Prop}
    {g : WaitGraph}
    (hEdges : ∀ e ∈ g, P e.1 → P e.2)
    {n : Nat} :
    ∀ {s : VarSet}, (∀ x ∈ s, P x) → ∀ x ∈ g.closure n s, P x := by
  induction n with
  | zero =>
      intro s hs
      exact hs
  | succ n ih =>
      intro s hs
      simp only [closure]
      split
      · exact hs
      · exact ih (forall_mem_extend hEdges hs)

/- A closure with enough rounds has no edge that leaves it. -/
theorem mem_closure_of_edge
    {g : WaitGraph}
    {e : Var × Var}
    (he : e ∈ g)
    {n : Nat} :
    ∀ {s : VarSet}, (g.leaving s).length ≤ n →
      e.1 ∈ g.closure n s → e.2 ∈ g.closure n s := by
  induction n with
  | zero =>
      intro s hLength _
      have hNone : g.leaving s = [] := List.length_eq_zero_iff.mp (by omega)
      have hIn := List.filter_eq_nil_iff.mp hNone e he
      simpa [closure] using hIn
  | succ n ih =>
      intro s hLength
      simp only [closure]
      split
      · rename_i hStable
        intro hStart
        rw [← hStable]
        exact mem_extend_of_edge he hStart
      · rename_i hGrows
        apply ih
        have hLess := length_leaving_extend_lt hGrows
        omega

/- The reachable variables are those on paths. -/
theorem mem_reachable_iff
    {g : WaitGraph}
    {x y : Var} :
    y ∈ g.reachable x ↔
      Relation.ReflTransGen (fun a b => (a, b) ∈ g) x y := by
  constructor
  · apply forall_mem_closure
    · intro e he hPath
      exact hPath.tail he
    · intro z hz
      rw [SortedSet.mem_ofList, List.mem_singleton] at hz
      rw [hz]
  · intro hPath
    induction hPath with
    | refl =>
        apply mem_closure_of_mem
        rw [SortedSet.mem_ofList]
        exact List.mem_cons_self
    | tail _ hEdge ih =>
        exact mem_closure_of_edge hEdge (List.length_filter_le _ _) ih

------------------------------------------------------------
-- Graphs With the Same Edges
------------------------------------------------------------

section SameEdges

variable
  {g h : WaitGraph}
  (hEdges : ∀ e, e ∈ g ↔ e ∈ h)

include hEdges

/- The vertices do not depend on the order of the edges. -/
theorem vertices_eq_of_mem_iff :
    g.vertices = h.vertices := by
  unfold vertices
  congr 1
  apply SortedSet.ext
  intro x
  simp only [SortedSet.mem_ofList, List.mem_flatMap, hEdges]

/- What can be reached does not depend on the order of the edges. -/
theorem reachable_eq_of_mem_iff :
    g.reachable = h.reachable := by
  funext x
  apply SortedSet.ext
  intro y
  rw [mem_reachable_iff, mem_reachable_iff]
  simp only [hEdges]

/- The least cycle does not depend on the order of the edges. -/
theorem leastCycle?_eq_of_mem_iff :
    g.leastCycle? = h.leastCycle? := by
  unfold leastCycle? classes reachability
  rw [vertices_eq_of_mem_iff hEdges, reachable_eq_of_mem_iff hEdges]

end SameEdges

end WaitGraph

------------------------------------------------------------
-- Diagnosis
------------------------------------------------------------

namespace PlanningError

/-
  Two errors are the same up to the order of the fragments that
  cannot run.
-/
inductive SameUpToOrder : PlanningError → PlanningError → Prop where
| nothingToPlan :
    SameUpToOrder .nothingToPlan .nothingToPlan
| cyclic
    (xs : VarSet) :
    SameUpToOrder (.cyclic xs) (.cyclic xs)
| unbound
    (xs : VarSet)
    {fs gs : List Fragment} :
    fs.Perm gs →
    SameUpToOrder (.unbound xs fs) (.unbound xs gs)

end PlanningError

namespace Stall

/- The missing variables do not depend on the order of fragments. -/
theorem missing_eq_of_perm
    {bound : VarSet}
    {fs gs : List Fragment}
    (h : fs.Perm gs) :
    missing bound fs = missing bound gs := by
  apply SortedSet.ext
  intro x
  simp only [missing, SortedSet.mem_ofList, List.mem_flatMap, h.mem_iff]

/- The diagnosis of a stall does not depend on the order of fragments. -/
theorem diagnose_of_perm
    {bound : VarSet}
    {fs gs : List Fragment}
    (h : fs.Perm gs) :
    (diagnose bound fs).SameUpToOrder (diagnose bound gs) := by
  have hWaits : ∀ e, e ∈ waits bound fs ↔ e ∈ waits bound gs := by
    intro e
    simp only [waits, List.mem_flatMap, h.mem_iff]
  unfold diagnose
  rw [WaitGraph.leastCycle?_eq_of_mem_iff hWaits, missing_eq_of_perm h]
  split
  · exact .cyclic _
  · exact .unbound _ h

end Stall

end TraversalPlanner
