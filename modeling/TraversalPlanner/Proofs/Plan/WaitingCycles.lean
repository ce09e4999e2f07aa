import TraversalPlanner.Proofs.Plan.CandidateOrder
import TraversalPlanner.Proofs.Plan.WaitingVariables

/-
  Which cycle a graph of waiting variables reports.  Variables
  that reach each other form classes, and of the classes with two
  variables at least the one whose written names come first is
  taken.

  Main declarations:
    * `Var.Mutual`
    * `VarSet.IsCycle`, `VarSet.NotAfter`
    * `WaitGraph.mem_classes_iff`
    * `WaitGraph.leastCycle?_eq_none_iff`
    * `WaitGraph.isCycle_of_leastCycle?`
-/

namespace TraversalPlanner

------------------------------------------------------------
-- Variables that Reach Each Other
------------------------------------------------------------

/- Each of two variables can be reached from the other one. -/
def Var.Mutual
    (R : Var → Var → Prop)
    (x y : Var) : Prop :=
  Relation.ReflTransGen R x y ∧ Relation.ReflTransGen R y x

namespace Var.Mutual

variable
  {R : Var → Var → Prop}
  {x y z : Var}

/- A variable is mutual with itself. -/
theorem refl
    (R : Var → Var → Prop)
    (x : Var) :
    Mutual R x x :=
  ⟨.refl, .refl⟩

/- Two mutual variables can be exchanged. -/
theorem symm
    (h : Mutual R x y) :
    Mutual R y x :=
  ⟨h.2, h.1⟩

/- Variables that are mutual with one are mutual with each other. -/
theorem trans
    (hxy : Mutual R x y)
    (hyz : Mutual R y z) :
    Mutual R x z :=
  ⟨hxy.1.trans hyz.1, hyz.2.trans hxy.2⟩

end Var.Mutual

/-
  A set holds all variables that are mutual with one of them, and
  they are two at least.
-/
structure VarSet.IsCycle
    (R : Var → Var → Prop)
    (s : VarSet) : Prop where
  whole : ∃ x, ∀ y, y ∈ s ↔ Var.Mutual R x y
  two : ∃ x ∈ s, ∃ y ∈ s, x ≠ y

------------------------------------------------------------
-- Written Variables in Order
------------------------------------------------------------

namespace Var

/- Written variables are ordered like the variables. -/
theorem render_lt_iff
    {x y : Var} :
    x.render < y.render ↔ KeyOrder.before x y = true := by
  have hNames : KeyOrder.before x y = decide (x.name < y.name) := rfl
  rw [hNames, decide_eq_true_eq]
  unfold render
  rw [String.lt_iff, String.lt_iff, String.toList_append,
    String.toList_append]
  simp only [String.reduceToList, List.cons_append, List.nil_append,
    List.cons_lt_cons_self]

/- Only a variable itself is written like it. -/
theorem render_inj
    {x y : Var} :
    x.render = y.render ↔ x = y := by
  constructor
  · intro h
    apply KeyOrder.eq_of_not_before
    · rw [← Bool.not_eq_true, ← render_lt_iff, h]
      exact String.lt_irrefl _
    · rw [← Bool.not_eq_true, ← render_lt_iff, h]
      exact String.lt_irrefl _
  · exact congrArg render

end Var

namespace VarSet

/- The written elements of a set are sorted and do not repeat. -/
theorem pairwise_render (s : VarSet) :
    s.render.Pairwise (· < ·) := by
  unfold render
  rw [List.pairwise_map]
  apply s.sorted.imp
  intro x y h
  exact Var.render_lt_iff.mpr h

/- One set is not written after another one. -/
def NotAfter (s t : VarSet) : Prop :=
  ¬ List.Lex (fun x y : String => x < y) t.render s.render

/- No set is written after itself. -/
theorem NotAfter.refl (s : VarSet) :
    s.NotAfter s :=
  List.lex_irrefl String.lt_irrefl s.render

/- The order in which sets are written is transitive. -/
theorem NotAfter.trans
    {s t u : VarSet}
    (hst : s.NotAfter t)
    (htu : t.NotAfter u) :
    s.NotAfter u :=
  List.not_lex_lt.mpr
    (List.le_trans (List.not_lex_lt.mp hst) (List.not_lex_lt.mp htu))

/- A set with more than one element has two different ones. -/
theorem one_lt_size_iff
    {s : VarSet} :
    1 < s.size ↔ ∃ x ∈ s, ∃ y ∈ s, x ≠ y := by
  have hSorted := s.sorted
  simp only [SortedSet.size, SortedSet.mem_def]
  cases hList : s.toList with
  | nil => simp
  | cons x xs =>
      cases xs with
      | nil => simp
      | cons y ys =>
          rw [hList] at hSorted
          have hxy : x ≠ y := KeyOrder.ne_of_before
            ((List.pairwise_cons.mp hSorted).1 y List.mem_cons_self)
          simp only [List.length_cons]
          constructor
          · intro _
            exact ⟨x, List.mem_cons_self, y,
              List.mem_cons_of_mem x List.mem_cons_self, hxy⟩
          · intro _
            omega

end VarSet

------------------------------------------------------------
-- Classes
------------------------------------------------------------

namespace WaitGraph

open Greedy

/- An edge of a graph. -/
def Edge
    (g : WaitGraph)
    (x y : Var) : Prop :=
  (x, y) ∈ g

/- Two variables are mutual if the other one is reachable from each. -/
theorem mutual_iff
    {g : WaitGraph}
    {x y : Var} :
    Var.Mutual g.Edge x y ↔ y ∈ g.reachable x ∧ x ∈ g.reachable y := by
  rw [mem_reachable_iff, mem_reachable_iff]
  exact Iff.rfl

/- A variable with an edge is a vertex. -/
theorem mem_vertices_iff
    {g : WaitGraph}
    {x : Var} :
    x ∈ g.vertices ↔ ∃ e ∈ g, x = e.1 ∨ x = e.2 := by
  unfold vertices
  rw [← SortedSet.mem_def, SortedSet.mem_ofList]
  simp

/- Whatever is mutual with a vertex is one. -/
theorem mem_vertices_of_mutual
    {g : WaitGraph}
    {x y : Var}
    (hx : x ∈ g.vertices)
    (h : Var.Mutual g.Edge x y) :
    y ∈ g.vertices := by
  rcases Relation.ReflTransGen.cases_tail h.1 with hEq | ⟨z, _, hEdge⟩
  · rw [hEq]
    exact hx
  · exact mem_vertices_iff.mpr ⟨_, hEdge, Or.inr rfl⟩

/- Two different mutual variables are vertices. -/
theorem mem_vertices_of_mutual_of_ne
    {g : WaitGraph}
    {x y : Var}
    (h : Var.Mutual g.Edge x y)
    (hNe : x ≠ y) :
    x ∈ g.vertices := by
  rcases Relation.ReflTransGen.cases_tail h.2 with hEq | ⟨z, _, hEdge⟩
  · exact absurd hEq hNe
  · exact mem_vertices_iff.mpr ⟨_, hEdge, Or.inr rfl⟩

/- The class of a vertex. -/
def classOf
    (g : WaitGraph)
    (x : Var) : VarSet :=
  SortedSet.ofList
    ((g.reachability.filter fun e =>
        decide (e.1 ∈ g.reachable x ∧ x ∈ e.2)).map Prod.fst)

/- The class of a vertex holds all that is mutual with it. -/
theorem mem_classOf_iff
    {g : WaitGraph}
    {x y : Var}
    (hx : x ∈ g.vertices) :
    y ∈ g.classOf x ↔ Var.Mutual g.Edge x y := by
  rw [mutual_iff]
  unfold classOf reachability
  rw [SortedSet.mem_ofList]
  simp only [List.mem_map, List.mem_filter, decide_eq_true_eq]
  constructor
  · rintro ⟨e, ⟨⟨z, _, rfl⟩, hReach⟩, rfl⟩
    exact hReach
  · intro h
    have hy : y ∈ g.vertices :=
      mem_vertices_of_mutual hx (mutual_iff.mpr h)
    exact ⟨(y, g.reachable y), ⟨⟨y, hy, rfl⟩, h⟩, rfl⟩

/- The classes are those of the vertices. -/
theorem classes_eq (g : WaitGraph) :
    g.classes = g.vertices.map g.classOf := by
  unfold classes
  simp only [reachability, List.map_map]
  rfl

/- The classes with two variables at least are the cycles. -/
theorem mem_classes_iff
    {g : WaitGraph}
    {s : VarSet} :
    s ∈ g.classes.filter (fun s => decide (1 < s.size)) ↔
      s.IsCycle g.Edge := by
  rw [List.mem_filter, decide_eq_true_eq, VarSet.one_lt_size_iff,
    classes_eq, List.mem_map]
  constructor
  · rintro ⟨⟨x, hx, rfl⟩, hTwo⟩
    exact ⟨⟨x, fun y => mem_classOf_iff hx⟩, hTwo⟩
  · rintro ⟨⟨x, hWhole⟩, y, hy, z, hz, hNe⟩
    -- two different variables of the class make the first one a vertex
    have hx : x ∈ g.vertices := by
      by_cases hxy : x = y
      · apply mem_vertices_of_mutual_of_ne ((hWhole z).mp hz)
        rw [hxy]
        exact hNe
      · exact mem_vertices_of_mutual_of_ne ((hWhole y).mp hy) hxy
    refine ⟨⟨x, hx, ?_⟩, y, hy, z, hz, hNe⟩
    apply SortedSet.ext
    intro c
    rw [mem_classOf_iff hx, hWhole]

/- There is a cycle exactly if two different variables are mutual. -/
theorem exists_isCycle_iff
    {g : WaitGraph} :
    (∃ s : VarSet, s.IsCycle g.Edge) ↔
      ∃ x y, x ≠ y ∧ Var.Mutual g.Edge x y := by
  constructor
  · rintro ⟨s, ⟨x, hWhole⟩, y, hy, z, hz, hNe⟩
    exact ⟨y, z, hNe,
      ((hWhole y).mp hy).symm.trans ((hWhole z).mp hz)⟩
  · rintro ⟨x, y, hNe, hMutual⟩
    have hx := mem_vertices_of_mutual_of_ne hMutual hNe
    refine ⟨g.classOf x, ⟨x, fun z => mem_classOf_iff hx⟩, ?_⟩
    exact ⟨x, (mem_classOf_iff hx).mpr (.refl g.Edge x), y,
      (mem_classOf_iff hx).mpr hMutual, hNe⟩

------------------------------------------------------------
-- The Least Cycle
------------------------------------------------------------

/- Lists of variables are ordered like their written names. -/
theorem listBefore_iff :
    ∀ xs ys : List Var,
      listBefore xs ys = true ↔
        List.Lex (fun x y : String => x < y) (xs.map Var.render)
          (ys.map Var.render)
| xs, [] => by
    simp [listBefore]
| [], y :: ys => by
    simp [listBefore]
| x :: xs, y :: ys => by
    simp only [listBefore, Bool.or_eq_true, Bool.and_eq_true,
      decide_eq_true_eq, List.map_cons, List.cons_lex_cons_iff,
      Var.render_lt_iff, Var.render_inj, listBefore_iff xs ys]

/-
  The lesser one of two sets is one of them, and is not written
  after either.
-/
theorem lesser_notAfter (s t : VarSet) :
    (lesser s t = s ∨ lesser s t = t) ∧
      (lesser s t).NotAfter s ∧ (lesser s t).NotAfter t := by
  unfold lesser
  split
  · rename_i h
    refine ⟨Or.inr rfl, ?_, .refl t⟩
    exact List.lex_asymm String.lt_asymm ((listBefore_iff _ _).mp h)
  · rename_i h
    rw [listBefore_iff] at h
    exact ⟨Or.inl rfl, .refl s, h⟩

/- No cycle is reported exactly if there is none. -/
theorem leastCycle?_eq_none_iff
    {g : WaitGraph} :
    g.leastCycle? = none ↔ ∀ s : VarSet, ¬ s.IsCycle g.Edge := by
  unfold leastCycle?
  simp only [← mem_classes_iff]
  rw [← List.eq_nil_iff_forall_not_mem]
  split
  · rename_i hNone
    simp [hNone]
  · rename_i hSome
    simp [hSome]

/- The reported cycle is the first one by its written names. -/
theorem isCycle_of_leastCycle?
    {g : WaitGraph}
    {s : VarSet}
    (h : g.leastCycle? = some s) :
    s.IsCycle g.Edge ∧
      ∀ t : VarSet, t.IsCycle g.Edge → s.NotAfter t := by
  unfold leastCycle? at h
  simp only [← mem_classes_iff]
  split at h
  · cases h
  · rename_i r rs hClasses
    rw [hClasses, ← Option.some.inj h]
    exact foldl_pick VarSet.NotAfter .refl (fun _ _ _ => .trans)
      lesser_notAfter r rs

end WaitGraph

end TraversalPlanner
