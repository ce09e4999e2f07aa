import TraversalPlanner.Plan.CostModel
import TraversalPlanner.Proofs.Number.ShortestDecimal

/-
  What binding variables does to estimated costs, if they are
  computed without rounding.  A fragment that is followed from a
  bound start costs its fan-out; from an unbound one it costs a
  scan, or what an index yields for a value.  So binding pays as
  far as every fan-out is below its scan, and an index yields
  more than one resource.  The cardinalities of a usable model
  are positive, which does not imply either.

  Main declarations:
    * `Binary64.toRat`, `CostModel.exact`
    * `CostModel.fanOuts`
    * `CostModel.Rewards`, `CostModel.IsAntitone`
    * `CostModel.rewards_iff`
    * `CostModel.isAntitone_iff`
    * `CostModel.rewards_iff_of_usable`
    * `CostModel.exists_dearer_anchors`
-/

namespace TraversalPlanner

------------------------------------------------------------
-- Models Without Rounding
------------------------------------------------------------

namespace Binary64

/- The rational number that a finite number stands for. -/
def toRat (x : Binary64) : ℚ :=
  x.signedQuanta / quantaPerOne

/- A positive number stands for a positive rational number. -/
theorem toRat_pos
    {x : Binary64}
    (h : x.isPositive = true) :
    0 < x.toRat := by
  simp only [isPositive, Bool.and_eq_true, Bool.not_eq_true'] at h
  rcases h with ⟨⟨_, hSign⟩, hZero⟩
  have hMagnitude : 0 < x.magnitude :=
    Nat.pos_of_ne_zero (by simpa [isZero] using hZero)
  have hSigned : x.signedQuanta = (x.quanta : Int) := by
    unfold signedQuanta
    rw [hSign]
    rfl
  unfold toRat
  rw [hSigned, Int.cast_natCast]
  apply div_pos
  · exact Nat.cast_pos.mpr (quanta_pos hMagnitude)
  · apply Nat.cast_pos.mpr
    unfold quantaPerOne
    exact twoTo_pos 1074

end Binary64

namespace CostModel

/- The model that estimates costs without rounding. -/
def exact (m : CostModel Binary64) : CostModel ℚ :=
  m.map Binary64.toRat

/- All cardinalities of a model are positive. -/
def IsPositive (m : CostModel ℚ) : Prop :=
  ∀ c ∈ m.constants, 0 < c.2

/- A usable model has positive cardinalities. -/
theorem isPositive_exact
    {m : CostModel Binary64}
    (h : m.fault? = none) :
    m.exact.IsPositive := by
  have hEach : ∀ c ∈ m.constants, c.2.isPositive = true := by
    simpa [fault?] using h
  have hConstants :
      m.exact.constants =
        m.constants.map fun c => (c.1, c.2.toRat) := rfl
  intro c hc
  rw [hConstants] at hc
  rcases List.mem_map.mp hc with ⟨d, hd, rfl⟩
  exact Binary64.toRat_pos (hEach d hd)

end CostModel

------------------------------------------------------------
-- Bound and Unbound Starts
------------------------------------------------------------

namespace FragmentKind

/- The kind finds its concept by a label or an identifier. -/
def isLookup : FragmentKind → Bool
| .filter (.label _) => true
| .filter (.id _) => true
| _ => false

/- The kind finds resources by their value. -/
def isIndexed : FragmentKind → Bool
| .filter (.value p) => p.isIndexable
| _ => false

end FragmentKind

namespace CostModel

variable (m : CostModel ℚ)

/- A lookup costs the same from every start. -/
theorem kindCost_of_isLookup
    (anchored : Bool)
    {k : FragmentKind}
    (h : k.isLookup = true) :
    m.kindCost anchored k = 1 := by
  unfold FragmentKind.isLookup at h
  split at h
  · rfl
  · rfl
  · cases h

/-
  From a bound start, any other kind costs its fan-out, and from
  an unbound one a scan, unless an index finds the value.
-/
theorem kindCost_of_not_isLookup
    (anchored : Bool)
    {k : FragmentKind}
    (h : k.isLookup = false) :
    m.kindCost anchored k =
      if anchored then
        m.fanOut k
      else if k.isIndexed then
        m.resourcesPerValue
      else
        m.scan (m.fanOut k) := by
  cases k with
  | filter f =>
      cases f with
      | label l => cases h
      | id i => cases h
      | value p => rfl
      | dataType t => rfl
      | isAbstract => rfl
      | regex r => rfl
  | neq => rfl
  | step e d => rfl
  | casting role d => rfl

/- What it costs from a bound start. -/
theorem kindCost_true
    {k : FragmentKind}
    (h : k.isLookup = false) :
    m.kindCost true k = m.fanOut k :=
  m.kindCost_of_not_isLookup true h

/- What it costs from an unbound start. -/
theorem kindCost_false
    {k : FragmentKind}
    (h : k.isLookup = false) :
    m.kindCost false k =
      if k.isIndexed then m.resourcesPerValue else m.scan (m.fanOut k) :=
  m.kindCost_of_not_isLookup false h

/- A value that an index finds has the fan-out of a filter. -/
theorem fanOut_of_isIndexed
    {k : FragmentKind}
    (h : k.isIndexed = true) :
    m.fanOut k = 1 := by
  unfold FragmentKind.isIndexed at h
  split at h
  · rfl
  · cases h

------------------------------------------------------------
-- Fan-Outs
------------------------------------------------------------

/- The fan-outs that fragments can have. -/
def fanOuts : List ℚ :=
  [1, m.instancesPerType, m.subtypesPerType, m.rolePlayersPerRelation,
    m.rolesPerType, m.typesPerRole, m.castingsPerInstance,
    m.relationsPerCasting, m.rolePlayersPerRole, m.relationsPerInstance]

/- The fan-out of a kind is among them. -/
theorem fanOut_mem_fanOuts (k : FragmentKind) :
    m.fanOut k ∈ m.fanOuts := by
  unfold fanOut fanOuts
  split <;> simp

variable {m}

/- Each of them is the fan-out of a kind that needs a scan. -/
theorem exists_kind_of_mem_fanOuts
    {r : ℚ}
    (h : r ∈ m.fanOuts) :
    ∃ k : FragmentKind,
      k.isLookup = false ∧ k.isIndexed = false ∧ m.fanOut k = r := by
  simp only [fanOuts, List.mem_cons, List.not_mem_nil, or_false] at h
  rcases h with rfl | rfl | rfl | rfl | rfl | rfl | rfl | rfl | rfl | rfl
  · exact ⟨.neq, rfl, rfl, rfl⟩
  · exact ⟨.step .isa .inward, rfl, rfl, rfl⟩
  · exact ⟨.step .sub .outward, rfl, rfl, rfl⟩
  · exact ⟨.step .relates .outward, rfl, rfl, rfl⟩
  · exact ⟨.step .plays .outward, rfl, rfl, rfl⟩
  · exact ⟨.step .plays .inward, rfl, rfl, rfl⟩
  · exact ⟨.step (.has "") .outward, rfl, rfl, rfl⟩
  · exact ⟨.step (.has "") .inward, rfl, rfl, rfl⟩
  · exact ⟨.casting (some "") .outward, rfl, rfl, rfl⟩
  · exact ⟨.casting none .inward, rfl, rfl, rfl⟩

/- The fan-outs of a model with positive cardinalities are positive. -/
theorem IsPositive.pos_of_mem_fanOuts
    (h : m.IsPositive)
    {r : ℚ}
    (hr : r ∈ m.fanOuts) :
    0 < r := by
  simp only [IsPositive, constants, List.mem_cons, List.not_mem_nil,
    or_false, forall_eq_or_imp, forall_eq] at h
  rcases h with ⟨hInstances, _, hRelations, hSubtypes, hCastings, _,
    hTypes, hRoles, hPlayers, hRolePlayers, _⟩
  have hRelated : 0 < m.relationsPerInstance :=
    mul_pos hRelations hCastings
  simp only [fanOuts, List.mem_cons, List.not_mem_nil, or_false] at hr
  rcases hr with rfl | rfl | rfl | rfl | rfl | rfl | rfl | rfl | rfl | rfl
  all_goals first | assumption | exact one_pos

/-
  If there is at least one instance of every type, each fan-out
  is below its scan.
-/
theorem IsPositive.lt_scan
    (h : m.IsPositive)
    (hInstances : 1 ≤ m.instancesPerType)
    {r : ℚ}
    (hr : r ∈ m.fanOuts) :
    r < m.scan r := by
  have hPos := h.pos_of_mem_fanOuts hr
  calc r
      < 1 * (1 + r) := by linarith
    _ ≤ m.instancesPerType * (1 + r) :=
        mul_le_mul_of_nonneg_right hInstances (by linarith)

------------------------------------------------------------
-- Binding Variables
------------------------------------------------------------

/- A fragment gets cheaper whenever its start becomes bound. -/
def Rewards
    (m : CostModel ℚ)
    (f : Fragment) : Prop :=
  ∀ bound : VarSet, f.start ∉ bound →
    m.cost (bound.insert f.start) f < m.cost bound f

/- No fragment gets dearer when more variables are bound. -/
def IsAntitone (m : CostModel ℚ) : Prop :=
  ∀ (f : Fragment) (bound bound' : VarSet),
    (∀ x ∈ bound, x ∈ bound') → m.cost bound' f ≤ m.cost bound f

/- Binding one more variable does not make a fragment dearer. -/
theorem IsAntitone.cost_insert_le
    (h : m.IsAntitone)
    (f : Fragment)
    (bound : VarSet)
    (x : Var) :
    m.cost (bound.insert x) f ≤ m.cost bound f :=
  h f bound (bound.insert x)
    fun _ hx => SortedSet.mem_insert.mpr (Or.inr hx)

/- What a fragment costs when its start is bound. -/
theorem cost_of_mem
    {f : Fragment}
    {bound : VarSet}
    (h : f.start ∈ bound) :
    m.cost bound f = m.kindCost true f.kind := by
  unfold cost
  rw [decide_eq_true h]

/- What a fragment costs when its start is not bound. -/
theorem cost_of_not_mem
    {f : Fragment}
    {bound : VarSet}
    (h : f.start ∉ bound) :
    m.cost bound f = m.kindCost false f.kind := by
  unfold cost
  rw [decide_eq_false h]

/- Binding its start changes how a fragment is followed. -/
theorem rewards_iff_kindCost_lt
    {f : Fragment} :
    m.Rewards f ↔ m.kindCost true f.kind < m.kindCost false f.kind := by
  have hBound : ∀ bound : VarSet, f.start ∈ bound.insert f.start :=
    fun bound => SortedSet.mem_insert.mpr (Or.inl rfl)
  constructor
  · intro h
    have hEmpty := h .empty SortedSet.not_mem_empty
    rwa [cost_of_mem (hBound _), cost_of_not_mem SortedSet.not_mem_empty]
      at hEmpty
  · intro h bound hStart
    rwa [cost_of_mem (hBound _), cost_of_not_mem hStart]

/- When binding its start makes a fragment cheaper. -/
theorem rewards_iff
    {f : Fragment}
    (h : f.kind.isLookup = false) :
    m.Rewards f ↔
      if f.kind.isIndexed then
        1 < m.resourcesPerValue
      else
        m.fanOut f.kind < m.scan (m.fanOut f.kind) := by
  rw [rewards_iff_kindCost_lt, kindCost_true m h, kindCost_false m h]
  split
  · rename_i hIndexed
    rw [fanOut_of_isIndexed m hIndexed]
  · rfl

/-
  No fragment gets dearer by bound variables if none does by its
  bound start.
-/
theorem isAntitone_iff_kindCost_le :
    m.IsAntitone ↔
      ∀ f : Fragment, m.kindCost true f.kind ≤ m.kindCost false f.kind := by
  constructor
  · intro h f
    have hBound : f.start ∈ SortedSet.empty.insert f.start :=
      SortedSet.mem_insert.mpr (Or.inl rfl)
    have hLe := h.cost_insert_le f .empty f.start
    rwa [cost_of_mem hBound, cost_of_not_mem SortedSet.not_mem_empty] at hLe
  · intro h f bound bound' hSubset
    by_cases hStart : f.start ∈ bound
    · rw [cost_of_mem hStart, cost_of_mem (hSubset _ hStart)]
    · rw [cost_of_not_mem hStart]
      by_cases hStart' : f.start ∈ bound'
      · rw [cost_of_mem hStart']
        exact h f
      · rw [cost_of_not_mem hStart']

/- Every kind is that of a fragment. -/
theorem exists_fragment_of_kind (k : FragmentKind) :
    ∃ f : Fragment, f.kind = k := by
  cases k with
  | filter φ => exact ⟨.filter φ ⟨"x"⟩, rfl⟩
  | neq => exact ⟨.neq ⟨"x"⟩ ⟨"y"⟩, rfl⟩
  | step e d => exact ⟨.step e d ⟨"x"⟩ ⟨"y"⟩, rfl⟩
  | casting role d => exact ⟨.casting role none d ⟨"x"⟩ ⟨"y"⟩, rfl⟩

/- An index finds the values that are equal to a literal. -/
theorem exists_isIndexed :
    ∃ k : FragmentKind, k.isLookup = false ∧ k.isIndexed = true :=
  ⟨.filter (.value (.compare .eq (.value (.boolean true)))), rfl, rfl⟩

/-
  How the costs from bound and from unbound starts compare for all
  fragments that are not looked up: as one and what an index
  yields, and as each fan-out and its scan.
-/
theorem forall_kindCost_iff (P : ℚ → ℚ → Prop) :
    (∀ f : Fragment, f.kind.isLookup = false →
        P (m.kindCost true f.kind) (m.kindCost false f.kind)) ↔
      P 1 m.resourcesPerValue ∧ ∀ r ∈ m.fanOuts, P r (m.scan r) := by
  constructor
  · intro h
    constructor
    · rcases exists_isIndexed with ⟨k, hLookup, hIndexed⟩
      rcases exists_fragment_of_kind k with ⟨f, rfl⟩
      have hf := h f hLookup
      rwa [kindCost_true m hLookup, kindCost_false m hLookup,
        fanOut_of_isIndexed m hIndexed, if_pos hIndexed] at hf
    · intro r hr
      rcases exists_kind_of_mem_fanOuts hr
        with ⟨k, hLookup, hIndexed, rfl⟩
      rcases exists_fragment_of_kind k with ⟨f, rfl⟩
      have hf := h f hLookup
      rwa [kindCost_true m hLookup, kindCost_false m hLookup, hIndexed]
        at hf
  · rintro ⟨hValue, hScan⟩ f hLookup
    rw [kindCost_true m hLookup, kindCost_false m hLookup]
    split
    · rename_i hIndexed
      rw [fanOut_of_isIndexed m hIndexed]
      exact hValue
    · exact hScan _ (m.fanOut_mem_fanOuts f.kind)

/- When binding its start makes every fragment cheaper. -/
theorem forall_rewards_iff :
    (∀ f : Fragment, f.kind.isLookup = false → m.Rewards f) ↔
      1 < m.resourcesPerValue ∧ ∀ r ∈ m.fanOuts, r < m.scan r := by
  simp only [rewards_iff_kindCost_lt]
  exact forall_kindCost_iff (· < ·)

/- When bound variables make no fragment dearer. -/
theorem isAntitone_iff :
    m.IsAntitone ↔
      1 ≤ m.resourcesPerValue ∧ ∀ r ∈ m.fanOuts, r ≤ m.scan r := by
  rw [isAntitone_iff_kindCost_le, ← forall_kindCost_iff (· ≤ ·)]
  constructor
  · exact fun h f _ => h f
  · intro h f
    cases hLookup : f.kind.isLookup with
    | false => exact h f hLookup
    | true =>
        rw [kindCost_of_isLookup m true hLookup,
          kindCost_of_isLookup m false hLookup]

------------------------------------------------------------
-- Usable Models
------------------------------------------------------------

/-
  In a usable model, binding its start makes a fragment cheaper
  exactly if its fan-out is below its scan, or an index yields
  more than one resource of its value.  It does so for all
  fragments exactly if that holds for all fan-outs, and bound
  variables make no fragment dearer exactly if no fan-out exceeds
  its scan and an index yields a resource.  One instance of every
  type, and more than one resource of every value, are enough.
-/
theorem rewards_iff_of_usable
    {m : CostModel Binary64}
    (h : m.fault? = none) :
    (∀ f : Fragment, f.kind.isLookup = false →
      (m.exact.Rewards f ↔
        if f.kind.isIndexed then
          1 < m.exact.resourcesPerValue
        else
          m.exact.fanOut f.kind <
            m.exact.instancesPerType * (1 + m.exact.fanOut f.kind))) ∧
    ((∀ f : Fragment, f.kind.isLookup = false → m.exact.Rewards f) ↔
      1 < m.exact.resourcesPerValue ∧
        ∀ r ∈ m.exact.fanOuts,
          r < m.exact.instancesPerType * (1 + r)) ∧
    (m.exact.IsAntitone ↔
      1 ≤ m.exact.resourcesPerValue ∧
        ∀ r ∈ m.exact.fanOuts,
          r ≤ m.exact.instancesPerType * (1 + r)) ∧
    (1 ≤ m.exact.instancesPerType → 1 < m.exact.resourcesPerValue →
      (∀ f : Fragment, f.kind.isLookup = false → m.exact.Rewards f) ∧
        m.exact.IsAntitone) := by
  refine ⟨fun f hLookup => rewards_iff hLookup, forall_rewards_iff,
    isAntitone_iff, ?_⟩
  intro hInstances hResources
  have hScan : ∀ r ∈ m.exact.fanOuts, r < m.exact.scan r :=
    fun r hr => (isPositive_exact h).lt_scan hInstances hr
  constructor
  · exact forall_rewards_iff.mpr ⟨hResources, hScan⟩
  · exact isAntitone_iff.mpr
      ⟨hResources.le, fun r hr => (hScan r hr).le⟩

/- Binding its start pays for all fragments of the standard model. -/
theorem rewards_standard :
    standard.fault? = none ∧
      (∀ f : Fragment, f.kind.isLookup = false →
        standard.exact.Rewards f) ∧
      standard.exact.IsAntitone := by
  have hUsable : standard.fault? = none := by decide +kernel
  have hInstances : 1 ≤ standard.exact.instancesPerType := by
    decide +kernel
  have hResources : 1 < standard.exact.resourcesPerValue := by
    decide +kernel
  exact ⟨hUsable,
    (rewards_iff_of_usable hUsable).2.2.2 hInstances hResources⟩

/- A model with few instances, and few resources of each value. -/
def sparseModel : CostModel Binary64 :=
  { standard with
    instancesPerType := 1 / 4
    resourcesPerValue := 1 / 2 }

/- The type of a movie, and a resource with a value. -/
def sparseFragments : List Fragment :=
  [.step .isa .outward ⟨"x"⟩ ⟨"t"⟩,
   .filter (.value (.compare .eq (.value (.long 1)))) ⟨"x"⟩]

/-
  That model is usable, but its scans and its index cost less
  than following a fragment from its bound start.
-/
theorem exists_dearer_anchors :
    sparseModel.fault? = none ∧
      (∀ f ∈ sparseFragments,
        f.kind.isLookup = false ∧ ¬ sparseModel.exact.Rewards f ∧
          sparseModel.exact.cost .empty f = 1 / 2 ∧
          sparseModel.exact.cost (SortedSet.empty.insert f.start) f =
            1) ∧
      ¬ sparseModel.exact.IsAntitone := by
  have hCosts : ∀ f ∈ sparseFragments,
      f.kind.isLookup = false ∧
        sparseModel.exact.cost .empty f = 1 / 2 ∧
        sparseModel.exact.cost (SortedSet.empty.insert f.start) f =
          1 := by
    decide +kernel
  refine ⟨by decide +kernel, ?_, ?_⟩
  · intro f hf
    rcases hCosts f hf with ⟨hLookup, hBefore, hAfter⟩
    refine ⟨hLookup, fun hRewards => ?_, hBefore, hAfter⟩
    have hLt := hRewards .empty SortedSet.not_mem_empty
    rw [hBefore, hAfter] at hLt
    norm_num at hLt
  · intro hAntitone
    have hSome : ∃ f, f ∈ sparseFragments := ⟨_, List.mem_cons_self⟩
    rcases hSome with ⟨f, hf⟩
    rcases hCosts f hf with ⟨_, hBefore, hAfter⟩
    have hLe := hAntitone.cost_insert_le f .empty f.start
    rw [hBefore, hAfter] at hLe
    norm_num at hLe

end CostModel

end TraversalPlanner
