import TraversalPlanner.Cache.PlanCache

/-
  What a plan cache holds.  If every plan that is compiled for a
  key is right for that key, every plan in the cache is right for
  the key of its entry, whatever is requested, dropped and filled
  in between.

  Main declarations:
    * `PlanCache.Holds`
    * `PlanCache.Holds.request`
    * `PlanCache.Holds.fill`
    * `PlanCache.Holds.settle`
    * `PlanCache.Holds.getOrCompile`
    * `PlanCache.getOrCompile_of_disabled`
-/

namespace TraversalPlanner

namespace PlanCache

variable {Φ : Type} {P : PlanKey Φ → Plan → Prop}

------------------------------------------------------------
-- Right Plans
------------------------------------------------------------

/-
  Every plan of a cache is right for the key of its entry.  A
  cell belongs to one key, and new cells have other numbers.
-/
structure Holds
    (P : PlanKey Φ → Plan → Prop)
    (c : PlanCache Φ) : Prop where
  right :
    ∀ e ∈ c.entries, ∀ plan, e.content = some plan → P e.key plan.plan
  key_eq :
    ∀ e ∈ c.entries, ∀ f ∈ c.entries, e.cell = f.cell → e.key = f.key
  cell_lt : ∀ e ∈ c.entries, e.cell < c.nextCell

namespace Holds

/- An empty cache holds right plans only. -/
theorem empty (config : CacheConfig) :
    Holds P (PlanCache.empty config) where
  right := by
    intro e he
    cases he
  key_eq := by
    intro e he
    cases he
  cell_lt := by
    intro e he
    cases he

/- Dropping entries keeps the others right. -/
theorem of_subset
    {c d : PlanCache Φ}
    (h : Holds P c)
    (hEntries : d.entries ⊆ c.entries)
    (hCell : d.nextCell = c.nextCell) :
    Holds P d where
  right := fun e he => h.right e (hEntries he)
  key_eq := fun e he f hf => h.key_eq e (hEntries he) f (hEntries hf)
  cell_lt := by
    intro e he
    rw [hCell]
    exact h.cell_lt e (hEntries he)

/- Dropping the least recent entry keeps the others right. -/
theorem evict
    {c : PlanCache Φ}
    (h : Holds P c) :
    Holds P c.evict := by
  unfold PlanCache.evict
  split
  · exact h
  · rename_i e rest hEntries
    refine h.of_subset ?_ rfl
    rw [hEntries]
    exact List.subset_cons_self e rest

/- Making room keeps the other entries right. -/
theorem makeRoom
    {c : PlanCache Φ}
    (h : Holds P c) :
    Holds P c.makeRoom := by
  unfold PlanCache.makeRoom
  split
  · exact h.evict
  · exact h

/- Counting a request that found a plan. -/
theorem countHit
    {c : PlanCache Φ}
    (h : Holds P c) :
    Holds P c.countHit :=
  h.of_subset (List.Subset.refl _) rfl

/- Counting a request that found no plan. -/
theorem countMiss
    {c : PlanCache Φ}
    (h : Holds P c) :
    Holds P c.countMiss :=
  h.of_subset (List.Subset.refl _) rfl

/- Counting a plan that was compiled. -/
theorem countCompilation
    {c : PlanCache Φ}
    (h : Holds P c)
    (plan : Plan) :
    Holds P (c.countCompilation plan).2 :=
  h.of_subset (List.Subset.refl _) rfl

/- Dropping all entries. -/
theorem clear
    {c : PlanCache Φ}
    (h : Holds P c) :
    Holds P c.clear :=
  h.of_subset (List.nil_subset _) rfl

/- Dropping the entries for older schemas keeps the others right. -/
theorem invalidate
    {c : PlanCache Φ}
    (h : Holds P c)
    (version : UInt64) :
    Holds P (c.invalidate version).2 :=
  h.of_subset List.filter_sublist.subset rfl

/- A new empty cell keeps the entries right. -/
theorem addCell
    {c : PlanCache Φ}
    (h : Holds P c)
    (key : PlanKey Φ) :
    Holds P (c.addCell key).2 where
  right := by
    intro e he plan hPlan
    rcases List.mem_append.mp he with he | he
    · exact h.right e he plan hPlan
    · rw [List.mem_singleton.mp he] at hPlan
      cases hPlan
  key_eq := by
    intro e he f hf hCell
    rcases List.mem_append.mp he with he | he
    · rcases List.mem_append.mp hf with hf | hf
      · exact h.key_eq e he f hf hCell
      · -- the new cell has a number of its own
        have hLt := h.cell_lt e he
        rw [hCell, List.mem_singleton.mp hf] at hLt
        exact absurd hLt (Nat.lt_irrefl _)
    · rcases List.mem_append.mp hf with hf | hf
      · have hLt := h.cell_lt f hf
        rw [← hCell, List.mem_singleton.mp he] at hLt
        exact absurd hLt (Nat.lt_irrefl _)
      · rw [List.mem_singleton.mp he, List.mem_singleton.mp hf]
  cell_lt := by
    intro e he
    rcases List.mem_append.mp he with he | he
    · exact Nat.lt_succ_of_lt (h.cell_lt e he)
    · rw [List.mem_singleton.mp he]
      exact Nat.lt_succ_self _

/- Filling the cell of a key with a right plan keeps plans right. -/
theorem fill
    {c : PlanCache Φ}
    (h : Holds P c)
    {e : CacheEntry Φ}
    (he : e ∈ c.entries)
    {plan : CompiledPlan}
    (hPlan : P e.key plan.plan) :
    Holds P (c.fill e.cell plan) := by
  -- every entry comes from one with the same key and cell
  have hSource : ∀ f ∈ (c.fill e.cell plan).entries,
      ∃ g ∈ c.entries, f.key = g.key ∧ f.cell = g.cell ∧
        (f.content = g.content ∨
          g.cell = e.cell ∧ f.content = some plan) := by
    intro f hf
    rcases List.mem_map.mp hf with ⟨g, hg, rfl⟩
    by_cases hCell : g.cell = e.cell
    · rw [if_pos hCell]
      exact ⟨g, hg, rfl, rfl, Or.inr ⟨hCell, rfl⟩⟩
    · rw [if_neg hCell]
      exact ⟨g, hg, rfl, rfl, Or.inl rfl⟩
  constructor
  · intro f hf p hp
    rcases hSource f hf with ⟨g, hg, hKey, _, hSame | ⟨hCell, hFilled⟩⟩
    · rw [hKey]
      rw [hSame] at hp
      exact h.right g hg p hp
    · rw [hFilled] at hp
      cases hp
      rw [hKey, h.key_eq g hg e he hCell]
      exact hPlan
  · intro f hf f' hf' hCell
    rcases hSource f hf with ⟨g, hg, hKey, hCellEq, _⟩
    rcases hSource f' hf' with ⟨g', hg', hKey', hCellEq', _⟩
    rw [hKey, hKey']
    apply h.key_eq g hg g' hg'
    rw [← hCellEq, hCell, hCellEq']
  · intro f hf
    rcases hSource f hf with ⟨g, hg, _, hCellEq, _⟩
    rw [hCellEq]
    exact h.cell_lt g hg

/- Filling any cell keeps plans right that may be any. -/
theorem fill_any
    {c : PlanCache Φ}
    (h : Holds (fun _ _ => True) c)
    (cell : Nat)
    (plan : CompiledPlan) :
    Holds (fun _ _ => True) (c.fill cell plan) := by
  by_cases hCell : ∃ e ∈ c.entries, e.cell = cell
  · rcases hCell with ⟨e, he, rfl⟩
    exact h.fill he trivial
  · -- the cache has no such cell, and stays as it is
    refine h.of_subset ?_ rfl
    intro f hf
    rcases List.mem_map.mp hf with ⟨e, he, rfl⟩
    rw [if_neg (fun hEq => hCell ⟨e, he, hEq⟩)]
    exact he

/-
  An attempt to compile a plan keeps the entries right.  It comes
  to its own result.
-/
theorem conclude
    {c : PlanCache Φ}
    {E Ω : Type}
    (h : Holds P c)
    (result : Except E Plan)
    (report : Ω) :
    Holds P (PlanCache.conclude ⟨result, report, c⟩).cache ∧
      (PlanCache.conclude ⟨result, report, c⟩).result.map
          CompiledPlan.plan =
        result := by
  cases result with
  | error e => exact ⟨h, rfl⟩
  | ok plan => exact ⟨h.countCompilation plan, rfl⟩

------------------------------------------------------------
-- Requests
------------------------------------------------------------

section Keyed

variable [DecidableEq Φ]

/-
  A request keeps the entries right.  It yields an entry of its
  key, which the cache has from then on.
-/
theorem request
    {c : PlanCache Φ}
    (h : Holds P c)
    (key : PlanKey Φ) :
    Holds P (c.request key).2 ∧
      (c.request key).1 ∈ (c.request key).2.entries ∧
      (c.request key).1.key = key := by
  unfold PlanCache.request
  split
  · rename_i e hFind
    have hMem : e ∈ c.entries := List.mem_of_find?_eq_some hFind
    have hKey : e.key = key := by
      have hTest := List.find?_some hFind
      simpa using hTest
    refine ⟨?_, List.mem_append_right _ List.mem_cons_self, hKey⟩
    refine h.of_subset ?_ rfl
    intro f hf
    rcases List.mem_append.mp hf with hf | hf
    · exact (List.mem_filter.mp hf).1
    · rw [List.mem_singleton.mp hf]
      exact hMem
  · exact ⟨h.makeRoom.addCell key,
      List.mem_append_right _ List.mem_cons_self, rfl⟩

/- A failed attempt keeps the entries of other cells right. -/
theorem abandon
    {c : PlanCache Φ}
    (h : Holds P c)
    (key : PlanKey Φ)
    (cell : Nat) :
    Holds P (c.abandon key cell) :=
  h.of_subset List.filter_sublist.subset rfl

------------------------------------------------------------
-- Compilation on Demand
------------------------------------------------------------

/-
  Settling a request for a cell keeps the entries right, if the
  plan that was compiled is right for the key of the cell.
-/
theorem settle
    {c : PlanCache Φ}
    {E Ω : Type}
    (h : Holds P c)
    {e : CacheEntry Φ}
    (he : e ∈ c.entries)
    (key : PlanKey Φ)
    (result : Except E Plan)
    (report : Ω)
    (hResult : ∀ plan, result = .ok plan → P e.key plan) :
    Holds P
        (PlanCache.settle key e.cell
          (PlanCache.conclude ⟨result, report, c⟩)).cache ∧
      (PlanCache.settle key e.cell
          (PlanCache.conclude ⟨result, report, c⟩)).result.map
            CompiledPlan.plan =
        result := by
  cases result with
  | error err => exact ⟨h.countMiss.abandon key e.cell, rfl⟩
  | ok plan =>
      have hFilled :
          Holds P
            ((c.countCompilation plan).2.fill e.cell
              (c.countCompilation plan).1) :=
        (h.countCompilation plan).fill he (hResult plan rfl)
      exact ⟨hFilled.countMiss, rfl⟩

/-
  A request for a plan keeps plans right, if a new plan for its
  key is right.  It yields what the attempt to compile comes to,
  or a right plan.
-/
theorem getOrCompile
    {c : PlanCache Φ}
    {E Ω : Type}
    (h : Holds P c)
    (key : PlanKey Φ)
    (result : Except E Plan)
    (report : Ω)
    (hResult : ∀ plan, result = .ok plan → P key plan) :
    Holds P
        (c.getOrCompile key fun cache => ⟨result, report, cache⟩).cache ∧
      ((c.getOrCompile key fun cache =>
            ⟨result, report, cache⟩).result.map CompiledPlan.plan =
          result ∨
        ∃ compiled,
          (c.getOrCompile key fun cache =>
              ⟨result, report, cache⟩).result = .ok compiled ∧
            P key compiled.plan) := by
  rcases h.request key with ⟨hRequest, hMem, hKey⟩
  unfold PlanCache.getOrCompile
  by_cases hEnabled : c.config.enabled = true
  · rw [if_pos hEnabled]
    simp only
    cases hContent : (c.request key).1.content with
    | some plan =>
        -- the cache has a plan for the key
        have hRight := hRequest.right _ hMem plan hContent
        rw [hKey] at hRight
        exact ⟨hRequest.countHit, Or.inr ⟨plan, rfl, hRight⟩⟩
    | none =>
        have hRight : ∀ plan, result = .ok plan →
            P (c.request key).1.key plan := by
          rw [hKey]
          exact hResult
        rcases hRequest.settle hMem key result report hRight
          with ⟨hSettled, hPlan⟩
        exact ⟨hSettled, Or.inl hPlan⟩
  · rw [if_neg hEnabled]
    rcases h.countMiss.conclude result report with ⟨hConcluded, hPlan⟩
    exact ⟨hConcluded, Or.inl hPlan⟩

end Keyed

end Holds

------------------------------------------------------------
-- Caches that are not in Use
------------------------------------------------------------

/- A cache that is not in use compiles every plan anew. -/
theorem getOrCompile_of_disabled
    [DecidableEq Φ]
    {c : PlanCache Φ}
    {E Ω : Type}
    {key : PlanKey Φ}
    {compile : PlanCache Φ → Attempt Φ E Ω}
    (h : c.config.enabled = false) :
    c.getOrCompile key compile = conclude (compile c.countMiss) := by
  unfold getOrCompile
  exact if_neg ((Bool.not_eq_true _).mpr h)

end PlanCache

end TraversalPlanner
