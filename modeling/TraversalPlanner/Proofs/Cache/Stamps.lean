import Mathlib.Logic.Function.Basic
import TraversalPlanner.Proofs.Cache.SequentialUse

/-
  The order of the entries of a cache, told by a clock that ticks
  with every request.  An entry is stamped with the time of the
  last request for its key.  The entries are in the order of their
  stamps, so the one that makes room has the least stamp.

  Main declarations:
    * `PlanCache.Stamps`
    * `PlanCache.Stamps.Sorts`
    * `PlanCache.Stamps.Sorts.lastUsed_lt_of_dropped`
    * `PlanCache.Stamps.sorts_run_empty`
-/

namespace TraversalPlanner

namespace PlanCache

variable
  {Φ E : Type}

------------------------------------------------------------
-- The Clock
------------------------------------------------------------

/-
  A clock that ticks with every request, and what it showed at the
  last request for each key.
-/
structure Stamps (Φ : Type) where
  clock : Nat
  lastUsed : PlanKey Φ → Nat

namespace Stamps

/- The clock of a new cache. -/
def zero : Stamps Φ where
  clock := 0
  lastUsed := fun _ => 0

/- The entries are in the order of their stamps, all of the past. -/
structure Sorts
    (s : Stamps Φ)
    (es : List (CacheEntry Φ)) : Prop where
  sorted : es.Pairwise fun e f => s.lastUsed e.key < s.lastUsed f.key
  past : ∀ e ∈ es, s.lastUsed e.key < s.clock

/- Dropping entries keeps the others in order. -/
theorem Sorts.of_sublist
    {s : Stamps Φ}
    {es fs : List (CacheEntry Φ)}
    (h : s.Sorts es)
    (hSublist : fs.Sublist es) :
    s.Sorts fs where
  sorted := h.sorted.sublist hSublist
  past := fun e he => h.past e (hSublist.subset he)

/- An entry that makes room for another one has the least stamp. -/
theorem Sorts.lastUsed_lt_of_evicted
    {s : Stamps Φ}
    {c : PlanCache Φ}
    {e f : CacheEntry Φ}
    (h : s.Sorts c.entries)
    (he : e ∈ c.entries)
    (hEvicted : e ∉ c.makeRoom.entries)
    (hf : f ∈ c.entries)
    (hNe : f ≠ e) :
    s.lastUsed e.key < s.lastUsed f.key := by
  rw [entries_makeRoom] at hEvicted
  split at hEvicted
  · have hSorted := h.sorted
    cases hEntries : c.entries with
    | nil =>
        rw [hEntries] at he
        cases he
    | cons g rest =>
        rw [hEntries] at he hEvicted hf hSorted
        rcases List.mem_cons.mp he with rfl | he
        · have hRest := (List.mem_cons.mp hf).resolve_left hNe
          exact (List.pairwise_cons.mp hSorted).1 f hRest
        · exact absurd he hEvicted
  · exact absurd he hEvicted

------------------------------------------------------------
-- Ticking
------------------------------------------------------------

section Keyed

variable [DecidableEq Φ]

/- The clock after a use. -/
def use
    (s : Stamps Φ) : Use Φ E → Stamps Φ
| .get key _ =>
    ⟨s.clock + 1, Function.update s.lastUsed key s.clock⟩
| .invalidate _ => s
| .clear => s

/- Entries for other keys stay in order when a key is requested. -/
theorem Sorts.use_get
    {s : Stamps Φ}
    {es : List (CacheEntry Φ)}
    (h : s.Sorts es)
    {key : PlanKey Φ}
    (hOther : ∀ e ∈ es, e.key ≠ key)
    (outcome : Except E Plan) :
    (s.use (.get key outcome)).Sorts es where
  sorted := by
    refine h.sorted.imp_of_mem ?_
    intro e f he hf hLt
    simpa only [use, Function.update_of_ne (hOther e he),
      Function.update_of_ne (hOther f hf)] using hLt
  past := by
    intro e he
    simp only [use, Function.update_of_ne (hOther e he)]
    exact Nat.lt_succ_of_lt (h.past e he)

/- The entry that is requested comes last. -/
theorem Sorts.use_get_concat
    {s : Stamps Φ}
    {es : List (CacheEntry Φ)}
    (h : s.Sorts es)
    {key : PlanKey Φ}
    (hOther : ∀ e ∈ es, e.key ≠ key)
    {f : CacheEntry Φ}
    (hKey : f.key = key)
    (outcome : Except E Plan) :
    (s.use (.get key outcome)).Sorts (es ++ [f]) where
  sorted := by
    rw [List.pairwise_append]
    refine ⟨(h.use_get hOther outcome).sorted,
      List.pairwise_singleton _ _, ?_⟩
    intro e he g hg
    rw [List.mem_singleton.mp hg, hKey]
    simp only [use, Function.update_self,
      Function.update_of_ne (hOther e he)]
    exact h.past e he
  past := by
    intro e he
    rcases List.mem_append.mp he with he | he
    · exact (h.use_get hOther outcome).past e he
    · rw [List.mem_singleton.mp he, hKey]
      simp only [use, Function.update_self]
      exact Nat.lt_succ_self _

/- An entry that a request drops has the least stamp. -/
theorem Sorts.lastUsed_lt_of_dropped
    {config : CacheConfig}
    {s : Stamps Φ}
    {c : PlanCache Φ}
    {key : PlanKey Φ}
    {outcome : Except E Plan}
    {r : Response Φ E Unit}
    {e f : CacheEntry Φ}
    (h : s.Sorts c.entries)
    (hSettled : c.Settled config)
    (hServed : Served c key outcome r)
    (he : e ∈ c.entries)
    (hDropped : e ∉ r.cache.entries)
    (hf : f ∈ c.entries)
    (hNe : f ≠ e) :
    s.lastUsed e.key < s.lastUsed f.key := by
  apply h.lastUsed_lt_of_evicted he _ hf hNe
  intro hMade
  apply hDropped
  cases hServed with
  | @found _ g _ hFind _ =>
      by_cases hKey : e.key = key
      · have hOwn : c.find? key = some e :=
          (find?_eq_some_iff hSettled.distinct).mpr ⟨he, hKey⟩
        rw [hFind] at hOwn
        cases hOwn
        exact List.mem_append_right _ List.mem_cons_self
      · have hOther : e ∈ c.others key :=
          List.mem_filter.mpr ⟨he, by simpa using hKey⟩
        exact List.mem_append_left _ hOther
  | compiled plan _ => exact List.mem_append_left _ hMade
  | failed err _ => exact hMade

/- A use leaves the entries in the order of their stamps. -/
theorem Sorts.use
    {config : CacheConfig}
    {s : Stamps Φ}
    {c : PlanCache Φ}
    (h : s.Sorts c.entries)
    (hSettled : c.Settled config)
    (hEnabled : config.enabled = true)
    (u : Use Φ E) :
    (s.use u).Sorts (c.use u).entries := by
  have hMade := c.entries_makeRoom_sublist
  cases u with
  | get key outcome =>
      have hServed := hSettled.served hEnabled key outcome
      simp only [PlanCache.use]
      generalize c.get key outcome = r at hServed ⊢
      cases hServed with
      | found hFind _ =>
          exact (h.of_sublist List.filter_sublist).use_get_concat
            key_ne_of_mem_others (mem_of_find? hFind).2 outcome
      | compiled plan hFind =>
          exact (h.of_sublist hMade).use_get_concat
            (key_ne_of_mem_makeRoom hFind) rfl _
      | failed err hFind =>
          exact (h.of_sublist hMade).use_get
            (key_ne_of_mem_makeRoom hFind) _
  | invalidate version => exact h.of_sublist List.filter_sublist
  | clear => exact h.of_sublist (List.nil_sublist _)

/- Uses leave the entries in the order of their stamps. -/
theorem Sorts.run
    {config : CacheConfig}
    {s : Stamps Φ}
    {c : PlanCache Φ}
    (h : s.Sorts c.entries)
    (hSettled : c.Settled config)
    (hEnabled : config.enabled = true)
    (us : List (Use Φ E)) :
    (us.foldl Stamps.use s).Sorts (c.run us).entries := by
  induction us generalizing c s with
  | nil => exact h
  | cons u us ih =>
      exact ih (h.use hSettled hEnabled u) (hSettled.use hEnabled u)

/- The entries of a cache are in the order of their last requests. -/
theorem sorts_run_empty
    {config : CacheConfig}
    (hEnabled : config.enabled = true)
    (us : List (Use Φ E)) :
    (us.foldl Stamps.use .zero).Sorts
      ((PlanCache.empty config).run us).entries := by
  have hEmpty : (Stamps.zero (Φ := Φ)).Sorts [] :=
    ⟨List.Pairwise.nil, by simp⟩
  exact hEmpty.run (c := .empty config) (.empty config) hEnabled us

end Keyed

end Stamps

end PlanCache

end TraversalPlanner
