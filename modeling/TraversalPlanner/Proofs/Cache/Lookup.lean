import Mathlib.Data.List.Nodup
import TraversalPlanner.Cache.PlanCache

/-
  Which entry a key has in a plan cache.  No two entries have the
  same key, whatever is requested, dropped and filled, so the
  entry of a key is the one with that key.

  Main declarations:
    * `PlanCache.HasDistinctKeys`
    * `PlanCache.makeRoom_eq_or`
    * `PlanCache.find?_eq_some_iff`
    * `PlanCache.lookup?`
    * `PlanCache.find?_request`
-/

namespace TraversalPlanner

namespace PlanCache

variable
  {Φ : Type}

------------------------------------------------------------
-- Distinct Keys
------------------------------------------------------------

/- No two entries of a cache have the same key. -/
def HasDistinctKeys (c : PlanCache Φ) : Prop :=
  (c.entries.map CacheEntry.key).Nodup

namespace HasDistinctKeys

/- An empty cache has distinct keys. -/
theorem empty (config : CacheConfig) :
    HasDistinctKeys (PlanCache.empty (Φ := Φ) config) :=
  List.nodup_nil

/- Dropping entries keeps the keys distinct. -/
theorem of_sublist
    {c d : PlanCache Φ}
    (h : c.HasDistinctKeys)
    (hEntries : d.entries.Sublist c.entries) :
    d.HasDistinctKeys :=
  List.Nodup.sublist (hEntries.map CacheEntry.key) h

/- Filling a cell keeps the keys. -/
theorem fill
    {c : PlanCache Φ}
    (h : c.HasDistinctKeys)
    (cell : Nat)
    (plan : CompiledPlan) :
    (c.fill cell plan).HasDistinctKeys := by
  have hKeys :
      (c.fill cell plan).entries.map CacheEntry.key =
        c.entries.map CacheEntry.key := by
    unfold PlanCache.fill
    rw [List.map_map]
    apply List.map_congr_left
    intro e _
    simp only [Function.comp]
    split <;> rfl
  unfold HasDistinctKeys
  rw [hKeys]
  exact h

/- An entry with a new key keeps the keys distinct. -/
theorem append
    {es : List (CacheEntry Φ)}
    {e : CacheEntry Φ}
    (h : (es.map CacheEntry.key).Nodup)
    (hNew : ∀ f ∈ es, f.key ≠ e.key) :
    ((es ++ [e]).map CacheEntry.key).Nodup := by
  rw [List.map_append, List.nodup_append]
  refine ⟨h, List.nodup_singleton _, ?_⟩
  intro k hk l hl
  rcases List.mem_map.mp hk with ⟨f, hf, rfl⟩
  rw [List.map_singleton, List.mem_singleton] at hl
  rw [hl]
  exact hNew f hf

end HasDistinctKeys

/- To make room, the first entry of a cache is dropped and counted. -/
theorem makeRoom_eq_or (c : PlanCache Φ) :
    c.makeRoom = c ∨
      ∃ e rest, c.entries = e :: rest ∧
        c.makeRoom =
          { c with
            entries := rest
            counters :=
              { c.counters with
                evictions := c.counters.evictions + 1 } } := by
  unfold makeRoom evict
  split
  · split
    · exact Or.inl rfl
    · rename_i e rest hEntries
      exact Or.inr ⟨e, rest, hEntries, rfl⟩
  · exact Or.inl rfl

/- Making room drops entries only. -/
theorem entries_makeRoom_sublist (c : PlanCache Φ) :
    c.makeRoom.entries.Sublist c.entries := by
  rcases c.makeRoom_eq_or with hSame | ⟨e, rest, hEntries, hDropped⟩
  · rw [hSame]
  · rw [hDropped, hEntries]
    exact List.sublist_cons_self e rest

/- Making room drops the first entry of a full cache. -/
theorem entries_makeRoom (c : PlanCache Φ) :
    c.makeRoom.entries =
      if c.config.maxEntries ≤ c.size then
        c.entries.tail
      else
        c.entries := by
  unfold makeRoom evict
  split
  · cases hEntries : c.entries with
    | nil => exact hEntries
    | cons e rest => rfl
  · rfl

/- Making room does not change the settings. -/
theorem config_makeRoom (c : PlanCache Φ) :
    c.makeRoom.config = c.config := by
  rcases c.makeRoom_eq_or with hSame | ⟨_, _, _, hDropped⟩
  · rw [hSame]
  · rw [hDropped]

/- Making room does not number a new cell. -/
theorem nextCell_makeRoom (c : PlanCache Φ) :
    c.makeRoom.nextCell = c.nextCell := by
  rcases c.makeRoom_eq_or with hSame | ⟨_, _, _, hDropped⟩
  · rw [hSame]
  · rw [hDropped]

------------------------------------------------------------
-- The Entry of a Key
------------------------------------------------------------

section Keyed

variable [DecidableEq Φ]

/- The plan that the cache has for a key. -/
def lookup?
    (c : PlanCache Φ)
    (key : PlanKey Φ) : Option CompiledPlan :=
  (c.find? key).bind CacheEntry.content

/- A key has a plan if one can be looked up. -/
theorem contains_of_lookup?
    {c : PlanCache Φ}
    {key : PlanKey Φ}
    {plan : CompiledPlan}
    (h : c.lookup? key = some plan) :
    c.contains key = true := by
  have hContains : c.contains key = (c.lookup? key).isSome := rfl
  rw [hContains, h]
  rfl

/- The entry of a key is in the cache and has that key. -/
theorem mem_of_find?
    {c : PlanCache Φ}
    {key : PlanKey Φ}
    {e : CacheEntry Φ}
    (h : c.find? key = some e) :
    e ∈ c.entries ∧ e.key = key := by
  have hKey := List.find?_some h
  exact ⟨List.mem_of_find?_eq_some h, by simpa using hKey⟩

/- A key without entry is the key of no entry. -/
theorem key_ne_of_find?_eq_none
    {c : PlanCache Φ}
    {key : PlanKey Φ}
    (h : c.find? key = none) :
    ∀ e ∈ c.entries, e.key ≠ key := by
  intro e he
  simpa using List.find?_eq_none.mp h e he

/- The other entries do not have the key. -/
theorem key_ne_of_mem_others
    {c : PlanCache Φ}
    {key : PlanKey Φ} :
    ∀ e ∈ c.others key, e.key ≠ key := by
  intro e he
  simpa using (List.mem_filter.mp he).2

/- A key without entry has none after making room, either. -/
theorem key_ne_of_mem_makeRoom
    {c : PlanCache Φ}
    {key : PlanKey Φ}
    (h : c.find? key = none) :
    ∀ e ∈ c.makeRoom.entries, e.key ≠ key := by
  intro e he
  exact key_ne_of_find?_eq_none h e (c.entries_makeRoom_sublist.subset he)

/- The entry of a key is the one with that key. -/
theorem find?_eq_some_iff
    {c : PlanCache Φ}
    (hDistinct : c.HasDistinctKeys)
    {key : PlanKey Φ}
    {e : CacheEntry Φ} :
    c.find? key = some e ↔ e ∈ c.entries ∧ e.key = key := by
  refine ⟨mem_of_find?, ?_⟩
  rintro ⟨he, hKey⟩
  cases hFind : c.find? key with
  | none => exact absurd hKey (key_ne_of_find?_eq_none hFind e he)
  | some f =>
      rcases mem_of_find? hFind with ⟨hf, hfKey⟩
      have hSame : f = e := by
        apply List.inj_on_of_nodup_map hDistinct hf he
        rw [hfKey, hKey]
      rw [hSame]

/- If keys are distinct, all entries but one are not of a key. -/
theorem size_eq_of_find?
    {c : PlanCache Φ}
    {key : PlanKey Φ}
    {e : CacheEntry Φ}
    (hDistinct : c.HasDistinctKeys)
    (hFind : c.find? key = some e) :
    c.size = (c.others key).length + 1 := by
  have hOne :
      c.entries.countP (fun f => decide (f.key = key)) = 1 := by
    rcases mem_of_find? hFind with ⟨he, rfl⟩
    have hCount :=
      List.count_eq_one_of_mem hDistinct (List.mem_map_of_mem he)
    rw [List.count, List.countP_map] at hCount
    exact hCount
  have hOthers :
      (c.others key).length =
        c.entries.countP fun f => !decide (f.key = key) := by
    unfold others
    rw [← List.countP_eq_length_filter]
    simp only [ne_eq, decide_not]
  rw [size, hOthers,
    List.length_eq_countP_add_countP fun f => decide (f.key = key), hOne]
  simp only [decide_eq_true_eq, decide_not, Nat.add_comm]

------------------------------------------------------------
-- Requests
------------------------------------------------------------

/- A request yields the entry that the key has. -/
theorem request_of_find?
    {c : PlanCache Φ}
    {key : PlanKey Φ}
    {e : CacheEntry Φ}
    (h : c.find? key = some e) :
    c.request key =
      (e, { c with entries := c.others key ++ [e] }) := by
  unfold request
  rw [h]

/- A request for a key without entry yields a new empty cell. -/
theorem request_of_find?_eq_none
    {c : PlanCache Φ}
    {key : PlanKey Φ}
    (h : c.find? key = none) :
    c.request key = c.makeRoom.addCell key := by
  unfold request
  rw [h]

/- A request keeps the keys distinct. -/
theorem HasDistinctKeys.request
    {c : PlanCache Φ}
    (h : c.HasDistinctKeys)
    (key : PlanKey Φ) :
    (c.request key).2.HasDistinctKeys := by
  cases hFind : c.find? key with
  | none =>
      rw [request_of_find?_eq_none hFind]
      exact HasDistinctKeys.append
        (h.of_sublist c.entries_makeRoom_sublist)
        (key_ne_of_mem_makeRoom hFind)
  | some e =>
      rw [request_of_find? hFind]
      have hOthers : ((c.others key).map CacheEntry.key).Nodup :=
        List.Nodup.sublist (List.filter_sublist.map _) h
      refine HasDistinctKeys.append hOthers ?_
      intro f hf
      rw [(mem_of_find? hFind).2]
      exact key_ne_of_mem_others f hf

/- The entries after a request are old ones and the yielded one. -/
theorem mem_entries_request
    {c : PlanCache Φ}
    {key : PlanKey Φ}
    {e : CacheEntry Φ}
    (he : e ∈ (c.request key).2.entries) :
    e ∈ c.entries ∨ e = ⟨key, c.nextCell, none⟩ := by
  cases hFind : c.find? key with
  | none =>
      rw [request_of_find?_eq_none hFind] at he
      rcases List.mem_append.mp he with he | he
      · exact Or.inl (c.entries_makeRoom_sublist.subset he)
      · rw [List.mem_singleton.mp he, nextCell_makeRoom]
        exact Or.inr rfl
  | some f =>
      rw [request_of_find? hFind] at he
      rcases List.mem_append.mp he with he | he
      · exact Or.inl (List.mem_of_mem_filter he)
      · rw [List.mem_singleton.mp he]
        exact Or.inl (mem_of_find? hFind).1

/- A request numbers one new cell at most. -/
theorem nextCell_le_request
    (c : PlanCache Φ)
    (key : PlanKey Φ) :
    c.nextCell ≤ (c.request key).2.nextCell := by
  cases hFind : c.find? key with
  | none =>
      rw [request_of_find?_eq_none hFind]
      have hNext := c.nextCell_makeRoom
      simp only [addCell]
      omega
  | some e =>
      apply Nat.le_of_eq
      rw [request_of_find? hFind]

/- After a request, the key has the yielded entry. -/
theorem find?_request
    {c : PlanCache Φ}
    (h : c.HasDistinctKeys)
    (key : PlanKey Φ) :
    (c.request key).2.find? key = some (c.request key).1 := by
  rw [find?_eq_some_iff (h.request key)]
  cases hFind : c.find? key with
  | none =>
      rw [request_of_find?_eq_none hFind]
      exact ⟨List.mem_append_right _ List.mem_cons_self, rfl⟩
  | some e =>
      rw [request_of_find? hFind]
      exact ⟨List.mem_append_right _ List.mem_cons_self,
        (mem_of_find? hFind).2⟩

------------------------------------------------------------
-- Removal
------------------------------------------------------------

/- Giving up an empty cell keeps the entries that have plans. -/
theorem find?_abandon_of_content
    {c : PlanCache Φ}
    (h : c.HasDistinctKeys)
    {key : PlanKey Φ}
    {e : CacheEntry Φ}
    (hFind : c.find? key = some e)
    {plan : CompiledPlan}
    (hContent : e.content = some plan)
    (other : PlanKey Φ)
    (cell : Nat) :
    (c.abandon other cell).find? key = some e := by
  have hSublist : (c.abandon other cell).entries.Sublist c.entries :=
    List.filter_sublist
  rcases mem_of_find? hFind with ⟨he, hKey⟩
  rw [find?_eq_some_iff (h.of_sublist hSublist)]
  refine ⟨List.mem_filter.mpr ⟨he, ?_⟩, hKey⟩
  simp [hContent]

/- Giving up the cell of a key keeps the entries of other keys. -/
theorem find?_abandon_of_ne
    {c : PlanCache Φ}
    {key other : PlanKey Φ}
    (h : other ≠ key)
    (cell : Nat) :
    (c.abandon other cell).find? key = c.find? key := by
  unfold abandon find?
  rw [List.find?_filter]
  congr 1
  funext e
  by_cases hKey : e.key = key
  · simp [hKey, h.symm]
  · simp [hKey]

end Keyed

end PlanCache

end TraversalPlanner
