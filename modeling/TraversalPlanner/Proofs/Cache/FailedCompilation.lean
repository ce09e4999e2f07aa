import TraversalPlanner.Proofs.Cache.Callers
import TraversalPlanner.Proofs.Cache.SequentialUse

/-
  What becomes of a cache when a plan fails to be compiled.  The
  entry that the request made is given up, and every other entry
  is as it was before the request, but for one that had to make
  room in a full cache.

  Main declarations:
    * `PlanCache.victim?`
    * `PlanCache.AfterFailure`
    * `PlanCache.AfterFailure.lookup?_eq_iff`
    * `SharedCache.afterFailure_of_run`
    * `SharedCache.exists_failure_of_full_cache`
-/

namespace TraversalPlanner

namespace PlanCache

variable
  {Φ E Ω : Type}
  [DecidableEq Φ]

------------------------------------------------------------
-- Entries That Make Room
------------------------------------------------------------

/-
  The key whose entry makes room when another key is requested: in
  a full cache, the first key, unless the other one has an entry.
-/
def victim?
    (c : PlanCache Φ)
    (key : PlanKey Φ) : Option (PlanKey Φ) :=
  if c.find? key = none ∧ c.config.maxEntries ≤ c.size then
    c.entries.head?.map CacheEntry.key
  else
    none

variable
  {c : PlanCache Φ}
  {key : PlanKey Φ}

/- Nothing makes room for a key that has an entry. -/
theorem victim?_of_find?
    {e : CacheEntry Φ}
    (h : c.find? key = some e) :
    c.victim? key = none := by
  unfold victim?
  rw [if_neg]
  rintro ⟨hNone, _⟩
  rw [h] at hNone
  cases hNone

/- Nothing makes room where there is some. -/
theorem victim?_of_room
    (h : ¬ c.config.maxEntries ≤ c.size) :
    c.victim? key = none :=
  if_neg fun hFull => h hFull.2

/- The first entry of a full cache makes room. -/
theorem victim?_of_full
    (hFind : c.find? key = none)
    (hFull : c.config.maxEntries ≤ c.size) :
    c.victim? key = c.entries.head?.map CacheEntry.key :=
  if_pos ⟨hFind, hFull⟩

/- The entry of every key but one is as it was before. -/
theorem find?_makeRoom
    (hDistinct : c.HasDistinctKeys)
    (hFind : c.find? key = none)
    (other : PlanKey Φ) :
    c.makeRoom.find? other =
      if c.victim? key = some other then none else c.find? other := by
  unfold find?
  rw [entries_makeRoom]
  by_cases hFull : c.config.maxEntries ≤ c.size
  · rw [if_pos hFull, victim?_of_full hFind hFull]
    unfold HasDistinctKeys at hDistinct
    cases hEntries : c.entries with
    | nil => rfl
    | cons e rest =>
        rw [hEntries, List.map_cons, List.nodup_cons] at hDistinct
        simp only [List.tail_cons, List.head?_cons, Option.map_some,
          Option.some.injEq]
        by_cases hKey : e.key = other
        · -- no other entry has the key
          rw [if_pos hKey, List.find?_eq_none]
          intro f hf hOther
          apply hDistinct.1
          rw [hKey, ← of_decide_eq_true hOther]
          exact List.mem_map_of_mem hf
        · rw [if_neg hKey, List.find?_cons_of_neg]
          simpa using hKey
  · rw [if_neg hFull, victim?_of_room hFull]
    rfl

/- The plan of every key but one is as it was before. -/
theorem lookup?_makeRoom
    (hDistinct : c.HasDistinctKeys)
    (hFind : c.find? key = none)
    (other : PlanKey Φ) :
    c.makeRoom.lookup? other =
      if c.victim? key = some other then none else c.lookup? other := by
  unfold lookup?
  rw [find?_makeRoom hDistinct hFind]
  split <;> rfl

/- Making room counts the entry that is dropped, if there is one. -/
theorem counters_makeRoom
    (hFind : c.find? key = none) :
    c.makeRoom.counters =
      { c.counters with
        evictions :=
          c.counters.evictions +
            if (c.victim? key).isSome then 1 else 0 } := by
  unfold makeRoom evict
  by_cases hFull : c.config.maxEntries ≤ c.size
  · rw [if_pos hFull, victim?_of_full hFind hFull]
    cases c.entries <;> rfl
  · rw [if_neg hFull, victim?_of_room hFull]
    rfl

------------------------------------------------------------
-- Failures
------------------------------------------------------------

/-
  What a request comes to whose attempt to compile a plan fails:
  the failure is reported and counted, and the plans of all keys
  are as before, but for a key whose entry made room.
-/
structure AfterFailure
    (c : PlanCache Φ)
    (key : PlanKey Φ)
    (err : E)
    (report : Ω)
    (r : Response Φ E Ω) : Prop where
  result : r.result = .error err
  report : r.report = some report
  lookup? :
    ∀ other, r.cache.lookup? other =
      if c.victim? key = some other then none else c.lookup? other
  contains :
    ∀ other, r.cache.contains other =
      if c.victim? key = some other then false else c.contains other
  counters :
    r.cache.counters =
      { c.counters with
        misses := c.counters.misses + 1
        evictions :=
          c.counters.evictions +
            if (c.victim? key).isSome then 1 else 0 }

/- An entry without plan that is given up leaves the others. -/
theorem abandon_requested
    {e : CacheEntry Φ}
    (hKey : e.key = key)
    (hContent : e.content = none) :
    { c with entries := c.others key ++ [e] }.abandon key e.cell =
      { c with entries := c.others key } := by
  have hOthers :
      ((c.others key).filter fun f =>
          !decide
            (f.key = key ∧ f.cell = e.cell ∧ f.content = none)) =
        c.others key := by
    rw [List.filter_eq_self]
    intro f hf
    simp [key_ne_of_mem_others f hf]
  unfold abandon
  simp only [List.filter_append, hOthers]
  simp [hKey, hContent]

/- A key without plan may go, and all plans stay. -/
theorem lookup?_others
    (hPlan : c.lookup? key = none)
    (other : PlanKey Φ) :
    { c with entries := c.others key }.lookup? other =
      c.lookup? other := by
  by_cases hOther : other = key
  · have hFind :
        { c with entries := c.others key }.find? other = none := by
      rw [find?, List.find?_eq_none]
      intro e he
      rw [hOther]
      simpa using key_ne_of_mem_others e he
    unfold lookup? at hPlan ⊢
    rw [hFind, hOther, hPlan]
    rfl
  · have hFind :
        { c with entries := c.others key }.find? other =
          c.find? other := by
      unfold find? others
      rw [List.find?_filter]
      congr 1
      funext e
      by_cases hKey : e.key = other
      · simp [hKey, hOther]
      · simp [hKey]
    unfold lookup?
    rw [hFind]

/- Keys that are looked up as before have plans as before. -/
theorem contains_of_lookup?_eq
    {d : PlanCache Φ}
    {other : PlanKey Φ}
    (h :
      d.lookup? other =
        if c.victim? key = some other then none else c.lookup? other) :
    d.contains other =
      if c.victim? key = some other then false else c.contains other := by
  have hContains := congrArg Option.isSome h
  rw [apply_ite Option.isSome] at hContains
  exact hContains

/- What becomes of a cache whose key has no plan, and gets none. -/
theorem afterFailure
    (hDistinct : c.HasDistinctKeys)
    (hEnabled : c.config.enabled = true)
    (hPlan : c.lookup? key = none)
    (err : E)
    (report : Ω) :
    AfterFailure c key err report
      (c.getOrCompile key fun cache => ⟨.error err, report, cache⟩) := by
  unfold getOrCompile
  rw [if_pos hEnabled]
  cases hFind : c.find? key with
  | some e =>
      have hContent : e.content = none := by
        unfold lookup? at hPlan
        rwa [hFind] at hPlan
      have hGivenUp :=
        abandon_requested (c := c) (mem_of_find? hFind).2 hContent
      rw [request_of_find? hFind]
      simp only [hContent]
      have hLookup :
          ∀ other, { c with entries := c.others key }.lookup? other =
            if c.victim? key = some other then
              none
            else
              c.lookup? other := by
        intro other
        rw [victim?_of_find? hFind]
        exact lookup?_others hPlan other
      rw [← hGivenUp] at hLookup
      refine ⟨rfl, rfl, hLookup,
        fun other => contains_of_lookup?_eq (hLookup other), ?_⟩
      rw [victim?_of_find? hFind]
      rfl
  | none =>
      have hNone : c.makeRoom.find? key = none := by
        rw [find?_makeRoom hDistinct hFind, hFind, ite_self]
      have hGivenUp := abandon_addCell hNone
      rw [request_of_find?_eq_none hFind]
      have hLookup :
          ∀ other, c.makeRoom.skipCell.lookup? other =
            if c.victim? key = some other then
              none
            else
              c.lookup? other :=
        lookup?_makeRoom hDistinct hFind
      rw [← hGivenUp] at hLookup
      refine ⟨rfl, rfl, hLookup,
        fun other => contains_of_lookup?_eq (hLookup other), ?_⟩
      have hCounted :
          { c.makeRoom.counters with
              misses := c.makeRoom.counters.misses + 1 } =
            { c.counters with
              misses := c.counters.misses + 1
              evictions :=
                c.counters.evictions +
                  if (c.victim? key).isSome then 1 else 0 } := by
        rw [counters_makeRoom hFind]
      exact hCounted

/-
  A failure disturbs no plan exactly if the entry that makes room,
  if there is one, has none.
-/
theorem AfterFailure.lookup?_eq_iff
    {err : E}
    {report : Ω}
    {r : Response Φ E Ω}
    (h : AfterFailure c key err report r) :
    (∀ other, r.cache.lookup? other = c.lookup? other) ↔
      ∀ other, c.victim? key = some other → c.lookup? other = none := by
  apply forall_congr'
  intro other
  rw [h.lookup?]
  split
  · rename_i hVictim
    simp only [hVictim, true_implies]
    exact eq_comm
  · rename_i hOther
    simp only [hOther, false_implies]

end PlanCache

------------------------------------------------------------
-- Failures in Reachable States
------------------------------------------------------------

namespace SharedCache

open PlanCache

/-
  In every state that a new cache may come to, whoever uses it, a
  request whose attempt to compile a plan fails is counted, and
  leaves all plans as they are, but for that of the least recently
  requested key if a full cache has no entry for the key.
-/
theorem afterFailure_of_run
    {ι Φ E Ω : Type}
    [DecidableEq ι]
    [DecidableEq Φ]
    {config : CacheConfig}
    {es : List (Event ι Φ)}
    {s : SharedCache ι Φ}
    {key : PlanKey Φ}
    (hRun : Run (fun _ _ _ => True) (start ι config) es s)
    (hEnabled : s.cache.config.enabled = true)
    (hPlan : s.cache.lookup? key = none)
    (err : E)
    (report : Ω) :
    AfterFailure s.cache key err report
      (s.cache.getOrCompile key
        fun cache => ⟨.error err, report, cache⟩) :=
  afterFailure (hRun.sound (sound_start config)).distinct hEnabled hPlan
    err report

/- A plan is compiled for a key. -/
def fillingEvents : List (Event (Fin 1) Unit) :=
  [.requested 0 (namedKey "a"), .entered 0,
    .answered 0 ⟨namedKey "a", 0, ⟨0, ⟨[], .empty, none⟩⟩, true⟩]

/- A failure in a full cache, for a key without entry. -/
theorem afterFailure_of_run_fullCache :
    ∃ s : SharedCache (Fin 1) Unit,
      Run (fun _ _ _ => True) (start (Fin 1) ⟨true, 1⟩) fillingEvents s ∧
        s.cache.config.enabled = true ∧
        s.cache.lookup? (namedKey "b") = none ∧
        AfterFailure s.cache (namedKey "b") () ()
          (s.cache.getOrCompile (namedKey "b")
            fun cache => ⟨.error (), (), cache⟩) := by
  have hRun : ∃ s : SharedCache (Fin 1) Unit,
      Run (fun _ _ _ => True) (start (Fin 1) ⟨true, 1⟩) fillingEvents s ∧
        s.cache.config.enabled = true ∧
        s.cache.lookup? (namedKey "b") = none :=
    ⟨_,
      .step (.requested (namedKey "a") rfl rfl) trivial <|
      .step (.entered rfl rfl) trivial <|
      .step (.compiled ⟨[], .empty, none⟩ rfl) trivial .done,
      rfl, rfl⟩
  rcases hRun with ⟨s, hRun, hEnabled, hPlan⟩
  exact ⟨s, hRun, hEnabled, hPlan,
    afterFailure_of_run hRun hEnabled hPlan () ()⟩

/-
  The plan of one key is gone after an attempt to compile a plan
  for another key failed, and an eviction is counted.
-/
theorem exists_failure_of_full_cache :
    ∃ s : SharedCache (Fin 1) Unit,
      Run (fun _ _ _ => True) (start (Fin 1) ⟨true, 1⟩) fillingEvents s ∧
        s.cache.contains (namedKey "a") = true ∧
        s.cache.counters.evictions = 0 ∧
        let r :=
          s.cache.getOrCompile (namedKey "b")
            fun cache => (⟨.error (), (), cache⟩ : Attempt Unit Unit Unit)
        r.result = .error () ∧
          r.cache.contains (namedKey "a") = false ∧
          r.cache.counters.evictions = 1 :=
  ⟨_,
    .step (.requested (namedKey "a") rfl rfl) trivial <|
    .step (.entered rfl rfl) trivial <|
    .step (.compiled ⟨[], .empty, none⟩ rfl) trivial .done,
    rfl, rfl, rfl, rfl, rfl⟩

end SharedCache

end TraversalPlanner
