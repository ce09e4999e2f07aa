import Mathlib.Data.Finset.Card
import TraversalPlanner.Proofs.Cache.Stamps

/-
  How long a plan stays in a cache that is used by one caller.
  The entries are in the order of the stamps of their last
  requests, so an entry is evicted only if all other entries were
  requested after it.  A plan is found again while fewer other
  keys are requested than the cache has room for.

  Main declarations:
    * `PlanCache.RecentlyUsed`
    * `PlanCache.Behind`
    * `PlanCache.KeepsRecent`
    * `PlanCache.keepsRecent_of_enabled`
-/

namespace TraversalPlanner

------------------------------------------------------------
-- Two Elements in Order
------------------------------------------------------------

section Pairs

variable
  {α : Type}
  {a b : α}
  {l : List α}

/- Two elements that a filter keeps stay in their order. -/
theorem pair_sublist_filter
    {p : α → Bool}
    (h : [a, b].Sublist l)
    (ha : p a = true)
    (hb : p b = true) :
    [a, b].Sublist (l.filter p) := by
  have hKept := h.filter p
  rw [List.filter_cons_of_pos ha, List.filter_cons_of_pos hb] at hKept
  exact hKept

/- The last element comes after all others. -/
theorem pair_sublist_concat
    (ha : a ∈ l)
    (b : α) :
    [a, b].Sublist (l ++ [b]) :=
  (List.singleton_sublist.mpr ha).append (.refl [b])

/- The second of two elements in order may be the last one. -/
theorem pair_sublist_of_concat
    {c : α}
    (h : [a, b].Sublist (l ++ [c])) :
    [a, b].Sublist l ∨ a ∈ l ∧ b = c := by
  rw [← List.reverse_sublist, List.reverse_concat] at h
  rcases List.sublist_cons_iff.mp h with h | ⟨xs, hSplit, hxs⟩
  · exact Or.inl (List.reverse_sublist.mp h)
  · obtain ⟨rfl, rfl⟩ := List.cons.inj hSplit
    exact Or.inr ⟨by simpa using hxs, rfl⟩

/- What comes after an element of the tail is in the tail. -/
theorem pair_sublist_tail
    (hNodup : l.Nodup)
    (ha : a ∈ l.tail)
    (h : [a, b].Sublist l) :
    [a, b].Sublist l.tail := by
  cases l with
  | nil => cases ha
  | cons c l =>
      rcases List.sublist_cons_iff.mp h with h | ⟨xs, hSplit, hxs⟩
      · exact h
      · injection hSplit with hHead _
        rw [hHead] at ha
        exact absurd ha (List.nodup_cons.mp hNodup).1

end Pairs

namespace PlanCache

variable
  {Φ E : Type}

------------------------------------------------------------
-- Entries That Were Requested Recently
------------------------------------------------------------

/-
  An entry is in a list, and all entries after it, which were
  requested later, have certain keys.
-/
structure RecentlyUsed
    (es : List (CacheEntry Φ))
    (e : CacheEntry Φ)
    (keys : Finset (PlanKey Φ)) : Prop where
  mem : e ∈ es
  later : ∀ f, [e, f].Sublist es → f.key ∈ keys

namespace RecentlyUsed

variable
  {es : List (CacheEntry Φ)}
  {e : CacheEntry Φ}
  {keys : Finset (PlanKey Φ)}

/- No entry comes after the last one. -/
theorem last
    (h : ∀ f ∈ es, f.key ≠ e.key)
    (keys : Finset (PlanKey Φ)) :
    RecentlyUsed (es ++ [e]) e keys where
  mem := List.mem_append_right _ List.mem_cons_self
  later := by
    intro f hf
    -- otherwise the entry would be among the earlier ones, too
    have he : e ∈ es := by
      rcases pair_sublist_of_concat hf with hf | ⟨he, _⟩
      · exact hf.subset List.mem_cons_self
      · exact he
    exact absurd rfl (h e he)

/- An entry that is kept when others are dropped. -/
theorem of_sublist
    (h : RecentlyUsed es e keys)
    {fs : List (CacheEntry Φ)}
    (hSublist : fs.Sublist es)
    (he : e ∈ fs) :
    RecentlyUsed fs e keys where
  mem := he
  later := fun f hf => h.later f (hf.trans hSublist)

/- An entry may be added that has one of the keys. -/
theorem concat
    (h : RecentlyUsed es e keys)
    {f : CacheEntry Φ}
    (hf : f.key ∈ keys) :
    RecentlyUsed (es ++ [f]) e keys where
  mem := List.mem_append_left _ h.mem
  later := by
    intro g hg
    rcases pair_sublist_of_concat hg with hg | ⟨_, rfl⟩
    · exact h.later g hg
    · exact hf

section Keyed

variable [DecidableEq Φ]

/-
  If an entry comes first, the others are fewer than the keys, one
  of which none of them has.
-/
theorem length_lt_card
    {key : PlanKey Φ}
    (h : RecentlyUsed (e :: es) e keys)
    (hDistinct : (es.map CacheEntry.key).Nodup)
    (hNew : ∀ f ∈ es, f.key ≠ key)
    (hKey : key ∈ keys) :
    es.length < keys.card := by
  have hNodup : (key :: es.map CacheEntry.key).Nodup := by
    refine List.nodup_cons.mpr ⟨?_, hDistinct⟩
    intro hMem
    rcases List.mem_map.mp hMem with ⟨f, hf, hEq⟩
    exact hNew f hf hEq
  have hSubset : (key :: es.map CacheEntry.key).toFinset ⊆ keys := by
    intro k hk
    rcases List.mem_cons.mp (List.mem_toFinset.mp hk) with rfl | hk
    · exact hKey
    · rcases List.mem_map.mp hk with ⟨f, hf, rfl⟩
      exact h.later f ((List.singleton_sublist.mpr hf).cons_cons e)
  calc
    es.length < (key :: es.map CacheEntry.key).length := by
      rw [List.length_cons, List.length_map]
      exact Nat.lt_succ_self _
    _ = (key :: es.map CacheEntry.key).toFinset.card :=
      (List.toFinset_card_of_nodup hNodup).symm
    _ ≤ keys.card := Finset.card_le_card hSubset

/-
  Room for a new entry is not made at the expense of one after
  which there are few others: it would have to be the first one.
-/
theorem mem_makeRoom
    {config : CacheConfig}
    {c : PlanCache Φ}
    (h : RecentlyUsed c.entries e keys)
    (hSettled : c.Settled config)
    {key : PlanKey Φ}
    (hFind : c.find? key = none)
    (hKey : key ∈ keys)
    (hFew : keys.card < config.maxEntries) :
    e ∈ c.makeRoom.entries := by
  have hDistinct : (c.entries.map CacheEntry.key).Nodup :=
    hSettled.distinct
  have hNew := key_ne_of_find?_eq_none hFind
  rw [entries_makeRoom, hSettled.config_eq]
  unfold size
  cases hEntries : c.entries with
  | nil =>
      rw [hEntries] at h
      cases h.mem
  | cons f rest =>
      rw [hEntries] at h hDistinct hNew
      split
      · rename_i hFull
        rcases List.mem_cons.mp h.mem with rfl | hRest
        · have hLt :=
            h.length_lt_card (List.nodup_cons.mp hDistinct).2
              (List.forall_mem_cons.mp hNew).2 hKey
          rw [List.length_cons] at hFull
          omega
        · exact hRest
      · exact h.mem

end Keyed

end RecentlyUsed

section Keyed

variable [DecidableEq Φ]

section Requests

variable
  {c : PlanCache Φ}
  {key : PlanKey Φ}
  {outcome : Except E Plan}
  {r : Response Φ E Unit}
  {plan : CompiledPlan}

/- After a request that is answered, the last entry has the plan. -/
theorem Served.recentlyUsed
    (hServed : Served c key outcome r)
    (hResult : r.result = .ok plan)
    (keys : Finset (PlanKey Φ)) :
    ∃ e, e.key = key ∧ e.content = some plan ∧
      RecentlyUsed r.cache.entries e keys := by
  cases hServed with
  | @found _ e _ hFind hPlan =>
      have hKey : e.key = key := (mem_of_find? hFind).2
      cases hResult
      subst hKey
      exact ⟨e, rfl, hPlan, .last key_ne_of_mem_others keys⟩
  | compiled p hFind =>
      cases hResult
      exact ⟨_, rfl, rfl, .last (key_ne_of_mem_makeRoom hFind) keys⟩
  | failed err _ => cases hResult

/-
  An entry stays recently used when its key is requested again, or
  one of few other keys.
-/
theorem RecentlyUsed.served
    {config : CacheConfig}
    {e : CacheEntry Φ}
    {keys : Finset (PlanKey Φ)}
    (h : RecentlyUsed c.entries e keys)
    (hSettled : c.Settled config)
    (hServed : Served c key outcome r)
    (hKey : key = e.key ∨ key ∈ keys)
    (hFew : keys.card < config.maxEntries) :
    RecentlyUsed r.cache.entries e keys := by
  have hOwn : c.find? e.key = some e :=
    (find?_eq_some_iff hSettled.distinct).mpr ⟨h.mem, rfl⟩
  -- a key without entry is not that of the entry
  have hOther : c.find? key = none → key ∈ keys := by
    intro hFind
    apply hKey.resolve_left
    rintro rfl
    rw [hOwn] at hFind
    cases hFind
  cases hServed with
  | @found _ f _ hFind _ =>
      by_cases hSame : key = e.key
      · rw [hSame, hOwn] at hFind
        cases hFind
        rw [hSame]
        exact .last key_ne_of_mem_others keys
      · have he : e ∈ c.others key :=
          List.mem_filter.mpr ⟨h.mem, by simpa using Ne.symm hSame⟩
        apply (h.of_sublist List.filter_sublist he).concat
        rw [(mem_of_find? hFind).2]
        exact hKey.resolve_left hSame
  | compiled plan hFind =>
      have he := h.mem_makeRoom hSettled hFind (hOther hFind) hFew
      exact (h.of_sublist c.entries_makeRoom_sublist he).concat
        (hOther hFind)
  | failed err hFind =>
      have he := h.mem_makeRoom hSettled hFind (hOther hFind) hFew
      exact h.of_sublist c.entries_makeRoom_sublist he

end Requests

/- A use does not drop the plans for a version of the schema. -/
def Use.Retains (version : UInt64) : Use Φ E → Prop
| .get _ _ => True
| .invalidate least => least ≤ version
| .clear => False

/-
  An entry stays recently used in a run that requests few other
  keys and drops no plans for its version of the schema.
-/
theorem RecentlyUsed.run
    {config : CacheConfig}
    {c : PlanCache Φ}
    {e : CacheEntry Φ}
    {keys : Finset (PlanKey Φ)}
    {us : List (Use Φ E)}
    (h : RecentlyUsed c.entries e keys)
    (hSettled : c.Settled config)
    (hEnabled : config.enabled = true)
    (hFew : keys.card < config.maxEntries)
    (hRetains : ∀ u ∈ us, u.Retains e.key.version)
    (hKeys :
      ∀ u ∈ us, ∀ key, u.key? = some key → key = e.key ∨ key ∈ keys) :
    RecentlyUsed (c.run us).entries e keys := by
  induction us generalizing c with
  | nil => exact h
  | cons u us ih =>
      rcases List.forall_mem_cons.mp hRetains with ⟨hRetain, hRetains⟩
      rcases List.forall_mem_cons.mp hKeys with ⟨hKey, hKeys⟩
      have hUsed : RecentlyUsed (c.use u).entries e keys := by
        cases u with
        | get key outcome =>
            exact h.served hSettled
              (hSettled.served hEnabled key outcome) (hKey key rfl) hFew
        | invalidate version =>
            refine h.of_sublist List.filter_sublist ?_
            exact List.mem_filter.mpr ⟨h.mem, decide_eq_true hRetain⟩
        | clear => exact hRetain.elim
      exact ih hUsed (hSettled.use hEnabled u) hRetains hKeys

------------------------------------------------------------
-- Keys Behind Others
------------------------------------------------------------

omit [DecidableEq Φ] in
/- If a key has an entry, the other key has one behind it. -/
def Behind
    (es : List (CacheEntry Φ))
    (key other : PlanKey Φ) : Prop :=
  ∀ e ∈ es, e.key = key → ∃ f, [e, f].Sublist es ∧ f.key = other

omit [DecidableEq Φ] in
/- A new last entry has the other key, unless that was behind. -/
theorem Behind.concat
    {es : List (CacheEntry Φ)}
    {f : CacheEntry Φ}
    {key other : PlanKey Φ}
    (h : f.key = other ∨ Behind es key other)
    (hNe : f.key ≠ key) :
    Behind (es ++ [f]) key other := by
  intro e he hKey
  have he : e ∈ es := by
    rcases List.mem_append.mp he with he | he
    · exact he
    · rw [List.mem_singleton.mp he] at hKey
      exact absurd hKey hNe
  rcases h with hOther | h
  · exact ⟨f, pair_sublist_concat he f, hOther⟩
  · rcases h e he hKey with ⟨g, hg, hOther⟩
    exact ⟨g, hg.trans (List.sublist_append_left es [f]), hOther⟩

omit [DecidableEq Φ] in
/- Making room keeps what is behind an entry that is kept. -/
theorem pair_sublist_makeRoom
    {c : PlanCache Φ}
    {e f : CacheEntry Φ}
    (hDistinct : c.HasDistinctKeys)
    (he : e ∈ c.makeRoom.entries)
    (h : [e, f].Sublist c.entries) :
    [e, f].Sublist c.makeRoom.entries := by
  rw [entries_makeRoom] at he ⊢
  split at he
  · rename_i hFull
    rw [if_pos hFull]
    exact pair_sublist_tail (List.Nodup.of_map _ hDistinct) he h
  · rename_i hRoom
    rw [if_neg hRoom]
    exact h

/-
  A key stays behind another one when keys other than that are
  requested with success, and comes to be behind when requested.
-/
theorem Behind.served
    {c : PlanCache Φ}
    {key own other : PlanKey Φ}
    {outcome : Except E Plan}
    {r : Response Φ E Unit}
    {plan : CompiledPlan}
    (h : key = other ∨ Behind c.entries own other)
    (hDistinct : c.HasDistinctKeys)
    (hServed : Served c key outcome r)
    (hResult : r.result = .ok plan)
    (hNe : key ≠ own) :
    Behind r.cache.entries own other := by
  cases hServed with
  | @found _ f _ hFind _ =>
      have hKey : f.key = key := (mem_of_find? hFind).2
      apply Behind.concat _ (by rwa [hKey])
      rw [hKey]
      by_cases hOther : key = other
      · exact Or.inl hOther
      · right
        intro e he hOwn
        rcases h.resolve_left hOther e (List.mem_of_mem_filter he) hOwn
          with ⟨g, hg, hEq⟩
        refine ⟨g, pair_sublist_filter hg ?_ ?_, hEq⟩
        · simpa [hOwn] using Ne.symm hNe
        · simpa [hEq] using Ne.symm hOther
  | compiled p hFind =>
      apply Behind.concat _ hNe
      apply h.imp_right
      intro h e he hOwn
      rcases h e (c.entries_makeRoom_sublist.subset he) hOwn
        with ⟨g, hg, hEq⟩
      exact ⟨g, pair_sublist_makeRoom hDistinct he hg, hEq⟩
  | failed err _ => cases hResult

/- All uses are requests, and all requests are answered. -/
def AllSucceed
    (c : PlanCache Φ) : List (Use Φ E) → Prop
| [] => True
| u :: us =>
    (∃ key outcome plan,
        u = .get key outcome ∧
          (c.get key outcome).result = .ok plan) ∧
      AllSucceed (c.use u) us

/-
  If a key has an entry after successful requests for other keys,
  all these keys are behind it.
-/
theorem Behind.run
    {config : CacheConfig}
    {c : PlanCache Φ}
    {own other : PlanKey Φ}
    {us : List (Use Φ E)}
    (h :
      (∃ u ∈ us, u.key? = some other) ∨ Behind c.entries own other)
    (hSettled : c.Settled config)
    (hEnabled : config.enabled = true)
    (hSucceed : c.AllSucceed us)
    (hNe : ∀ u ∈ us, u.key? ≠ some own) :
    Behind (c.run us).entries own other := by
  induction us generalizing c with
  | nil =>
      apply h.resolve_left
      rintro ⟨u, hu, _⟩
      cases hu
  | cons u us ih =>
      rcases hSucceed with
        ⟨⟨key, outcome, plan, rfl, hResult⟩, hSucceed⟩
      rcases List.forall_mem_cons.mp hNe with ⟨hKey, hNe⟩
      have hServed := hSettled.served hEnabled key outcome
      refine ih ?_ (hSettled.use hEnabled _) hSucceed hNe
      have hStep : ∀ h' : key = other ∨ Behind c.entries own other,
          Behind (c.get key outcome).cache.entries own other :=
        fun h' => .served h' hSettled.distinct hServed hResult
          fun hEq => hKey (congrArg some hEq)
      rcases h with ⟨v, hv, hOther⟩ | h
      · rcases List.mem_cons.mp hv with rfl | hv
        · exact Or.inr (hStep (Or.inl (Option.some.inj hOther)))
        · exact Or.inl ⟨v, hv, hOther⟩
      · exact Or.inr (hStep (Or.inr h))

------------------------------------------------------------
-- Plans That Are Found Again
------------------------------------------------------------

/- The keys that are requested, but for one. -/
def otherKeys
    (key : PlanKey Φ)
    (us : List (Use Φ E)) : Finset (PlanKey Φ) :=
  (us.filterMap Use.key?).toFinset.erase key

/- The other keys that are requested. -/
theorem mem_otherKeys_iff
    {key other : PlanKey Φ}
    {us : List (Use Φ E)} :
    other ∈ otherKeys key us ↔
      other ≠ key ∧ ∃ u ∈ us, u.key? = some other := by
  unfold otherKeys
  rw [Finset.mem_erase, List.mem_toFinset, List.mem_filterMap]

omit [DecidableEq Φ] in
/- A request is answered with a plan, and none is compiled. -/
def Response.Finds
    (r : Response Φ E Unit)
    (plan : CompiledPlan) : Prop :=
  r.result = .ok plan ∧ r.report = none

/- A key with an entry is found. -/
theorem Served.finds
    {c : PlanCache Φ}
    {key : PlanKey Φ}
    {outcome : Except E Plan}
    {r : Response Φ E Unit}
    (hServed : Served c key outcome r)
    {e : CacheEntry Φ}
    (hFind : c.find? key = some e)
    {plan : CompiledPlan}
    (hPlan : e.content = some plan) :
    r.Finds plan := by
  cases hServed with
  | found hFound hContent =>
      rw [hFind] at hFound
      cases hFound
      rw [hPlan] at hContent
      cases hContent
      exact ⟨rfl, rfl⟩
  | compiled p hNone =>
      rw [hFind] at hNone
      cases hNone
  | failed err hNone =>
      rw [hFind] at hNone
      cases hNone

/- If none is compiled, the key has an entry. -/
theorem Served.exists_entry
    {c : PlanCache Φ}
    {key : PlanKey Φ}
    {outcome : Except E Plan}
    {r : Response Φ E Unit}
    (hServed : Served c key outcome r)
    (hReport : r.report = none) :
    ∃ e ∈ c.entries, e.key = key := by
  cases hServed with
  | found hFind _ => exact ⟨_, mem_of_find? hFind⟩
  | compiled p _ => cases hReport
  | failed err _ => cases hReport

/- Successful requests drop no plans for any version. -/
theorem AllSucceed.retains
    {c : PlanCache Φ}
    {us : List (Use Φ E)}
    (h : c.AllSucceed us)
    (version : UInt64) :
    ∀ u ∈ us, u.Retains version := by
  induction us generalizing c with
  | nil => simp
  | cons u us ih =>
      rcases h with ⟨⟨key, outcome, plan, rfl, _⟩, hRest⟩
      exact List.forall_mem_cons.mpr ⟨trivial, ih hRest⟩

/-
  If all other keys that were requested are behind a key with an
  entry, there were fewer of them than there are entries.
-/
theorem card_otherKeys_lt
    {c : PlanCache Φ}
    {key : PlanKey Φ}
    {us : List (Use Φ E)}
    {e : CacheEntry Φ}
    (he : e ∈ c.entries)
    (hKey : e.key = key)
    (hBehind : ∀ other ∈ otherKeys key us, Behind c.entries key other) :
    (otherKeys key us).card < c.size := by
  have hSubset :
      insert key (otherKeys key us) ⊆
        (c.entries.map CacheEntry.key).toFinset := by
    apply Finset.insert_subset
    · rw [List.mem_toFinset, ← hKey]
      exact List.mem_map_of_mem he
    · intro other hOther
      rcases hBehind other hOther e he hKey with ⟨f, hf, rfl⟩
      rw [List.mem_toFinset]
      apply List.mem_map_of_mem
      exact hf.subset (List.mem_cons_of_mem _ List.mem_cons_self)
  have hNot : key ∉ otherKeys key us := Finset.notMem_erase key _
  calc
    (otherKeys key us).card
        < (insert key (otherKeys key us)).card := by
      rw [Finset.card_insert_of_notMem hNot]
      exact Nat.lt_succ_self _
    _ ≤ (c.entries.map CacheEntry.key).toFinset.card :=
      Finset.card_le_card hSubset
    _ ≤ (c.entries.map CacheEntry.key).length :=
      List.toFinset_card_le _
    _ = c.size := List.length_map _

namespace Settled

variable
  {config : CacheConfig}
  {c : PlanCache Φ}
  {key : PlanKey Φ}
  {outcome : Except E Plan}
  {plan : CompiledPlan}
  {later : List (Use Φ E)}

/- A plan is found again after requests for few other keys. -/
theorem finds_run
    (h : c.Settled config)
    (hEnabled : config.enabled = true)
    (hResult : (c.get key outcome).result = .ok plan)
    (hRetains : ∀ u ∈ later, u.Retains key.version)
    (hFew : (otherKeys key later).card < config.maxEntries)
    (next : Except E Plan) :
    (((c.get key outcome).cache.run later).get key next).Finds plan := by
  have hServed := h.served hEnabled key outcome
  have hAfter := hServed.settled h
  have hLater := hAfter.run hEnabled later
  rcases hServed.recentlyUsed hResult (otherKeys key later)
    with ⟨e, rfl, hPlan, hRecent⟩
  have hKeys : ∀ u ∈ later, ∀ k, u.key? = some k →
      k = e.key ∨ k ∈ otherKeys e.key later := by
    intro u hu k hk
    rw [or_iff_not_imp_left]
    exact fun hNe => mem_otherKeys_iff.mpr ⟨hNe, u, hu, hk⟩
  have hLast := hRecent.run hAfter hEnabled hFew hRetains hKeys
  have hFind := (find?_eq_some_iff hLater.distinct).mpr ⟨hLast.mem, rfl⟩
  exact (hLater.served hEnabled e.key next).finds hFind hPlan

/-
  After successful requests for other keys, a plan is found again
  only if these are few.
-/
theorem card_lt_of_report_eq_none
    (h : c.Settled config)
    (hEnabled : config.enabled = true)
    (hRoom : 1 ≤ config.maxEntries)
    (hSucceed : c.AllSucceed later)
    (hNe : ∀ u ∈ later, u.key? ≠ some key)
    {next : Except E Plan}
    (hReport : ((c.run later).get key next).report = none) :
    (otherKeys key later).card < config.maxEntries := by
  have hLater := h.run hEnabled later
  have hServed := hLater.served hEnabled key next
  rcases hServed.exists_entry hReport with ⟨e, he, hKey⟩
  have hLt : (otherKeys key later).card < (c.run later).size := by
    apply card_otherKeys_lt he hKey
    intro other hOther
    exact Behind.run (Or.inl (mem_otherKeys_iff.mp hOther).2) h hEnabled
      hSucceed hNe
  have hSize := hLater.size_le
  omega

/-
  After successful requests for other keys, a plan is found again
  exactly if these are few, and compiled anew otherwise.
-/
theorem finds_run_iff
    (h : c.Settled config)
    (hEnabled : config.enabled = true)
    (hRoom : 1 ≤ config.maxEntries)
    (hResult : (c.get key outcome).result = .ok plan)
    (hSucceed : (c.get key outcome).cache.AllSucceed later)
    (hNe : ∀ u ∈ later, u.key? ≠ some key)
    (next : Except E Plan) :
    let r := ((c.get key outcome).cache.run later).get key next
    (r.Finds plan ↔
        (otherKeys key later).card < config.maxEntries) ∧
      (r.report = some () ↔
        config.maxEntries ≤ (otherKeys key later).card) := by
  intro r
  have hAfter := (h.served hEnabled key outcome).settled h
  have hFinds :
      (otherKeys key later).card < config.maxEntries →
        r.Finds plan := by
    intro hFew
    exact h.finds_run hEnabled hResult (hSucceed.retains key.version)
      hFew next
  have hFew :
      r.report = none →
        (otherKeys key later).card < config.maxEntries :=
    hAfter.card_lt_of_report_eq_none hEnabled hRoom hSucceed hNe
  refine ⟨⟨fun hFound => hFew hFound.2, hFinds⟩, ?_⟩
  rw [← Nat.not_lt]
  constructor
  · intro hReport hCard
    rw [(hFinds hCard).2] at hReport
    cases hReport
  · intro hMany
    cases hReport : r.report with
    | none => exact absurd (hFew hReport) hMany
    | some made => rfl

end Settled

/-
  A new cache never has more entries than allowed, keeps the plans
  that were requested recently, and drops the least recent one.
-/
structure KeepsRecent
    (Φ E : Type)
    [DecidableEq Φ]
    (config : CacheConfig) : Prop where
  size_le :
    ∀ us : List (Use Φ E),
      ((empty config).run us).size ≤ config.maxEntries
  /-
    A plan is found again if fewer other keys were requested since
    then than there may be entries, and its version of the schema
    was not dropped.
  -/
  finds :
    ∀ (before later : List (Use Φ E)) key outcome plan,
      (((empty config).run before).get key outcome).result =
          .ok plan →
      (∀ u ∈ later, u.Retains key.version) →
      (otherKeys key later).card < config.maxEntries →
      ∀ next : Except E Plan,
        (((empty config).run
            (before ++ .get key outcome :: later)).get
          key next).Finds plan
  /-
    If all requests since the last one for a key were answered,
    its plan is found again only then, and compiled anew otherwise.
  -/
  finds_iff :
    ∀ (before later : List (Use Φ E)) key outcome plan,
      (((empty config).run before).get key outcome).result =
          .ok plan →
      AllSucceed ((empty config).run (before ++ [.get key outcome]))
        later →
      (∀ u ∈ later, u.key? ≠ some key) →
      ∀ next : Except E Plan,
        let r :=
          ((empty config).run
            (before ++ .get key outcome :: later)).get key next
        (r.Finds plan ↔
            (otherKeys key later).card < config.maxEntries) ∧
          (r.report = some () ↔
            config.maxEntries ≤ (otherKeys key later).card)
  /-
    The entries are in the order of the stamps that a clock gave
    them at their last requests.
  -/
  stamps :
    ∀ us : List (Use Φ E),
      (us.foldl Stamps.use .zero).Sorts ((empty config).run us).entries
  /- The entry that a request drops has the least stamp. -/
  least :
    ∀ (us : List (Use Φ E)) key (outcome : Except E Plan),
      let c := (empty config).run us
      let s : Stamps Φ := us.foldl Stamps.use .zero
      ∀ e ∈ c.entries, e ∉ (c.get key outcome).cache.entries →
        ∀ f ∈ c.entries, f ≠ e → s.lastUsed e.key < s.lastUsed f.key

/- A cache that is in use and has room keeps the recent plans. -/
theorem keepsRecent_of_enabled
    {config : CacheConfig}
    (hEnabled : config.enabled = true)
    (hRoom : 1 ≤ config.maxEntries) :
    KeepsRecent Φ E config := by
  have hRun : ∀ us : List (Use Φ E),
      ((empty config).run us).Settled config :=
    (Settled.empty config).run hEnabled
  constructor
  · intro us
    have hSize := (hRun us).size_le
    exact Nat.le_trans hSize (Nat.max_le.mpr ⟨Nat.le_refl _, hRoom⟩)
  · intro before later key outcome plan hResult hRetains hFew next
    rw [run_append, run_cons]
    exact (hRun before).finds_run hEnabled hResult hRetains hFew next
  · intro before later key outcome plan hResult hSucceed hNe next
    rw [run_append] at hSucceed ⊢
    exact (hRun before).finds_run_iff hEnabled hRoom hResult hSucceed
      hNe next
  · intro us
    exact Stamps.sorts_run_empty hEnabled us
  · intro us key outcome c s e he hDropped f hf hNe
    have hServed := (hRun us).served hEnabled key outcome
    exact (Stamps.sorts_run_empty hEnabled us).lastUsed_lt_of_dropped
      (hRun us) hServed he hDropped hf hNe

end Keyed

------------------------------------------------------------
-- Two Entries
------------------------------------------------------------

/- A request that succeeds if a plan has to be compiled. -/
def successfulGet (signature : String) : Use Unit Unit :=
  .get (namedKey signature) (.ok ⟨[], .empty, none⟩)

/-
  Of three keys, a cache for two plans has the one that was
  requested twice, and not the one before that.
-/
theorem keepsRecent_of_enabled_twoEntries :
    let config : CacheConfig := ⟨true, 2⟩
    let c : PlanCache Unit :=
      (empty config).run (["a", "b", "a", "c"].map successfulGet)
    config.enabled = true ∧
      1 ≤ config.maxEntries ∧
      (c.get (namedKey "a") (.error ())).Finds
        ⟨0, ⟨[], .empty, none⟩⟩ ∧
      (c.get (namedKey "b") (.error ())).report = some () := by
  intro config c
  have hKeeps : KeepsRecent Unit Unit config :=
    keepsRecent_of_enabled rfl (by decide)
  refine ⟨rfl, by decide, ?_, ?_⟩
  · exact hKeeps.finds (["a", "b"].map successfulGet)
      (["c"].map successfulGet) (namedKey "a") (.ok ⟨[], .empty, none⟩)
      ⟨0, ⟨[], .empty, none⟩⟩ rfl (by simp [successfulGet, Use.Retains])
      (by decide) (.error ())
  · have hIff :=
      hKeeps.finds_iff (["a"].map successfulGet)
        (["a", "c"].map successfulGet) (namedKey "b")
        (.ok ⟨[], .empty, none⟩) ⟨1, ⟨[], .empty, none⟩⟩ rfl
        ⟨⟨_, _, _, rfl, rfl⟩, ⟨_, _, _, rfl, rfl⟩, trivial⟩
        (by decide) (.error ())
    exact hIff.2.mpr (by decide)

end PlanCache

end TraversalPlanner
