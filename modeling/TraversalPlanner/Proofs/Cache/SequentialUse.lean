import TraversalPlanner.Proofs.Cache.Contents
import TraversalPlanner.Proofs.Cache.Lookup

/-
  Uses of a plan cache one after the other.  Each request ends,
  and with it the attempt to compile its plan, before the next use
  begins, so between two uses every cell of the cache is filled.

  Main declarations:
    * `PlanCache.get`, `PlanCache.Use`, `PlanCache.run`
    * `PlanCache.Served`
    * `PlanCache.Settled`
    * `PlanCache.Settled.served`
    * `PlanCache.Settled.run`
-/

namespace TraversalPlanner

namespace PlanCache

variable
  {Φ E : Type}

------------------------------------------------------------
-- Uses
------------------------------------------------------------

/-
  What a cache is used for: to get the plan of a key, with what an
  attempt to compile one would come to, or to drop entries.
-/
inductive Use (Φ E : Type) where
| get :
    (key : PlanKey Φ) →
    (outcome : Except E Plan) →
    Use Φ E
| invalidate : UInt64 → Use Φ E
| clear : Use Φ E

/- The key that is requested. -/
def Use.key? : Use Φ E → Option (PlanKey Φ)
| .get key _ => some key
| .invalidate _ => none
| .clear => none

section Keyed

variable [DecidableEq Φ]

/-
  Get the plan of a key.  The attempt to compile it, if there is
  one, does not use the cache, and reports that it was made.
-/
def get
    (c : PlanCache Φ)
    (key : PlanKey Φ)
    (outcome : Except E Plan) : Response Φ E Unit :=
  c.getOrCompile key fun cache => ⟨outcome, (), cache⟩

/- The cache after a use. -/
def use
    (c : PlanCache Φ) : Use Φ E → PlanCache Φ
| .get key outcome => (c.get key outcome).cache
| .invalidate version => (c.invalidate version).2
| .clear => c.clear

/- The cache after uses one after the other. -/
def run
    (c : PlanCache Φ)
    (us : List (Use Φ E)) : PlanCache Φ :=
  us.foldl use c

/- Uses are made one by one. -/
theorem run_cons
    (c : PlanCache Φ)
    (u : Use Φ E)
    (us : List (Use Φ E)) :
    c.run (u :: us) = (c.use u).run us :=
  rfl

/- Uses are made after those before them. -/
theorem run_append
    (c : PlanCache Φ)
    (us vs : List (Use Φ E)) :
    c.run (us ++ vs) = (c.run us).run vs :=
  List.foldl_append

end Keyed

------------------------------------------------------------
-- Cells That Are Filled at Once
------------------------------------------------------------

/- Add a cell for a key, with a plan in it. -/
def addFilled
    (c : PlanCache Φ)
    (key : PlanKey Φ)
    (plan : CompiledPlan) : PlanCache Φ :=
  { c with
    entries := c.entries ++ [⟨key, c.nextCell, some plan⟩]
    nextCell := c.nextCell + 1 }

/- Number a cell that is not kept. -/
def skipCell (c : PlanCache Φ) : PlanCache Φ :=
  { c with nextCell := c.nextCell + 1 }

/- A new cell that is filled is the only one that is filled. -/
theorem fill_addCell
    {P : PlanKey Φ → Plan → Prop}
    {c : PlanCache Φ}
    (h : c.Holds P)
    (key : PlanKey Φ)
    (plan : CompiledPlan) :
    (c.addCell key).2.fill c.nextCell plan = c.addFilled key plan := by
  have hOthers :
      (c.entries.map fun e =>
          if e.cell = c.nextCell then
            { e with content := some plan }
          else e) =
        c.entries.map id := by
    apply List.map_congr_left
    intro e he
    exact if_neg (Nat.ne_of_lt (h.cell_lt e he))
  unfold fill addCell addFilled
  simp only [List.map_append, hOthers, List.map_id, List.map_cons,
    List.map_nil, if_true]

/- Skipping a cell keeps the entries right. -/
theorem Holds.skipCell
    {P : PlanKey Φ → Plan → Prop}
    {c : PlanCache Φ}
    (h : c.Holds P) :
    c.skipCell.Holds P where
  right := h.right
  key_eq := h.key_eq
  cell_lt := by
    intro e he
    exact Nat.lt_succ_of_lt (h.cell_lt e he)

section Keyed

variable [DecidableEq Φ]

/- Giving up a new cell drops it, and no other entry. -/
theorem abandon_addCell
    {c : PlanCache Φ}
    {key : PlanKey Φ}
    (h : c.find? key = none) :
    (c.addCell key).2.abandon key c.nextCell = c.skipCell := by
  have hOthers :
      (c.entries.filter fun e =>
          !decide
            (e.key = key ∧ e.cell = c.nextCell ∧ e.content = none)) =
        c.entries := by
    rw [List.filter_eq_self]
    intro e he
    simp [key_ne_of_find?_eq_none h e he]
  unfold abandon addCell skipCell
  simp only [List.filter_append, hOthers]
  simp

------------------------------------------------------------
-- Settled Caches
------------------------------------------------------------

/-
  What holds between two uses of a cache with some settings.  A
  cache without room takes in one entry all the same.
-/
structure Settled
    (config : CacheConfig)
    (c : PlanCache Φ) : Prop where
  config_eq : c.config = config
  holds : c.Holds fun _ _ => True
  distinct : c.HasDistinctKeys
  filled : ∀ e ∈ c.entries, e.content.isSome = true
  size_le : c.size ≤ max config.maxEntries 1

/-
  How a request is answered, and what becomes of the cache: the
  key has a plan, or a plan is compiled, or that fails.
-/
inductive Served (c : PlanCache Φ) (key : PlanKey Φ) :
    Except E Plan → Response Φ E Unit → Prop where
| found
    {outcome : Except E Plan}
    {e : CacheEntry Φ}
    {plan : CompiledPlan} :
    c.find? key = some e →
    e.content = some plan →
    Served c key outcome
      ⟨.ok plan, none,
        { c with entries := c.others key ++ [e] }.countHit⟩
| compiled
    (plan : Plan) :
    c.find? key = none →
    Served c key (.ok plan)
      ⟨.ok (c.makeRoom.countCompilation plan).1, some (),
        ((c.makeRoom.countCompilation plan).2.addFilled key
          (c.makeRoom.countCompilation plan).1).countMiss⟩
| failed
    (err : E) :
    c.find? key = none →
    Served c key (.error err)
      ⟨.error err, some (), c.makeRoom.skipCell.countMiss⟩

namespace Settled

variable
  {config : CacheConfig}
  {c : PlanCache Φ}

omit [DecidableEq Φ] in
/- A new cache is settled. -/
theorem empty (config : CacheConfig) :
    Settled config (PlanCache.empty (Φ := Φ) config) where
  config_eq := rfl
  holds := .empty config
  distinct := .empty config
  filled := by
    intro e he
    cases he
  size_le := Nat.zero_le _

omit [DecidableEq Φ] in
/- Dropping entries leaves a cache settled. -/
theorem drop
    (h : c.Settled config)
    {es : List (CacheEntry Φ)}
    (hEntries : es.Sublist c.entries) :
    { c with entries := es }.Settled config where
  config_eq := h.config_eq
  holds := h.holds.of_subset hEntries.subset rfl
  distinct := h.distinct.of_sublist hEntries
  filled := fun e he => h.filled e (hEntries.subset he)
  size_le := Nat.le_trans hEntries.length_le h.size_le

omit [DecidableEq Φ] in
/- After making room, there is room for an entry. -/
theorem size_makeRoom_lt
    (h : c.Settled config) :
    c.makeRoom.size < max config.maxEntries 1 := by
  have hSize := h.size_le
  unfold size at hSize ⊢
  rw [entries_makeRoom, h.config_eq]
  split
  · rw [List.length_tail]
    omega
  · unfold size at *
    omega

/- A request is answered in one of the three ways. -/
theorem served
    (h : c.Settled config)
    (hEnabled : config.enabled = true)
    (key : PlanKey Φ)
    (outcome : Except E Plan) :
    Served c key outcome (c.get key outcome) := by
  unfold get getOrCompile
  rw [h.config_eq, if_pos hEnabled]
  cases hFind : c.find? key with
  | some e =>
      rcases Option.isSome_iff_exists.mp
        (h.filled e (mem_of_find? hFind).1) with ⟨plan, hPlan⟩
      rw [request_of_find? hFind]
      simp only [hPlan]
      exact .found hFind hPlan
  | none =>
      rw [request_of_find?_eq_none hFind]
      cases outcome with
      | ok plan =>
          have hFill :=
            fill_addCell (h.holds.makeRoom.countCompilation plan) key
              (c.makeRoom.countCompilation plan).1
          have hCompiled := Served.compiled plan hFind (E := E)
          rw [← hFill] at hCompiled
          exact hCompiled
      | error err =>
          have hNone : c.makeRoom.find? key = none := by
            rw [find?, List.find?_eq_none]
            intro e he
            simpa using key_ne_of_mem_makeRoom hFind e he
          have hFailed := Served.failed err hFind
          rw [← abandon_addCell hNone] at hFailed
          exact hFailed

end Settled

/- A cache is settled again after a request. -/
theorem Served.settled
    {config : CacheConfig}
    {c : PlanCache Φ}
    {key : PlanKey Φ}
    {outcome : Except E Plan}
    {r : Response Φ E Unit}
    (hServed : Served c key outcome r)
    (h : c.Settled config) :
    r.cache.Settled config := by
  have hMade : c.makeRoom.entries.Sublist c.entries :=
    c.entries_makeRoom_sublist
  have hConfig : c.makeRoom.config = config := by
    rw [config_makeRoom, h.config_eq]
  cases hServed with
  | @found _ e plan hFind hPlan =>
      have hHolds := (h.holds.request key).1
      have hDistinct := h.distinct.request key
      rw [request_of_find? hFind] at hHolds hDistinct
      refine ⟨h.config_eq, hHolds.countHit, hDistinct, ?_, ?_⟩
      · intro f hf
        rcases List.mem_append.mp hf with hf | hf
        · exact h.filled f (List.mem_of_mem_filter hf)
        · rw [List.mem_singleton.mp hf, hPlan]
          rfl
      · have hSize := h.size_le
        rw [size_eq_of_find? h.distinct hFind] at hSize
        simp only [size, countHit, List.length_append,
          List.length_singleton]
        exact hSize
  | compiled plan hFind =>
      have hCounted := h.holds.makeRoom.countCompilation plan
      have hHolds := (hCounted.addCell key).fill_any
        (c.makeRoom.countCompilation plan).2.nextCell
        (c.makeRoom.countCompilation plan).1
      rw [fill_addCell hCounted] at hHolds
      refine ⟨hConfig, hHolds.countMiss, ?_, ?_, ?_⟩
      · exact HasDistinctKeys.append (h.distinct.of_sublist hMade)
          (key_ne_of_mem_makeRoom hFind)
      · intro f hf
        rcases List.mem_append.mp hf with hf | hf
        · exact h.filled f (hMade.subset hf)
        · rw [List.mem_singleton.mp hf]
          rfl
      · have hLt := h.size_makeRoom_lt
        simp only [size, countMiss, addFilled, countCompilation,
          List.length_append, List.length_singleton]
        exact hLt
  | failed err hFind =>
      refine ⟨hConfig, h.holds.makeRoom.skipCell.countMiss,
        h.distinct.of_sublist hMade, ?_, ?_⟩
      · intro f hf
        exact h.filled f (hMade.subset hf)
      · exact Nat.le_of_lt h.size_makeRoom_lt

------------------------------------------------------------
-- Runs
------------------------------------------------------------

namespace Settled

variable
  {config : CacheConfig}
  {c : PlanCache Φ}

/- A use leaves a cache settled. -/
theorem use
    (h : c.Settled config)
    (hEnabled : config.enabled = true)
    (u : Use Φ E) :
    (c.use u).Settled config := by
  cases u with
  | get key outcome => exact (h.served hEnabled key outcome).settled h
  | invalidate version => exact h.drop List.filter_sublist
  | clear => exact h.drop (List.nil_sublist _)

/- Uses leave a cache settled. -/
theorem run
    (h : c.Settled config)
    (hEnabled : config.enabled = true)
    (us : List (Use Φ E)) :
    (c.run us).Settled config := by
  induction us generalizing c with
  | nil => exact h
  | cons u us ih => exact ih (h.use hEnabled u)

end Settled

end Keyed

------------------------------------------------------------
-- Keys of Their Own
------------------------------------------------------------

/- A key that differs from others in its signature. -/
def namedKey (signature : String) : PlanKey Unit :=
  .of signature .empty () 0

end PlanCache

end TraversalPlanner
