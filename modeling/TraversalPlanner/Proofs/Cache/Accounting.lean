import Mathlib.Algebra.GroupWithZero.Nat
import TraversalPlanner.Proofs.Cache.Recency

/-
  What the counters of a cache say about the uses that were made
  of it.  Every request is a hit or a miss, and every miss had a
  plan compiled or failed.  In a cache that is in use, every plan
  that was compiled is still there, or was dropped to make room,
  or by the caller.

  Main declarations:
    * `PlanCache.Reply`, `PlanCache.replies`
    * `PlanCache.Counts`
    * `PlanCache.counts_run`
    * `PlanCache.Conserves`
    * `PlanCache.Settled.conserves_run`
    * `PlanCache.KeepsAccounts`
    * `PlanCache.keepsAccounts_empty`
-/

namespace TraversalPlanner

namespace PlanCache

variable
  {Φ E : Type}

------------------------------------------------------------
-- Replies
------------------------------------------------------------

/-
  What a use comes to.  A request is answered with a result, and
  with what the attempt to compile a plan came to if there was
  one.  Other uses drop a number of entries.
-/
inductive Reply (E : Type) where
| answered :
    (result : Except E CompiledPlan) →
    (attempt : Option (Except E Plan)) →
    Reply E
| invalidated : (count : Nat) → Reply E
| cleared : (count : Nat) → Reply E

namespace Reply

/- A request was answered. -/
def isAnswer : Reply E → Bool
| .answered _ _ => true
| _ => false

/- A request was answered, and no plan had to be compiled for it. -/
def isFound : Reply E → Bool
| .answered _ none => true
| _ => false

/- A plan was compiled. -/
def isCompiled : Reply E → Bool
| .answered _ (some (.ok _)) => true
| _ => false

/- A request was answered with a failure. -/
def isFailed : Reply E → Bool
| .answered (.error _) _ => true
| _ => false

/- The number of entries that the caller had dropped. -/
def dropped : Reply E → Nat
| .answered _ _ => 0
| .invalidated count => count
| .cleared count => count

end Reply

/- A use is a request. -/
def Use.isGet : Use Φ E → Bool
| .get _ _ => true
| _ => false

/- The reply to a request, with what an attempt would come to. -/
def Response.reply
    (r : Response Φ E Unit)
    (outcome : Except E Plan) : Reply E :=
  .answered r.result (r.report.map fun _ => outcome)

------------------------------------------------------------
-- Counters and Entries
------------------------------------------------------------

/-
  What a cache counts on the way from one state to another, with
  the replies that it gives.
-/
structure Counts
    (c d : PlanCache Φ)
    (rs : List (Reply E)) : Prop where
  answers :
    d.counters.hits + d.counters.misses =
      c.counters.hits + c.counters.misses +
        rs.countP Reply.isAnswer
  hits :
    d.counters.hits = c.counters.hits + rs.countP Reply.isFound
  misses :
    d.counters.misses =
      c.counters.misses +
        (rs.countP Reply.isCompiled + rs.countP Reply.isFailed)
  compilations :
    d.counters.compilations =
      c.counters.compilations + rs.countP Reply.isCompiled

namespace Counts

variable
  {b c d : PlanCache Φ}
  {rs later : List (Reply E)}

/- Nothing is counted without a reply. -/
theorem refl (c : PlanCache Φ) : Counts c c ([] : List (Reply E)) :=
  ⟨rfl, rfl, rfl, rfl⟩

/- Counts add up. -/
theorem trans
    (h : Counts b c rs)
    (hLater : Counts c d later) :
    Counts b d (rs ++ later) where
  answers := by
    rw [hLater.answers, h.answers, List.countP_append, Nat.add_assoc]
  hits := by
    rw [hLater.hits, h.hits, List.countP_append, Nat.add_assoc]
  misses := by
    rw [hLater.misses, h.misses, List.countP_append,
      List.countP_append]
    omega
  compilations := by
    rw [hLater.compilations, h.compilations, List.countP_append,
      Nat.add_assoc]

end Counts

/-
  On the way from one state to another, a plan that is compiled
  becomes an entry, and an entry stays, or is evicted, or dropped
  by the caller.
-/
def Conserves
    (c d : PlanCache Φ)
    (rs : List (Reply E)) : Prop :=
  d.size + d.counters.evictions + (rs.map Reply.dropped).sum =
    c.size + c.counters.evictions + rs.countP Reply.isCompiled

/- What two parts of a way conserve, the whole way does. -/
theorem Conserves.trans
    {b c d : PlanCache Φ}
    {rs later : List (Reply E)}
    (h : Conserves b c rs)
    (hLater : Conserves c d later) :
    Conserves b d (rs ++ later) := by
  unfold Conserves at h hLater ⊢
  rw [List.map_append, List.sum_append, List.countP_append]
  omega

/- An entry that makes room is evicted. -/
theorem conserves_makeRoom (c : PlanCache Φ) :
    Conserves c c.makeRoom ([] : List (Reply E)) := by
  rcases c.makeRoom_eq_or with hSame | ⟨e, rest, hEntries, hDropped⟩
  · rw [hSame]
    rfl
  · rw [Conserves, hDropped]
    simp only [size, hEntries, List.length_cons]
    exact (Nat.add_right_comm rest.length 1 c.counters.evictions).symm

/- Entries that the caller drops are in the reply. -/
theorem conserves_drop
    (c : PlanCache Φ)
    {es : List (CacheEntry Φ)}
    {r : Reply E}
    (hEntries : es.Sublist c.entries)
    (hDropped : r.dropped = c.size - es.length)
    (hCompiled : r.isCompiled = false) :
    Conserves c { c with entries := es } [r] := by
  have hSize : es.length ≤ c.size := hEntries.length_le
  rw [Conserves, List.map_singleton, List.sum_singleton, hDropped,
    List.countP_singleton, hCompiled]
  simp only [size, Bool.false_eq_true, if_false] at hSize ⊢
  omega

section Keyed

variable
  [DecidableEq Φ]

------------------------------------------------------------
-- Uses and Their Replies
------------------------------------------------------------

/- What a use comes to. -/
def reply
    (c : PlanCache Φ) : Use Φ E → Reply E
| .get key outcome => (c.get key outcome).reply outcome
| .invalidate version => .invalidated (c.invalidate version).1
| .clear => .cleared (c.size - c.clear.size)

/- What uses one after the other come to. -/
def replies
    (c : PlanCache Φ) : List (Use Φ E) → List (Reply E)
| [] => []
| u :: us => c.reply u :: (c.use u).replies us

/- The requests are what is answered. -/
theorem countP_isAnswer_replies
    (c : PlanCache Φ)
    (us : List (Use Φ E)) :
    (c.replies us).countP Reply.isAnswer = us.countP Use.isGet := by
  induction us generalizing c with
  | nil => rfl
  | cons u us ih =>
      have hReply : (c.reply u).isAnswer = u.isGet := by
        cases u <;> rfl
      rw [replies, List.countP_cons, List.countP_cons, ih, hReply]

------------------------------------------------------------
-- What Uses Count
------------------------------------------------------------

/- Finding the entry of a key, or adding one, is no reply yet. -/
theorem counts_request
    (c : PlanCache Φ)
    (key : PlanKey Φ) :
    Counts c (c.request key).2 ([] : List (Reply E)) := by
  cases hFind : c.find? key with
  | some e =>
      rw [request_of_find? hFind]
      exact ⟨rfl, rfl, rfl, rfl⟩
  | none =>
      rw [request_of_find?_eq_none hFind]
      rcases c.makeRoom_eq_or with hSame | ⟨e, rest, _, hDropped⟩
      · rw [hSame]
        exact ⟨rfl, rfl, rfl, rfl⟩
      · rw [hDropped]
        exact ⟨rfl, rfl, rfl, rfl⟩

/- A request counts its answer, be the cache in use or not. -/
theorem counts_get
    (c : PlanCache Φ)
    (key : PlanKey Φ)
    (outcome : Except E Plan) :
    Counts c (c.get key outcome).cache
      [(c.get key outcome).reply outcome] := by
  unfold get getOrCompile
  by_cases hEnabled : c.config.enabled = true
  · rw [if_pos hEnabled]
    have hRequest : Counts c (c.request key).2 ([] : List (Reply E)) :=
      c.counts_request key
    apply hRequest.trans
    simp only
    cases (c.request key).1.content with
    | some plan =>
        exact ⟨Nat.add_right_comm _ 1 _, rfl, rfl, rfl⟩
    | none => cases outcome <;> exact ⟨rfl, rfl, rfl, rfl⟩
  · rw [if_neg hEnabled]
    cases outcome <;> exact ⟨rfl, rfl, rfl, rfl⟩

/- A use counts its reply. -/
theorem counts_use
    (c : PlanCache Φ)
    (u : Use Φ E) :
    Counts c (c.use u) [c.reply u] := by
  cases u with
  | get key outcome => exact c.counts_get key outcome
  | invalidate version => exact ⟨rfl, rfl, rfl, rfl⟩
  | clear => exact ⟨rfl, rfl, rfl, rfl⟩

/- Uses count all their replies. -/
theorem counts_run
    (c : PlanCache Φ)
    (us : List (Use Φ E)) :
    Counts c (c.run us) (c.replies us) := by
  induction us generalizing c with
  | nil => exact .refl c
  | cons u us ih => exact (c.counts_use u).trans (ih (c.use u))

/- A request is a hit if and only if no plan is compiled for it. -/
theorem hits_lt_iff
    (c : PlanCache Φ)
    (key : PlanKey Φ)
    (outcome : Except E Plan) :
    c.counters.hits < (c.get key outcome).cache.counters.hits ↔
      (c.get key outcome).report = none := by
  rw [(c.counts_get key outcome).hits, Response.reply]
  cases (c.get key outcome).report with
  | none => simp [Reply.isFound]
  | some made => simp [Reply.isFound]

------------------------------------------------------------
-- What Uses Conserve
------------------------------------------------------------

/- A request adds an entry exactly if it has a plan compiled. -/
theorem Served.conserves
    {c : PlanCache Φ}
    {key : PlanKey Φ}
    {outcome : Except E Plan}
    {r : Response Φ E Unit}
    (hServed : Served c key outcome r)
    (hDistinct : c.HasDistinctKeys) :
    Conserves c r.cache [r.reply outcome] := by
  cases hServed with
  | @found _ e plan hFind hPlan =>
      unfold Conserves
      rw [size_eq_of_find? hDistinct hFind]
      simp only [size, countHit, List.length_append,
        List.length_singleton]
      rfl
  | compiled plan hFind =>
      apply c.conserves_makeRoom.trans
      unfold Conserves
      simp only [size, countMiss, addFilled, countCompilation,
        List.length_append, List.length_singleton]
      exact Nat.add_right_comm _ 1 _
  | failed err hFind =>
      apply c.conserves_makeRoom.trans
      rfl

namespace Settled

variable
  {config : CacheConfig}
  {c : PlanCache Φ}

/- A use of a settled cache conserves its entries. -/
theorem conserves_use
    (h : c.Settled config)
    (hEnabled : config.enabled = true)
    (u : Use Φ E) :
    Conserves c (c.use u) [c.reply u] := by
  cases u with
  | get key outcome =>
      exact (h.served hEnabled key outcome).conserves h.distinct
  | invalidate version =>
      exact c.conserves_drop List.filter_sublist rfl rfl
  | clear => exact c.conserves_drop (List.nil_sublist _) rfl rfl

/- Uses of a settled cache conserve its entries. -/
theorem conserves_run
    (h : c.Settled config)
    (hEnabled : config.enabled = true)
    (us : List (Use Φ E)) :
    Conserves c (c.run us) (c.replies us) := by
  induction us generalizing c with
  | nil => rfl
  | cons u us ih =>
      exact (h.conserves_use hEnabled u).trans (ih (h.use hEnabled u))

end Settled

------------------------------------------------------------
-- Caches That Are Not in Use
------------------------------------------------------------

omit [DecidableEq Φ] in
/- A cache that is not in use has no entries, and finds nothing. -/
structure Idle (c : PlanCache Φ) : Prop where
  disabled : c.config.enabled = false
  entries : c.entries = []
  hits : c.counters.hits = 0

namespace Idle

variable
  {c : PlanCache Φ}

/- Uses leave an idle cache idle. -/
theorem use
    (h : c.Idle)
    (u : Use Φ E) :
    (c.use u).Idle := by
  cases u with
  | get key outcome =>
      rw [PlanCache.use, get, getOrCompile_of_disabled h.disabled]
      cases outcome <;> exact ⟨h.disabled, h.entries, h.hits⟩
  | invalidate version =>
      refine ⟨h.disabled, ?_, h.hits⟩
      simp [PlanCache.use, invalidate, h.entries]
  | clear => exact ⟨h.disabled, rfl, h.hits⟩

/- Uses one after the other leave an idle cache idle. -/
theorem run
    (h : c.Idle)
    (us : List (Use Φ E)) :
    (c.run us).Idle := by
  induction us generalizing c with
  | nil => exact h
  | cons u us ih => exact ih (h.use u)

end Idle

------------------------------------------------------------
-- Accounts
------------------------------------------------------------

/- The counters of a cache account for all uses that are made of it. -/
structure KeepsAccounts
    (E : Type)
    (c : PlanCache Φ) : Prop where
  /- Every request is a hit or a miss. -/
  answers :
    ∀ us : List (Use Φ E),
      (c.run us).counters.hits + (c.run us).counters.misses =
        us.countP Use.isGet
  compilations :
    ∀ us : List (Use Φ E),
      (c.run us).counters.compilations =
        (c.replies us).countP Reply.isCompiled
  /- A miss without compilation is a failure. -/
  misses :
    ∀ us : List (Use Φ E),
      (c.run us).counters.misses =
        (c.run us).counters.compilations +
          (c.replies us).countP Reply.isFailed
  /- A hit has no plan compiled, and nothing else is a hit. -/
  hits_lt_iff :
    ∀ (us : List (Use Φ E)) key (outcome : Except E Plan),
      (c.run us).counters.hits <
          ((c.run us).get key outcome).cache.counters.hits ↔
        ((c.run us).get key outcome).report = none
  filled :
    c.config.enabled = true →
      ∀ us : List (Use Φ E), ∀ e ∈ (c.run us).entries,
        e.content.isSome = true
  /- No plan is lost without being counted. -/
  entries :
    c.config.enabled = true →
      ∀ us : List (Use Φ E),
        (c.run us).counters.compilations =
          (c.run us).size + (c.run us).counters.evictions +
            ((c.replies us).map Reply.dropped).sum
  idle :
    c.config.enabled = false →
      ∀ us : List (Use Φ E),
        (c.run us).counters.hits = 0 ∧ (c.run us).size = 0

/- A new cache keeps accounts, whatever its settings are. -/
theorem keepsAccounts_empty (config : CacheConfig) :
    (empty (Φ := Φ) config).KeepsAccounts E := by
  generalize hNew : empty (Φ := Φ) config = c
  have hCounters : c.counters = .zero := by
    rw [← hNew]
    rfl
  have hSize : c.size = 0 := by
    rw [← hNew]
    rfl
  have hSettled : c.Settled c.config := by
    rw [← hNew]
    exact .empty config
  have hCompilations : ∀ us : List (Use Φ E),
      (c.run us).counters.compilations =
        (c.replies us).countP Reply.isCompiled := by
    intro us
    rw [(c.counts_run us).compilations, hCounters]
    exact Nat.zero_add _
  constructor
  · intro us
    rw [(c.counts_run us).answers, countP_isAnswer_replies, hCounters]
    exact Nat.zero_add _
  · exact hCompilations
  · intro us
    rw [(c.counts_run us).misses, hCompilations us, hCounters]
    exact Nat.zero_add _
  · intro us key outcome
    exact (c.run us).hits_lt_iff key outcome
  · intro hEnabled us
    exact (hSettled.run hEnabled us).filled
  · intro hEnabled us
    have hConserves := hSettled.conserves_run hEnabled us
    rw [hCompilations us, hConserves, hSize, hCounters]
    exact (Nat.zero_add _).symm
  · intro hDisabled us
    have hIdle : c.Idle := by
      constructor
      · exact hDisabled
      · exact List.length_eq_zero_iff.mp hSize
      · rw [hCounters]
        rfl
    have hRun := hIdle.run us
    exact ⟨hRun.hits, List.length_eq_zero_iff.mpr hRun.entries⟩

end Keyed

/-
  Of the four plans that a cache for two compiled, two were
  evicted, one of them for a plan that then failed to be compiled.
  One was dropped as too old, and one was cleared.
-/
theorem keepsAccounts_empty_twoEntries :
    let c : PlanCache Unit := empty ⟨true, 2⟩
    let us : List (Use Unit Unit) :=
      ["a", "b", "a", "c"].map successfulGet ++
        [.get (namedKey "d") (.error ()), .invalidate 1,
          successfulGet "a", .clear]
    c.config.enabled = true ∧
      (c.run us).counters = ⟨1, 5, 4, 2⟩ ∧
      (c.replies us).countP Reply.isFailed = 1 ∧
      (c.run us).size = 0 ∧
      ((c.replies us).map Reply.dropped).sum = 2 := by
  intro c us
  have hKeeps : c.KeepsAccounts Unit := keepsAccounts_empty ⟨true, 2⟩
  have hCounters : (c.run us).counters = ⟨1, 5, 4, 2⟩ := by decide
  have hSize : (c.run us).size = 0 := by decide
  have hMisses := hKeeps.misses us
  have hEntries := hKeeps.entries rfl us
  rw [hCounters] at hMisses hEntries
  rw [hSize] at hEntries
  refine ⟨rfl, hCounters, ?_, hSize, ?_⟩
  · exact (Nat.add_left_cancel (n := 4) hMisses).symm
  · exact (Nat.add_left_cancel (n := 2) hEntries).symm

end PlanCache

end TraversalPlanner
