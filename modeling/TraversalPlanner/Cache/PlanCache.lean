import TraversalPlanner.Cache.Config
import TraversalPlanner.Cache.Key
import TraversalPlanner.Plan.Plan

/-
  This file defines caches of compiled plans.  Every key owns a
  cell, which is empty until a plan for the key is compiled.  A
  full cache drops the entry that was least recently requested.

  Key definitions include:
    * `CompiledPlan`
    * `PlanCache`
    * `PlanCache.request`
    * `PlanCache.fill`
    * `PlanCache.abandon`
    * `PlanCache.Attempt`, `PlanCache.Response`
    * `PlanCache.getOrCompile`
    * `PlanCache.invalidate`
-/

namespace TraversalPlanner

------------------------------------------------------------
-- Entries and Counters
------------------------------------------------------------

/-
  A plan with the number of its compilation, which tells it apart
  from equal plans that were compiled at other times.
-/
structure CompiledPlan where
  serial : Nat
  plan : Plan
deriving DecidableEq

/- The cell of a key, and the plan in it if it is filled. -/
structure CacheEntry (Φ : Type) where
  key : PlanKey Φ
  cell : Nat
  content : Option CompiledPlan
deriving DecidableEq

/- What a cache counts. -/
structure CacheCounters where
  hits : Nat
  misses : Nat
  compilations : Nat
  evictions : Nat
deriving DecidableEq, Repr

namespace CacheCounters

/- The counters of a new cache. -/
def zero : CacheCounters :=
  ⟨0, 0, 0, 0⟩

/- The share of hits among all requests, zero without requests. -/
def hitRate (c : CacheCounters) : Binary64 :=
  let requests := c.hits + c.misses
  if requests = 0 then
    0
  else
    Binary64.ofNat c.hits / Binary64.ofNat requests

end CacheCounters

------------------------------------------------------------
-- Caches
------------------------------------------------------------

/-
  A cache.  Its entries are in the order of their last requests,
  the least recent first.  Every new cell gets a new number.
-/
structure PlanCache (Φ : Type) where
  config : CacheConfig
  entries : List (CacheEntry Φ)
  nextCell : Nat
  counters : CacheCounters
deriving DecidableEq

namespace PlanCache

variable {Φ : Type}

/- The empty cache with some settings. -/
def empty (config : CacheConfig) : PlanCache Φ where
  config := config
  entries := []
  nextCell := 0
  counters := .zero

/- The number of entries, filled or not. -/
def size (c : PlanCache Φ) : Nat :=
  c.entries.length

/- Count a request that found a plan. -/
def countHit (c : PlanCache Φ) : PlanCache Φ :=
  { c with counters := { c.counters with hits := c.counters.hits + 1 } }

/- Count a request that found no plan. -/
def countMiss (c : PlanCache Φ) : PlanCache Φ :=
  { c with counters := { c.counters with misses := c.counters.misses + 1 } }

/- Count a plan that was compiled, and number it. -/
def countCompilation
    (c : PlanCache Φ)
    (plan : Plan) : CompiledPlan × PlanCache Φ :=
  let n := c.counters.compilations
  (⟨n, plan⟩, { c with counters := { c.counters with compilations := n + 1 } })

------------------------------------------------------------
-- Lookup
------------------------------------------------------------

section Keyed

variable [DecidableEq Φ]

/- The entry of a key. -/
def find?
    (c : PlanCache Φ)
    (key : PlanKey Φ) : Option (CacheEntry Φ) :=
  c.entries.find? fun e => decide (e.key = key)

/- A key has a plan. -/
def contains
    (c : PlanCache Φ)
    (key : PlanKey Φ) : Bool :=
  ((c.find? key).bind CacheEntry.content).isSome

------------------------------------------------------------
-- Requests
------------------------------------------------------------

/- The entries without that of a key. -/
def others
    (c : PlanCache Φ)
    (key : PlanKey Φ) : List (CacheEntry Φ) :=
  c.entries.filter fun e => decide (e.key ≠ key)

/- Drop the least recently requested entry, if there is one. -/
def evict (c : PlanCache Φ) : PlanCache Φ :=
  match c.entries with
  | [] => c
  | _ :: rest =>
      { c with
        entries := rest
        counters :=
          { c.counters with evictions := c.counters.evictions + 1 } }

/- Drop an entry if there is no room for another one. -/
def makeRoom (c : PlanCache Φ) : PlanCache Φ :=
  if c.config.maxEntries ≤ c.size then c.evict else c

/- Add an empty cell for a key. -/
def addCell
    (c : PlanCache Φ)
    (key : PlanKey Φ) : CacheEntry Φ × PlanCache Φ :=
  let e : CacheEntry Φ := ⟨key, c.nextCell, none⟩
  (e, { c with entries := c.entries ++ [e], nextCell := c.nextCell + 1 })

/-
  The entry of a key, which becomes the most recent one.  A key
  without entry gets one with an empty cell.
-/
def request
    (c : PlanCache Φ)
    (key : PlanKey Φ) : CacheEntry Φ × PlanCache Φ :=
  match c.find? key with
  | some e => (e, { c with entries := c.others key ++ [e] })
  | none => c.makeRoom.addCell key

/- Put a plan into a cell, if the cache still has it. -/
def fill
    (c : PlanCache Φ)
    (cell : Nat)
    (plan : CompiledPlan) : PlanCache Φ :=
  { c with
    entries := c.entries.map fun e =>
      if e.cell = cell then { e with content := some plan } else e }

/- Drop the entry of a key if it has this cell and is empty. -/
def abandon
    (c : PlanCache Φ)
    (key : PlanKey Φ)
    (cell : Nat) : PlanCache Φ :=
  { c with
    entries := c.entries.filter fun e =>
      !decide (e.key = key ∧ e.cell = cell ∧ e.content = none) }

------------------------------------------------------------
-- Compilation on Demand
------------------------------------------------------------

/-
  What an attempt to compile a plan comes to.  The attempt may
  report something, and may use the cache itself.
-/
structure Attempt (Φ E Ω : Type) where
  result : Except E Plan
  report : Ω
  cache : PlanCache Φ

/-
  What a request for a plan comes to, with the report of the
  attempt to compile it if there was one.
-/
structure Response (Φ E Ω : Type) where
  result : Except E CompiledPlan
  report : Option Ω
  cache : PlanCache Φ

variable {E Ω : Type}

/- Count a compiled plan, if the attempt succeeded. -/
def conclude (a : Attempt Φ E Ω) : Response Φ E Ω :=
  match a.result with
  | .error err => ⟨.error err, some a.report, a.cache⟩
  | .ok plan =>
      let (plan, c) := a.cache.countCompilation plan
      ⟨.ok plan, some a.report, c⟩

/-
  Settle the request that had a plan compiled for the empty cell
  of a key.  A failure leaves no empty cell behind.
-/
def settle
    (key : PlanKey Φ)
    (cell : Nat)
    (r : Response Φ E Ω) : Response Φ E Ω :=
  match r.result with
  | .error _ => { r with cache := r.cache.countMiss.abandon key cell }
  | .ok plan => { r with cache := (r.cache.fill cell plan).countMiss }

/- The cached plan of a key, or a new one. -/
def getOrCompile
    (c : PlanCache Φ)
    (key : PlanKey Φ)
    (compile : PlanCache Φ → Attempt Φ E Ω) : Response Φ E Ω :=
  if c.config.enabled then
    let (entry, c) := c.request key
    match entry.content with
    | some plan => ⟨.ok plan, none, c.countHit⟩
    | none => settle key entry.cell (conclude (compile c))
  else
    conclude (compile c.countMiss)

end Keyed

------------------------------------------------------------
-- Removal
------------------------------------------------------------

/-
  Drop the plans for schemas older than a version, and say how
  many entries that were.
-/
def invalidate
    (c : PlanCache Φ)
    (version : UInt64) : Nat × PlanCache Φ :=
  let kept := c.entries.filter fun e => decide (version ≤ e.key.version)
  (c.size - kept.length, { c with entries := kept })

/- Drop all entries. -/
def clear (c : PlanCache Φ) : PlanCache Φ :=
  { c with entries := [] }

end PlanCache

end TraversalPlanner
