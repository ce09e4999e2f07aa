/-
  This file defines the settings of plan caches.

  Key definitions include:
    * `CacheConfig`
    * `CacheConfig.standard`
    * `CacheConfig.isUsable`
-/

namespace TraversalPlanner

------------------------------------------------------------
-- Settings
------------------------------------------------------------

/- Whether plans are cached, and how many at most. -/
structure CacheConfig where
  enabled : Bool
  maxEntries : Nat
deriving DecidableEq, Repr

namespace CacheConfig

/- The settings that are used unless others are given. -/
def standard : CacheConfig where
  enabled := true
  maxEntries := 1000

/- Settings for many repeated queries. -/
def readOptimized : CacheConfig :=
  { standard with maxEntries := 10000 }

/- Settings for a cache that is soon full. -/
def small : CacheConfig :=
  { standard with maxEntries := 4 }

/- Settings for a cache that compiles every plan anew. -/
def disabled : CacheConfig :=
  { standard with enabled := false }

/- A cache that is enabled has room for a plan. -/
def isUsable (c : CacheConfig) : Bool :=
  !c.enabled || decide (0 < c.maxEntries)

end CacheConfig

end TraversalPlanner
