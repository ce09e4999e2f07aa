import TraversalPlanner.Planner.Planner
import TraversalPlanner.Proofs.Cache.Lookup
import TraversalPlanner.Proofs.Schema.DocumentReading
import TraversalPlanner.Regex.Validity

/-
  Which plans a planner can drop by the version of a schema.  Each
  definition raises the version by one, so earlier states of a
  schema are older than it.  A document can start from the last
  version, and then no definition can be made, and no version
  outdates the plans that are cached.

  Main declarations:
    * `SchemaGraph.history`
    * `SchemaGraph.version_lt_of_mem_history`
    * `PlanCache.find?_invalidate`
    * `Planner.forall_outdated_of_defineAll`
    * `Planner.exists_undefinable_concept`
-/

namespace TraversalPlanner

------------------------------------------------------------
-- Earlier States
------------------------------------------------------------

namespace SchemaGraph

/-
  The states of a schema before each of some definitions, up to
  the first one that cannot be made.
-/
def history (g : SchemaGraph) : List SchemaConcept → List SchemaGraph
| [] => []
| c :: cs => g :: (g.define c).elim [] fun next => next.history cs

/- Each state comes after some of the definitions, but not all. -/
theorem mem_history_iff
    {past : SchemaGraph}
    {cs : List SchemaConcept} :
    ∀ {g : SchemaGraph},
      past ∈ g.history cs ↔
        ∃ k < cs.length, g.defineAll (cs.take k) = some past := by
  induction cs with
  | nil => simp [history]
  | cons c cs ih =>
      intro g
      have hLater :
          past ∈ ((g.define c).elim [] fun next => next.history cs) ↔
            ∃ k < cs.length,
              g.defineAll (c :: cs.take k) = some past := by
        simp only [defineAll_cons_eq_some_iff]
        cases g.define c with
        | none => simp
        | some next => simpa using ih
      rw [history, List.mem_cons, hLater]
      constructor
      · rintro (rfl | ⟨k, hk, hAll⟩)
        · exact ⟨0, Nat.succ_pos _, rfl⟩
        · exact ⟨k + 1, Nat.succ_lt_succ hk, hAll⟩
      · rintro ⟨k, hk, hAll⟩
        cases k with
        | zero =>
            cases hAll
            exact Or.inl rfl
        | succ k => exact Or.inr ⟨k, Nat.lt_of_succ_lt_succ hk, hAll⟩

/- Earlier states are older than what the definitions lead to. -/
theorem version_lt_of_mem_history
    {g last past : SchemaGraph}
    {cs : List SchemaConcept}
    (hAll : g.defineAll cs = some last)
    (hPast : past ∈ g.history cs) :
    past.version < last.version := by
  rcases mem_history_iff.mp hPast with ⟨k, hk, hSome⟩
  rw [UInt64.lt_iff_toNat_lt, toNat_version_of_defineAll hSome,
    toNat_version_of_defineAll hAll,
    List.length_take_of_le (Nat.le_of_lt hk)]
  exact Nat.add_lt_add_left hk _

end SchemaGraph

------------------------------------------------------------
-- Outdated Plans
------------------------------------------------------------

namespace PlanCache

/- Dropping old plans leaves the entries of all other keys. -/
theorem find?_invalidate
    {Φ : Type}
    [DecidableEq Φ]
    (c : PlanCache Φ)
    (version : UInt64)
    (key : PlanKey Φ) :
    (c.invalidate version).2.find? key =
      if version ≤ key.version then c.find? key else none := by
  unfold invalidate find?
  rw [List.find?_filter]
  split
  · rename_i hKept
    congr 1
    funext e
    by_cases hKey : e.key = key
    · simp [hKey, hKept]
    · simp [hKey]
  · rename_i hDropped
    rw [List.find?_eq_none]
    intro e _
    simp only [decide_eq_true_eq, not_and]
    rintro hVersion rfl
    exact hDropped hVersion

end PlanCache

namespace Planner

/-
  Dropping the plans older than a version drops all plans for a
  schema exactly if the schema is older.
-/
theorem forall_find?_invalidate_iff
    {g : SchemaGraph}
    {version : UInt64} :
    (∀ (cache : PlanCache ConceptMap) (pattern : Pattern)
        (startVars : VarSet),
        (cache.invalidate version).2.find?
            (key pattern ⟨g, true⟩ startVars) =
          none) ↔
      g.version < version := by
  have hKey : ∀ (pattern : Pattern) (startVars : VarSet),
      (key pattern ⟨g, true⟩ startVars).version = g.version :=
    fun _ _ => rfl
  simp only [PlanCache.find?_invalidate, hKey]
  constructor
  · intro h
    apply UInt64.not_le.mp
    intro hVersion
    -- some plan is in the cache after it was requested
    let requested := key ⟨[]⟩ ⟨g, true⟩ .empty
    have hRequest := PlanCache.find?_request
      (PlanCache.HasDistinctKeys.empty .standard) requested
    have hNone := h ((PlanCache.empty .standard).request requested).2
      ⟨[]⟩ .empty
    rw [if_pos hVersion, hRequest] at hNone
    cases hNone
  · intro hVersion cache pattern startVars
    exact if_neg (UInt64.not_le.mpr hVersion)

/-
  Definitions can be made exactly if there are versions for all of
  them.  Then earlier states of the schema have smaller versions,
  and dropping the plans that are older than the schema drops
  those for all its earlier states, and keeps those for its own
  version and for later ones.
-/
theorem forall_outdated_of_defineAll
    (g : SchemaGraph)
    (cs : List SchemaConcept) :
    ((∃ last, g.defineAll cs = some last) ↔
      g.version.toNat + cs.length < UInt64.size) ∧
    ∀ last, g.defineAll cs = some last →
      (∀ past ∈ g.history cs,
        past.version < last.version) ∧
      (∀ past ∈ g.history cs,
        ∀ (cache : PlanCache ConceptMap) (pattern : Pattern)
          (startVars : VarSet),
          (cache.invalidate last.version).2.find?
              (key pattern ⟨past, true⟩ startVars) =
            none) ∧
      (∀ (cache : PlanCache ConceptMap) (kept : PlanKey ConceptMap),
        last.version ≤ kept.version →
          (cache.invalidate last.version).2.find? kept =
            cache.find? kept) := by
  refine ⟨SchemaGraph.exists_defineAll_iff, ?_⟩
  intro last hAll
  refine ⟨fun past hPast => ?_, fun past hPast => ?_, ?_⟩
  · exact SchemaGraph.version_lt_of_mem_history hAll hPast
  · exact forall_find?_invalidate_iff.mpr
      (SchemaGraph.version_lt_of_mem_history hAll hPast)
  · intro cache kept hVersion
    rw [PlanCache.find?_invalidate, if_pos hVersion]

/- A type of movies. -/
def movieConcept : SchemaConcept :=
  SchemaConcept.ofKind "movie" .entityType

/- The schema that has this type besides the built-in concepts. -/
def movieSchema : SchemaGraph :=
  .ofConcepts [movieConcept] (by decide)

/- Its definition outdates all plans for the built-in concepts. -/
theorem forall_outdated_initial :
    SchemaGraph.initial.defineAll [movieConcept] = some movieSchema ∧
      SchemaGraph.initial.version < movieSchema.version ∧
      ∀ (cache : PlanCache ConceptMap) (pattern : Pattern)
        (startVars : VarSet),
        (cache.invalidate movieSchema.version).2.find?
            (key pattern ⟨.initial, true⟩ startVars) =
          none := by
  have hAll :
      SchemaGraph.initial.defineAll [movieConcept] = some movieSchema :=
    SchemaGraph.defineAll_initial _ _
  have hPast : SchemaGraph.initial ∈
      SchemaGraph.initial.history [movieConcept] :=
    List.mem_cons_self
  rcases (forall_outdated_of_defineAll .initial [movieConcept]).2 _ hAll
    with ⟨hOlder, hDropped, _⟩
  exact ⟨hAll, hOlder _ hPast, hDropped _ hPast⟩

section LastVersion

attribute [local instance] Regex.grammar

/- A document that starts from the last version. -/
def lastVersionDocument : String :=
  "\x7b\"version\":18446744073709551615,\"concepts\":\x7b\x7d\x7d"

/- The schema of that document. -/
def lastVersion : SchemaGraph :=
  { SchemaGraph.initial with version := 18446744073709551615 }

/- The instances of all entity types. -/
def entityPattern : Pattern where
  clauses := [⟨⟨"x"⟩, [.isa (.label "entity")]⟩]

/-
  On top of that schema no definition can be made, so none raises
  the version.  A plan that is cached for it stays in the cache,
  whatever version older plans are dropped by.
-/
theorem exists_undefinable_concept :
    SchemaGraph.load (.text lastVersionDocument) = .ok lastVersion ∧
      lastVersion.define movieConcept = none ∧
      (¬ ∃ next, lastVersion.define movieConcept = some next ∧
        lastVersion.version < next.version) ∧
      let cache := (standard.plan entityPattern ⟨lastVersion, true⟩).2.cache
      let requested := key entityPattern ⟨lastVersion, true⟩ .empty
      cache.contains requested = true ∧
        ∀ version,
          (cache.invalidate version).2.find? requested =
            cache.find? requested := by
  have hNone : lastVersion.define movieConcept = none := by
    decide +kernel
  refine ⟨by decide +kernel, hNone, ?_, by decide +kernel, ?_⟩
  · rintro ⟨next, hNext, _⟩
    rw [hNone] at hNext
    cases hNext
  · intro version
    rw [PlanCache.find?_invalidate, if_pos]
    exact UInt64.le_iff_toNat_le.mpr (Nat.le_of_lt_succ version.toNat_lt)

end LastVersion

end Planner

end TraversalPlanner
