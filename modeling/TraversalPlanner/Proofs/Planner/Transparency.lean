import TraversalPlanner.Planner.Planner
import TraversalPlanner.Proofs.Cache.Contents
import TraversalPlanner.Proofs.Pattern.SignatureReading
import TraversalPlanner.Proofs.Plan.CanonicalPlanning
import TraversalPlanner.Proofs.Schema.Acceptance
import TraversalPlanner.Regex.Validity

/-
  The plan cache is transparent.  Whatever is planned, cleared
  and invalidated in between, a planner answers as one without a
  cache does, if all literals that stand for no number are taken
  as one.

  Main declarations:
    * `Planner.compile_of_key_eq`
    * `Planner.Call`
    * `Planner.answers`
    * `Planner.answers_eq_compiled`
    * `Planner.answers_of_disabled`
    * `Planner.answers_eq_of_disabled`
-/

namespace TraversalPlanner

------------------------------------------------------------
-- Keys
------------------------------------------------------------

namespace VarSet

/- Sets of variables that are written alike are the same. -/
theorem render_injective
    {s t : VarSet}
    (h : s.render = t.render) :
    s = t := by
  have hVar : ∀ x y : Var, x.render = y.render → x = y := by
    intro x y hText
    have hName := congrArg String.toList hText
    unfold Var.render at hName
    rw [String.toList_append, String.toList_append] at hName
    cases x
    cases y
    exact congrArg Var.mk
      (String.toList_inj.mp (List.append_cancel_left hName))
  have hList : s.toList = t.toList := (List.map_inj_right hVar).mp h
  cases s
  cases t
  cases hList
  rfl

end VarSet

namespace Planner

/- What the key of a plan shows. -/
theorem of_key_eq
    {pattern pattern' : Pattern}
    {schema schema' : SchemaView}
    {startVars startVars' : VarSet}
    (h :
      key pattern schema startVars = key pattern' schema' startVars') :
    pattern.canonical = pattern'.canonical ∧
      schema.graph.concepts = schema'.graph.concepts ∧
      startVars = startVars' := by
  unfold key PlanKey.of at h
  injection h with hSignature hStart hFingerprint _
  exact ⟨Pattern.canonical_eq_of_signature_eq hSignature, hFingerprint,
    VarSet.render_injective hStart⟩

------------------------------------------------------------
-- Compilation
------------------------------------------------------------

/- A planner with usable settings is one without plans. -/
theorem eq_build_of_ofConfig
    {config : PlannerConfig}
    {p : Planner}
    (h : ofConfig config = .ok p) :
    p = build config := by
  unfold ofConfig at h
  split at h
  · cases h
  · cases h
    rfl

section AnyGrammar

variable [RegexGrammar]

/- When a plan is compiled for a pattern. -/
theorem compile_eq_ok_iff
    {p : Planner}
    {pattern : Pattern}
    {graph : SchemaGraph}
    {startVars : VarSet}
    {plan : Plan} :
    p.compile pattern graph startVars = .ok plan ↔
      graph.validate pattern = .ok () ∧
        p.optimizer.optimize pattern.lower startVars = .ok plan := by
  unfold compile planSets
  cases graph.validate pattern with
  | error e => simp
  | ok u =>
      cases p.optimizer.optimize pattern.lower startVars with
      | error e => simp
      | ok plan' => simp

/-
  Patterns and schemas with the same key have the same plan, if
  all literals that stand for no number are taken as one.
-/
theorem compile_of_key_eq
    {p : Planner}
    {pattern pattern' : Pattern}
    {schema schema' : SchemaView}
    {startVars startVars' : VarSet}
    {plan : Plan}
    (hKey :
      key pattern schema startVars = key pattern' schema' startVars')
    (h : p.compile pattern schema.graph startVars = .ok plan) :
    ∃ plan', p.compile pattern' schema'.graph startVars' = .ok plan' ∧
      plan'.canonical = plan.canonical := by
  rcases of_key_eq hKey with ⟨hPattern, hConcepts, rfl⟩
  rcases compile_eq_ok_iff.mp h with ⟨hValid, hPlan⟩
  have hValid' : schema'.graph.validate pattern' = .ok () := by
    rw [← SchemaGraph.validate_canonical_eq_ok_iff, ← hPattern,
      SchemaGraph.validate_canonical_eq_ok_iff,
      ← SchemaGraph.validate_eq_of_concepts_eq hConcepts]
    exact hValid
  have hCanonical :
      p.optimizer.optimize pattern.canonical.lower startVars =
        .ok plan.canonical := by
    rw [Pattern.lower_canonical]
    exact Optimizer.optimize_canonical_eq_ok_iff.mpr ⟨plan, hPlan, rfl⟩
  rw [hPattern, Pattern.lower_canonical] at hCanonical
  rcases Optimizer.optimize_canonical_eq_ok_iff.mp hCanonical
    with ⟨plan', hPlan', hEq⟩
  exact ⟨plan', compile_eq_ok_iff.mpr ⟨hValid', hPlan'⟩, hEq.symm⟩

------------------------------------------------------------
-- Calls
------------------------------------------------------------

/- What is asked of a planner. -/
inductive Call where
/- a plan for a pattern, when some variables are bound -/
| plan :
    (pattern : Pattern) →
    (schema : SchemaView) →
    (startVars : VarSet) →
    Call
/- to drop all cached plans -/
| clear : Call
/- to drop the cached plans for schemas older than a version -/
| invalidate : UInt64 → Call

/- What a planner answers to a call, and the planner afterwards. -/
def answer
    (p : Planner) :
    Call → Option (Except PlannerError CompiledPlan) × Planner
| .plan pattern schema startVars =>
    let (result, p) := p.planFrom pattern schema startVars
    (some result, p)
| .clear => (none, { p with cache := p.cache.clear })
| .invalidate version =>
    (none, { p with cache := (p.cache.invalidate version).2 })

/- What a planner answers to calls one after the other. -/
def answers
    (p : Planner) :
    List Call → List (Option (Except PlannerError CompiledPlan))
| [] => []
| call :: calls => (p.answer call).1 :: (p.answer call).2.answers calls

/- The plan that a planner compiles for a call for one. -/
def compiled
    (p : Planner) : Call → Option (Except PlannerError Plan)
| .plan pattern schema startVars =>
    some (p.compile pattern schema.graph startVars)
| .clear => none
| .invalidate _ => none

/-
  The plan of an answer, without the number of its compilation,
  or the error.
-/
def planOf
    (result : Except PlannerError CompiledPlan) :
    Except PlannerError Plan :=
  result.map CompiledPlan.plan

/-
  A result, where all literals of its plan that stand for no
  number are taken as one.
-/
def canonicalResult
    (result : Except PlannerError Plan) :
    Except PlannerError Plan :=
  result.map Plan.canonical

------------------------------------------------------------
-- Planners with a Cache
------------------------------------------------------------

/- A planner compiles a plan for a key. -/
def CompilesFor
    (p : Planner)
    (k : PlanKey ConceptMap)
    (plan : Plan) : Prop :=
  ∃ pattern schema startVars,
    k = key pattern schema startVars ∧
      p.compile pattern schema.graph startVars = .ok plan

/-
  If all cached plans are right, a planner answers as if it
  compiled every plan anew, and all cached plans stay right.
-/
theorem planFrom_eq_compile
    {p : Planner}
    (h : p.cache.Holds p.CompilesFor)
    (pattern : Pattern)
    (schema : SchemaView)
    (startVars : VarSet) :
    canonicalResult (planOf (p.planFrom pattern schema startVars).1) =
        canonicalResult (p.compile pattern schema.graph startVars) ∧
      (p.planFrom pattern schema startVars).2.cache.Holds
        p.CompilesFor := by
  have hResult : ∀ plan,
      p.compile pattern schema.graph startVars = .ok plan →
        p.CompilesFor (key pattern schema startVars) plan :=
    fun plan hPlan => ⟨pattern, schema, startVars, rfl, hPlan⟩
  rcases h.getOrCompile (key pattern schema startVars)
      (p.compile pattern schema.graph startVars) () hResult
    with ⟨hHolds, hAnswer⟩
  refine ⟨?_, hHolds⟩
  rcases hAnswer with hNew | ⟨compiled, hCached, hRight⟩
  · exact congrArg canonicalResult hNew
  · -- a cached plan was compiled for a pattern with the same key
    rcases hRight with ⟨pattern', schema', startVars', hKey, hPlan⟩
    rcases compile_of_key_eq hKey.symm hPlan with ⟨plan, hPlan', hEq⟩
    have hFirst :
        (p.planFrom pattern schema startVars).1 = .ok compiled :=
      hCached
    rw [hFirst, hPlan']
    exact congrArg Except.ok hEq.symm

/-
  If all cached plans are right, a planner answers a call as if
  it compiled every plan anew, and all cached plans stay right.
-/
theorem answer_eq_compiled
    {p : Planner}
    (h : p.cache.Holds p.CompilesFor)
    (call : Call) :
    ((p.answer call).1.map planOf).map canonicalResult =
        (p.compiled call).map canonicalResult ∧
      (p.answer call).2.cache.Holds p.CompilesFor := by
  cases call with
  | plan pattern schema startVars =>
      rcases planFrom_eq_compile h pattern schema startVars
        with ⟨hAnswer, hHolds⟩
      exact ⟨congrArg some hAnswer, hHolds⟩
  | clear => exact ⟨rfl, h.clear⟩
  | invalidate version => exact ⟨rfl, h.invalidate version⟩

/- Planners with the same optimizer compile the same plans. -/
theorem compile_eq_of_optimizer_eq
    {p q : Planner}
    (h : p.optimizer = q.optimizer) :
    p.compile = q.compile := by
  funext pattern graph startVars
  unfold compile planSets
  rw [h]

/- Planners with the same optimizer compile the same for calls. -/
theorem compiled_eq_of_optimizer_eq
    {p q : Planner}
    (h : p.optimizer = q.optimizer) :
    p.compiled = q.compiled := by
  funext call
  unfold compiled
  rw [compile_eq_of_optimizer_eq h]

/- A planner keeps its optimizer. -/
theorem optimizer_answer
    (p : Planner)
    (call : Call) :
    (p.answer call).2.optimizer = p.optimizer := by
  cases call with
  | plan pattern schema startVars => rfl
  | clear => rfl
  | invalidate version => rfl

/- The plans that a planner caches stay right after a call. -/
theorem holds_answer
    {p : Planner}
    (h : p.cache.Holds p.CompilesFor)
    (call : Call) :
    (p.answer call).2.cache.Holds (p.answer call).2.CompilesFor := by
  unfold CompilesFor
  rw [compile_eq_of_optimizer_eq (p.optimizer_answer call)]
  exact (answer_eq_compiled h call).2

/-
  If all cached plans are right, a planner answers calls as if it
  compiled every plan anew.
-/
theorem answers_eq_compiled
    {calls : List Call} :
    ∀ {p : Planner},
      p.cache.Holds p.CompilesFor →
        (p.answers calls).map
            (Option.map fun r => canonicalResult (planOf r)) =
          calls.map fun call => (p.compiled call).map canonicalResult := by
  induction calls with
  | nil =>
      intro p _
      rfl
  | cons call calls ih =>
      intro p h
      have hAnswer := (answer_eq_compiled h call).1
      have hRest := ih (holds_answer h call)
      rw [compiled_eq_of_optimizer_eq (p.optimizer_answer call)] at hRest
      rw [Option.map_map] at hAnswer
      rw [answers, List.map_cons, List.map_cons, hRest]
      exact congrArg (· :: _) hAnswer

------------------------------------------------------------
-- Planners without a Cache
------------------------------------------------------------

/- A planner without a cache compiles a plan anew, and stays so. -/
theorem planFrom_of_disabled
    {p : Planner}
    (h : p.cache.config.enabled = false)
    (pattern : Pattern)
    (schema : SchemaView)
    (startVars : VarSet) :
    planOf (p.planFrom pattern schema startVars).1 =
        p.compile pattern schema.graph startVars ∧
      (p.planFrom pattern schema startVars).2.cache.config =
        p.cache.config := by
  have hResponse :
      p.cache.getOrCompile (key pattern schema startVars)
          (fun cache =>
            ⟨p.compile pattern schema.graph startVars, (), cache⟩) =
        PlanCache.conclude
          ⟨p.compile pattern schema.graph startVars, (),
            p.cache.countMiss⟩ :=
    PlanCache.getOrCompile_of_disabled h
  unfold planFrom
  rw [hResponse]
  cases p.compile pattern schema.graph startVars with
  | error e => exact ⟨rfl, rfl⟩
  | ok plan => exact ⟨rfl, rfl⟩

/- A planner without a cache answers a call anew, and stays so. -/
theorem answer_of_disabled
    {p : Planner}
    (h : p.cache.config.enabled = false)
    (call : Call) :
    (p.answer call).1.map planOf = p.compiled call ∧
      (p.answer call).2.cache.config = p.cache.config := by
  cases call with
  | plan pattern schema startVars =>
      rcases planFrom_of_disabled h pattern schema startVars
        with ⟨hAnswer, hCache⟩
      exact ⟨congrArg some hAnswer, hCache⟩
  | clear => exact ⟨rfl, rfl⟩
  | invalidate version => exact ⟨rfl, rfl⟩

/- A planner without a cache answers all calls anew. -/
theorem answers_of_disabled
    {calls : List Call} :
    ∀ {p : Planner},
      p.cache.config.enabled = false →
        (p.answers calls).map (Option.map planOf) =
          calls.map p.compiled := by
  induction calls with
  | nil =>
      intro p _
      rfl
  | cons call calls ih =>
      intro p h
      rcases answer_of_disabled h call with ⟨hAnswer, hCache⟩
      have hLater : (p.answer call).2.cache.config.enabled = false := by
        rw [hCache]
        exact h
      have hRest := ih hLater
      rw [compiled_eq_of_optimizer_eq (p.optimizer_answer call)] at hRest
      rw [answers, List.map_cons, List.map_cons, hRest, hAnswer]

------------------------------------------------------------
-- Transparency
------------------------------------------------------------

/-
  A planner answers every call as a planner with the same cost
  model, and with traces if it has them, but without a cache: the
  same error, or the same plan up to literals that stand for no
  number.
-/
theorem answers_eq_of_disabled
    {config config' : PlannerConfig}
    {p q : Planner}
    (hp : ofConfig config = .ok p)
    (hq : ofConfig config' = .ok q)
    (hModel : config'.model = config.model)
    (hTraced : config'.traced = config.traced)
    (hDisabled : config'.cache.enabled = false)
    (calls : List Call) :
    (p.answers calls).map
        (Option.map fun r => canonicalResult (planOf r)) =
      (q.answers calls).map
        (Option.map fun r => canonicalResult (planOf r)) := by
  rw [eq_build_of_ofConfig hp, eq_build_of_ofConfig hq]
  have hOptimizer :
      (build config').optimizer = (build config).optimizer := by
    unfold optimizer build
    rw [hModel, hTraced]
  have hCached := @answers_eq_compiled _ calls (build config)
    (PlanCache.Holds.empty config.cache)
  have hAnew := @answers_of_disabled _ calls (build config') hDisabled
  rw [compiled_eq_of_optimizer_eq hOptimizer] at hAnew
  have hComposed := congrArg
    (List.map (Option.map canonicalResult)) hAnew
  rw [List.map_map, List.map_map, Option.map_comp_map] at hComposed
  rw [hCached]
  exact hComposed.symm

end AnyGrammar

section NoNumbers

attribute [local instance] Regex.grammar

/- A value that equals a literal for no number, of either sign. -/
def noNumberPattern (negative : Bool) : Pattern where
  clauses :=
    [⟨⟨"x"⟩,
      [.value (.compare .eq (.value (.double (.nan negative))))]⟩]

/- Calls whose patterns have literals for no number. -/
def noNumberCalls : List Call :=
  [.plan (noNumberPattern false) ⟨.initial, true⟩ .empty,
   .plan (noNumberPattern true) ⟨.initial, true⟩ .empty,
   .invalidate 1,
   .plan (noNumberPattern true) ⟨.initial, false⟩ .empty,
   .clear]

/- The standard settings, without a cache. -/
def uncachedConfig : PlannerConfig :=
  { PlannerConfig.standard with cache := .disabled }

/-
  With its cache, the standard planner plans the second pattern
  for the literal of the first.  This is all that the cache does
  to the plans.
-/
theorem answers_eq_of_disabled_noNumberCalls :
    (standard.answers noNumberCalls).map (Option.map planOf) ≠
        ((build uncachedConfig).answers noNumberCalls).map
          (Option.map planOf) ∧
      (standard.answers noNumberCalls).map
          (Option.map fun r => canonicalResult (planOf r)) =
        ((build uncachedConfig).answers noNumberCalls).map
          (Option.map fun r => canonicalResult (planOf r)) := by
  have hCached : ofConfig .standard = .ok standard := by decide +kernel
  have hUncached :
      ofConfig uncachedConfig = .ok (build uncachedConfig) := by
    decide +kernel
  constructor
  · decide +kernel
  · exact answers_eq_of_disabled hCached hUncached rfl rfl rfl
      noNumberCalls

end NoNumbers

end Planner

end TraversalPlanner
