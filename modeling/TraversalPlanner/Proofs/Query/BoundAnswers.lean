import TraversalPlanner.Proofs.Plan.PlannedVariables
import TraversalPlanner.Proofs.Planner.Transparency
import TraversalPlanner.Proofs.Query.Projections

/-
  When the answers of a query bind all variables that are asked
  for.  With an executor that binds the variables of every
  fragment it runs, they do exactly if the plan of the query has
  these variables.  A variable of the pattern may have no step,
  and is then missing from the answers.

  Main declarations:
    * `Executor.BindsFragments`
    * `DryRun.bindsFragments_executor`
    * `Planner.after`
    * `AnswerStream.BindsExactly`
    * `MatchQuery.bindsExactly_iff_plans`
    * `MatchQuery.exists_unbound_variable`
-/

namespace TraversalPlanner

------------------------------------------------------------
-- Executors That Bind Variables
------------------------------------------------------------

/-
  Whenever fragments are run from the start, every answer in the
  end binds the variables of all of them.
-/
def Executor.BindsFragments
    {σ : Type}
    (e : Executor σ) : Prop :=
  ∀ s fs final t, e.Calls s Answer.seed fs final t →
    ∀ a ∈ final, ∀ f ∈ fs, ∀ x ∈ f.vars, a.contains x = true

/- What is bound after an insertion. -/
theorem SortedMap.contains_insert_iff
    {K V : Type}
    [KeyOrder K]
    [DecidableEq K]
    {m : SortedMap K V}
    {k l : K}
    {v : V} :
    (m.insert k v).contains l = true ↔ m.contains l = true ∨ l = k := by
  unfold contains
  rw [get?_insert]
  by_cases hkl : k = l
  · simp [hkl]
  · simp [hkl, Ne.symm hkl]

namespace DryRun

variable {d : DryRun}

/- Binding a variable binds this one more. -/
theorem contains_of_mem_bindIn
    {x : Var}
    {a b : Answer}
    (h : b ∈ d.bindIn x a)
    (y : Var) :
    b.contains y = true ↔ a.contains y = true ∨ y = x := by
  unfold bindIn at h
  split at h
  · rename_i hBound
    rw [List.mem_singleton.mp h]
    constructor
    · exact Or.inl
    · rintro (hy | rfl)
      · exact hy
      · exact hBound
  · rcases List.mem_map.mp h with ⟨id, _, rfl⟩
    exact SortedMap.contains_insert_iff

/- Binding variables one after the other binds all of them more. -/
theorem contains_of_mem_foldl_bind
    (hSkipped : d.skipped = [])
    {xs : List Var} :
    ∀ {answers : List Answer} {b : Answer},
      b ∈ xs.foldl d.bind answers →
        ∃ a ∈ answers, ∀ y,
          b.contains y = true ↔ a.contains y = true ∨ y ∈ xs := by
  induction xs with
  | nil =>
      intro answers b hb
      exact ⟨b, hb, fun y => by simp⟩
  | cons x xs ih =>
      intro answers b hb
      rcases ih hb with ⟨c, hc, hLater⟩
      unfold bind at hc
      rw [hSkipped, if_neg List.not_mem_nil] at hc
      rcases List.mem_flatMap.mp hc with ⟨a, ha, hFirst⟩
      refine ⟨a, ha, ?_⟩
      intro y
      rw [hLater, contains_of_mem_bindIn hFirst, List.mem_cons, or_assoc]

/- Calls of a dry run bind the variables of the fragments more. -/
theorem contains_of_calls
    (hSkipped : d.skipped = [])
    {n m : Nat}
    {answers final : List Answer}
    {fs : List Fragment}
    (h : d.executor.Calls n answers fs final m) :
    ∀ b ∈ final, ∃ a ∈ answers, ∀ y,
      b.contains y = true ↔
        a.contains y = true ∨ ∃ f ∈ fs, y ∈ f.vars := by
  induction h with
  | nil =>
      intro b hb
      exact ⟨b, hb, fun y => by simp⟩
  | @cons n _ _ answers out _ f fs hTraverse _ ih =>
      intro b hb
      rcases ih b hb with ⟨c, hc, hLater⟩
      have hOut : d.traverse n f answers = .ok out :=
        congrArg Prod.fst hTraverse
      unfold traverse at hOut
      split at hOut
      · cases hOut
      · split at hOut
        · cases hOut
          cases hc
        · cases hOut
          rcases contains_of_mem_foldl_bind hSkipped hc with ⟨a, ha, hFirst⟩
          refine ⟨a, ha, ?_⟩
          intro y
          rw [hLater, hFirst, or_assoc]
          simp only [List.mem_cons, exists_eq_or_imp]
          rfl

/- A dry run that skips no variable binds all of its fragments. -/
theorem bindsFragments_executor (hSkipped : d.skipped = []) :
    d.executor.BindsFragments := by
  intro n fs final m hCalls a ha f hf x hx
  rcases contains_of_calls hSkipped hCalls a ha with ⟨_, _, hBound⟩
  exact (hBound x).mpr (Or.inr ⟨f, hf, hx⟩)

/- A dry run where nothing special happens. -/
def plain : DryRun where
  fanout := .empty
  skipped := []
  failAt := none
  dropAt := none
  reason := standardReason

/- A plain dry run has one answer for each one before. -/
theorem exists_foldl_bind_plain (xs : List Var) :
    ∀ a, ∃ b, xs.foldl plain.bind [a] = [b] := by
  induction xs with
  | nil =>
      intro a
      exact ⟨a, rfl⟩
  | cons x xs ih =>
      intro a
      have hOne : ∃ c, plain.bind [a] x = [c] := by
        have hSkipped : x ∉ plain.skipped := List.not_mem_nil
        unfold bind
        rw [if_neg hSkipped, List.flatMap_singleton]
        unfold bindIn
        split
        · exact ⟨a, rfl⟩
        · exact ⟨_, rfl⟩
      rcases hOne with ⟨c, hc⟩
      rw [List.foldl_cons, hc]
      exact ih c

/- A plain dry run comes to one answer. -/
theorem exists_run_plain (fs : List Fragment) :
    ∀ n a, ∃ b, (plain.executor.run n [a] fs).result = .ok [b] := by
  induction fs with
  | nil =>
      intro n a
      exact ⟨a, rfl⟩
  | cons f fs ih =>
      intro n a
      rcases exists_foldl_bind_plain f.vars.toList a with ⟨b, hb⟩
      rcases ih (n + 1) b with ⟨c, hc⟩
      have hTraverse :
          plain.executor.traverse n f [a] = (.ok [b], n + 1) := by
        rw [← hb]
        rfl
      refine ⟨c, ?_⟩
      rw [Executor.run, hTraverse]
      exact hc

end DryRun

------------------------------------------------------------
-- Planners in Use
------------------------------------------------------------

namespace Planner

/- A planner after some calls. -/
def after
    [RegexGrammar]
    (p : Planner) : List Call → Planner
| [] => p
| call :: calls => (p.answer call).2.after calls

/- The plans that a planner caches stay right. -/
theorem holds_after
    [RegexGrammar]
    {calls : List Call} :
    ∀ {p : Planner},
      p.cache.Holds p.CompilesFor →
        (p.after calls).cache.Holds (p.after calls).CompilesFor := by
  induction calls with
  | nil =>
      intro p h
      exact h
  | cons call calls ih =>
      intro p h
      exact ih (holds_answer h call)

/- Plans that are canonically the same have the same variables. -/
theorem exists_fragment_iff_of_canonical_eq
    {plan plan' : Plan}
    (h : plan.canonical = plan'.canonical)
    (x : Var) :
    (∃ f ∈ plan.fragments, x ∈ f.vars) ↔
      ∃ step ∈ plan'.steps, x ∈ step.fragment.vars := by
  have hCanonical : ∀ p : Plan,
      (∃ step ∈ p.canonical.steps, x ∈ step.fragment.vars) ↔
        ∃ step ∈ p.steps, x ∈ step.fragment.vars := by
    intro p
    unfold Plan.canonical PlanStep.canonical
    simp only [List.mem_map, exists_exists_and_eq_and,
      Fragment.vars_canonical]
  rw [← hCanonical, ← h, hCanonical]
  unfold Plan.fragments
  simp only [List.mem_map, exists_exists_and_eq_and]

/- The plan of a planner in use has the variables it should have. -/
theorem exists_fragment_iff_plans
    [RegexGrammar]
    {p : Planner}
    (h : p.cache.Holds p.CompilesFor)
    {pattern : Pattern}
    {schema : SchemaView}
    {compiled : CompiledPlan}
    (hPlan : (p.plan pattern schema).1 = .ok compiled)
    (x : Var) :
    (∃ f ∈ compiled.plan.fragments, x ∈ f.vars) ↔ pattern.Plans x := by
  have hAnew := (planFrom_eq_compile h pattern schema .empty).1
  have hFirst :
      (p.planFrom pattern schema .empty).1 = .ok compiled := hPlan
  rw [hFirst] at hAnew
  cases hCompile : p.compile pattern schema.graph .empty with
  | error e =>
      rw [hCompile] at hAnew
      cases hAnew
  | ok plan =>
      rw [hCompile] at hAnew
      rw [exists_fragment_iff_of_canonical_eq (Except.ok.inj hAnew)]
      exact Optimizer.exists_step_iff_plans
        (compile_eq_ok_iff.mp hCompile).2 x

end Planner

------------------------------------------------------------
-- Answers
------------------------------------------------------------

/-
  Whatever the executor is, if it binds the variables of all
  fragments that it runs, every answer of a stream binds exactly
  the given variables.
-/
def AnswerStream.BindsExactly
    [RegexGrammar]
    (stream : AnswerStream)
    (planner : Planner)
    (schema : SchemaView)
    (xs : List Var) : Prop :=
  ∀ {σ : Type} (s : QuerySession σ),
    s.planner = planner →
      s.schema = schema →
        s.executor.BindsFragments →
          ∀ items, stream.Yields s items →
            ∀ y, .ok y ∈ items →
              ∀ x, y.contains x = true ↔ x ∈ xs

/- What a projection binds. -/
theorem Answer.contains_project_iff
    {xs : List Var}
    {a : Answer}
    {x : Var} :
    (a.project xs).contains x = true ↔
      x ∈ xs ∧ a.contains x = true := by
  unfold SortedMap.contains
  rw [get?_project]
  split
  · rename_i hx
    simp [hx]
  · rename_i hx
    simp [hx]

namespace MatchQuery

section AnyGrammar

variable
  {q : MatchQuery}
  {xs : List Var}
  [RegexGrammar]

/- An answer is the projection of a final answer. -/
theorem Evaluates.exists_answer
    {σ : Type}
    {s t : QuerySession σ}
    {items : List (Except PlannerError Answer)}
    (h : q.Evaluates xs s items t)
    {y : Answer}
    (hy : .ok y ∈ items) :
    ∃ final, q.Finishes s final ∧ ∃ a ∈ final, y = a.project xs := by
  cases h with
  | unknown => simp at hy
  | unplanned => simp at hy
  | failed => simp at hy
  | answered _ hPlan hCalls =>
      rcases List.mem_map.mp hy with ⟨y', hMem, hEq⟩
      cases hEq
      unfold Answer.projections at hMem
      rw [List.mem_eraseDups, List.mem_map] at hMem
      rcases hMem with ⟨a, ha, rfl⟩
      exact ⟨_, ⟨_, _, _, hPlan, hCalls⟩, a, ha, rfl⟩

/-
  The answers of a pending stream bind the variables exactly if
  the plan has them.
-/
theorem bindsExactly_pending_iff
    {planner : Planner}
    {schema : SchemaView}
    {compiled : CompiledPlan}
    (hPlan : (planner.plan q.pattern schema).1 = .ok compiled)
    (hKnown : ∀ x ∈ xs, x ∈ q.pattern.vars) :
    (AnswerStream.pending q xs).BindsExactly planner schema xs ↔
      ∀ x ∈ xs, ∃ f ∈ compiled.plan.fragments, x ∈ f.vars := by
  constructor
  · -- a plain dry run binds nothing but the variables of the plan
    intro hBinds x hx
    let s : QuerySession Nat :=
      ⟨planner, schema, DryRun.plain.executor, 0, []⟩
    rcases DryRun.exists_run_plain compiled.plan.fragments 0 .empty
      with ⟨a, ha⟩
    have hCalls := (Executor.calls_of_run ha).1
    have hFinishes : q.Finishes s [a] :=
      ⟨compiled, _, _, Prod.ext hPlan rfl, hCalls⟩
    have hYields := AnswerStream.yields_pending q xs s
    rw [hFinishes.run_eq hKnown] at hYields
    have hMem :
        Except.ok (a.project xs) ∈
          items (.ok (Answer.projections xs [a])) :=
      List.mem_singleton_self _
    have hBound :=
      (hBinds s rfl rfl (DryRun.bindsFragments_executor rfl) _ hYields
        _ hMem x).mpr hx
    rcases DryRun.contains_of_calls rfl hCalls a
        (List.mem_singleton_self a) with ⟨b, hb, hIff⟩
    rcases (hIff x).mp (Answer.contains_project_iff.mp hBound).2
      with hStart | hFragment
    · rw [List.mem_singleton.mp hb] at hStart
      cases hStart
    · exact hFragment
  · intro hVars σ s hPlanner hSchema hBinds items hYields y hy x
    have hItems := hYields.unique (AnswerStream.yields_pending q xs s)
    rw [hItems] at hy
    rcases (q.evaluates_run xs s).exists_answer hy
      with ⟨final, ⟨compiled', planner', u, hPlan', hCalls⟩, a, ha, rfl⟩
    rw [hPlanner, hSchema] at hPlan'
    rw [hPlan'] at hPlan
    cases hPlan
    rw [Answer.contains_project_iff]
    constructor
    · exact fun hx => hx.1
    · intro hx
      rcases hVars x hx with ⟨f, hf, hxf⟩
      exact ⟨hx, hBinds _ _ _ _ hCalls a ha f hf x hxf⟩

/-
  With an executor that binds the variables of all fragments it
  runs, every answer of a query binds exactly the selected
  variables if the pattern plans all of them, and only then.  The
  same holds of the answers for one variable.  The planner may
  have been used before, in any way.
-/
theorem bindsExactly_iff_plans
    {config : PlannerConfig}
    {p : Planner}
    (hp : Planner.ofConfig config = .ok p)
    (calls : List Planner.Call)
    {schema : SchemaView}
    {compiled : CompiledPlan}
    (hPlan :
      ((p.after calls).plan q.pattern schema).1 = .ok compiled) :
    ((∀ x ∈ q.selectedVars, x ∈ q.pattern.vars) →
        (q.stream.BindsExactly (p.after calls) schema q.selectedVars ↔
          ∀ x ∈ q.selectedVars, q.pattern.Plans x)) ∧
      ∀ x ∈ q.pattern.vars,
        (q.get x).BindsExactly (p.after calls) schema [x] ↔
          q.pattern.Plans x := by
  have hHolds :
      (p.after calls).cache.Holds (p.after calls).CompilesFor := by
    apply Planner.holds_after
    rw [Planner.eq_build_of_ofConfig hp]
    exact PlanCache.Holds.empty config.cache
  have hPlans := Planner.exists_fragment_iff_plans hHolds hPlan
  constructor
  · intro hKnown
    refine (bindsExactly_pending_iff hPlan hKnown).trans ?_
    simp only [hPlans]
  · intro x hx
    have hOne : ∀ y ∈ [x], y ∈ q.pattern.vars := by
      rw [List.forall_mem_singleton]
      exact hx
    refine (bindsExactly_pending_iff hPlan hOne).trans ?_
    rw [List.forall_mem_singleton, hPlans]

end AnyGrammar

section Castings

attribute [local instance] Regex.grammar

/- The answers of a casting query bind all that is selected. -/
theorem bindsExactly_castingQuery :
    castingQuery.stream.BindsExactly (Planner.standard.after [])
        ⟨.initial, true⟩ castingQuery.selectedVars ∧
      (castingQuery.get ⟨"a"⟩).BindsExactly (Planner.standard.after [])
        ⟨.initial, true⟩ [⟨"a"⟩] := by
  have hConfig :
      Planner.ofConfig .standard = .ok Planner.standard := by
    decide +kernel
  have hPlan :
      ((Planner.standard.after []).plan castingQuery.pattern
        ⟨.initial, true⟩).1 = .ok castingPlan := by
    decide +kernel
  have hPlans :
      ∀ x ∈ castingQuery.pattern.vars, castingQuery.pattern.Plans x :=
    fun _ => Pattern.plans_of_mem_vars (by decide) (by decide)
  have hKnown :
      ∀ x ∈ castingQuery.selectedVars, x ∈ castingQuery.pattern.vars := by
    decide
  rcases bindsExactly_iff_plans hConfig [] hPlan with ⟨hStream, hGet⟩
  exact ⟨(hStream hKnown).mpr fun x hx => hPlans x (hKnown x hx),
    (hGet ⟨"a"⟩ (by decide)).mpr (hPlans ⟨"a"⟩ (by decide))⟩

/- Both roles of a player in a relation. -/
def twoRolesQuery : MatchQuery where
  pattern := Optimizer.twoRolesPattern
  selected := some [⟨"a"⟩, ⟨"b"⟩]

/- A session with a plain dry run. -/
def plainSession : QuerySession Nat where
  planner := .standard
  schema := ⟨.initial, true⟩
  executor := DryRun.plain.executor
  state := 0
  events := []

/-
  Only one of the roles is bound, although both are variables of
  the pattern and the executor binds all that it is given.
-/
theorem exists_unbound_variable :
    MatchQuery.ofPattern Optimizer.twoRolesPattern =
        .ok ⟨Optimizer.twoRolesPattern, none⟩ ∧
      MatchQuery.select ⟨Optimizer.twoRolesPattern, none⟩
        [⟨"a"⟩, ⟨"b"⟩] = .ok twoRolesQuery ∧
      (∀ x ∈ twoRolesQuery.selectedVars,
        x ∈ twoRolesQuery.pattern.vars) ∧
      plainSession.executor.BindsFragments ∧
      twoRolesQuery.stream.Yields plainSession
        [.ok (.ofList [(⟨"a"⟩, "V-a")])] := by
  refine ⟨by decide +kernel, by decide, by decide,
    DryRun.bindsFragments_executor rfl, ?_⟩
  have hRun :
      (twoRolesQuery.run twoRolesQuery.selectedVars plainSession).1 =
        .ok [.ofList [(⟨"a"⟩, "V-a")]] := by
    decide +kernel
  have hYields := AnswerStream.yields_pending twoRolesQuery
    twoRolesQuery.selectedVars plainSession
  rw [hRun] at hYields
  exact hYields

end Castings

end MatchQuery

end TraversalPlanner
