import TraversalPlanner.Query.MatchQuery

/-
  Streams of answers are lazy, and evaluate their query once.
  Opening a stream takes no session, so it does nothing.  The first
  call asks the planner once, unless a variable is unknown, and has
  the executor run the plan up to the first fragment that fails.
  No later call does anything but yield the next answer.

  Main declarations:
    * `Executor.Calls`
    * `MatchQuery.Evaluates`
    * `AnswerStream.nexts`
    * `AnswerStream.Yields`
    * `AnswerStream.RunsOnce`
    * `MatchQuery.runsOnce_stream_get`
-/

namespace TraversalPlanner

------------------------------------------------------------
-- Calls of Executors
------------------------------------------------------------

namespace Executor

variable {σ : Type}

/-
  Calls of an executor, one for each fragment in order, none of
  which fails.  Every call gets the answers of the one before.
-/
inductive Calls (e : Executor σ) :
    σ → List Answer → List Fragment → List Answer → σ → Prop where
| nil
    {s : σ}
    {answers : List Answer} :
    Calls e s answers [] answers s
| cons
    {s t u : σ}
    {answers out final : List Answer}
    {f : Fragment}
    {fs : List Fragment} :
    e.traverse s f answers = (.ok out, t) →
    Calls e t out fs final u →
    Calls e s answers (f :: fs) final u

/- A run with answers calls the executor for every fragment. -/
theorem calls_of_run
    {e : Executor σ}
    {fs : List Fragment} :
    ∀ {s : σ} {answers final : List Answer},
      (e.run s answers fs).result = .ok final →
        e.Calls s answers fs final (e.run s answers fs).state ∧
          (e.run s answers fs).visited = fs := by
  induction fs with
  | nil =>
      intro s answers final h
      cases h
      exact ⟨.nil, rfl⟩
  | cons f fs ih =>
      intro s answers final h
      rw [run] at h ⊢
      cases hTraverse : e.traverse s f answers with
      | mk result t =>
          rw [hTraverse] at h
          cases result with
          | error err => cases h
          | ok out =>
              rcases ih h with ⟨hCalls, hVisited⟩
              exact ⟨.cons hTraverse hCalls,
                congrArg (f :: ·) hVisited⟩

/- Calls for all fragments, none of which fails, make a run. -/
theorem run_of_calls
    {e : Executor σ}
    {s t : σ}
    {answers final : List Answer}
    {fs : List Fragment}
    (h : e.Calls s answers fs final t) :
    (e.run s answers fs).result = .ok final := by
  induction h with
  | nil => rfl
  | cons hTraverse _ ih =>
      rw [run, hTraverse]
      exact ih

/-
  A run with an error calls the executor up to the first fragment
  that fails, and for that one.
-/
theorem fails_of_run
    {e : Executor σ}
    {fs : List Fragment}
    {err : DataError} :
    ∀ {s : σ} {answers : List Answer},
      (e.run s answers fs).result = .error err →
        ∃ done f rest out t,
          fs = done ++ f :: rest ∧
            e.Calls s answers done out t ∧
            e.traverse t f out =
              (.error err, (e.run s answers fs).state) ∧
            (e.run s answers fs).visited = done ++ [f] := by
  induction fs with
  | nil =>
      intro s answers h
      cases h
  | cons f fs ih =>
      intro s answers h
      rw [run] at h ⊢
      cases hTraverse : e.traverse s f answers with
      | mk result t =>
          rw [hTraverse] at h
          cases result with
          | error err' =>
              cases h
              exact ⟨[], f, fs, answers, s, rfl, .nil, hTraverse, rfl⟩
          | ok out =>
              rcases ih h with
                ⟨done, g, rest, out', t', rfl, hCalls, hFails, hVisited⟩
              exact ⟨f :: done, g, rest, out', t', rfl,
                .cons hTraverse hCalls, hFails,
                congrArg (f :: ·) hVisited⟩

end Executor

------------------------------------------------------------
-- Evaluations
------------------------------------------------------------

namespace QuerySession

variable {σ : Type}

/-
  The session after the planner was asked once and the executor
  was called for some fragments.
-/
def after
    (s : QuerySession σ)
    (planner : Planner)
    (called : List Fragment)
    (state : σ) : QuerySession σ :=
  { s with
    planner := planner
    state := state
    events := s.events ++ .planned :: called.map .traversed }

end QuerySession

namespace MatchQuery

/- There is an unknown variable, and it is the first one. -/
theorem unknownVar?_eq_some_iff
    {q : MatchQuery}
    {xs : List Var}
    {x : Var} :
    q.unknownVar? xs = some x ↔
      x ∉ q.pattern.vars ∧
        ∃ known rest, xs = known ++ x :: rest ∧
          ∀ y ∈ known, y ∈ q.pattern.vars := by
  unfold unknownVar?
  rw [List.find?_eq_some_iff_append]
  simp only [decide_eq_true_eq, Bool.not_eq_true', decide_eq_false_iff_not,
    Decidable.not_not]

/- There is no unknown variable. -/
theorem unknownVar?_eq_none_iff
    {q : MatchQuery}
    {xs : List Var} :
    q.unknownVar? xs = none ↔ ∀ x ∈ xs, x ∈ q.pattern.vars := by
  unfold unknownVar?
  rw [List.find?_eq_none]
  simp only [decide_eq_true_eq, Decidable.not_not]

variable
  {σ : Type}
  [RegexGrammar]

/-
  The items that the evaluation of a query comes to, and the
  session afterwards.  An unknown variable leaves all as it is.
  Otherwise the planner is asked once, and if it has a plan, the
  executor is called for the fragments of the plan, in order, up
  to the first that fails.  An error is the only item.
-/
inductive Evaluates
    (q : MatchQuery)
    (xs : List Var)
    (s : QuerySession σ) :
    List (Except PlannerError Answer) → QuerySession σ → Prop where
| unknown
    {known rest : List Var}
    {x : Var} :
    xs = known ++ x :: rest →
    (∀ y ∈ known, y ∈ q.pattern.vars) →
    x ∉ q.pattern.vars →
    Evaluates q xs s [.error (.validation (.notInQuery x))] s
| unplanned
    {e : PlannerError}
    {planner : Planner} :
    (∀ x ∈ xs, x ∈ q.pattern.vars) →
    s.planner.plan q.pattern s.schema = (.error e, planner) →
    Evaluates q xs s [.error e] (s.after planner [] s.state)
| failed
    {compiled : CompiledPlan}
    {planner : Planner}
    {done rest : List Fragment}
    {f : Fragment}
    {out : List Answer}
    {err : DataError}
    {t u : σ} :
    (∀ x ∈ xs, x ∈ q.pattern.vars) →
    s.planner.plan q.pattern s.schema = (.ok compiled, planner) →
    compiled.plan.fragments = done ++ f :: rest →
    s.executor.Calls s.state Answer.seed done out t →
    s.executor.traverse t f out = (.error err, u) →
    Evaluates q xs s [.error (.data err)]
      (s.after planner (done ++ [f]) u)
| answered
    {compiled : CompiledPlan}
    {planner : Planner}
    {final : List Answer}
    {t : σ} :
    (∀ x ∈ xs, x ∈ q.pattern.vars) →
    s.planner.plan q.pattern s.schema = (.ok compiled, planner) →
    s.executor.Calls s.state Answer.seed compiled.plan.fragments
      final t →
    Evaluates q xs s ((Answer.projections xs final).map .ok)
      (s.after planner compiled.plan.fragments t)

/- The items of the result of a query: its answers or its error. -/
def items :
    Except PlannerError (List Answer) → List (Except PlannerError Answer)
| .error e => [.error e]
| .ok answers => answers.map .ok

/- What a query comes to when it has a plan. -/
def answersOf
    (xs : List Var)
    (t : Traversal σ) : Except PlannerError (List Answer) :=
  match t.result with
  | .error e => .error (.data e)
  | .ok answers => .ok (Answer.projections xs answers)

/- Running a query with an unknown variable does nothing. -/
theorem run_of_unknown
    {q : MatchQuery}
    {xs : List Var}
    {x : Var}
    (h : q.unknownVar? xs = some x)
    (s : QuerySession σ) :
    q.run xs s = (.error (.validation (.notInQuery x)), s) := by
  unfold run
  rw [h]

/- Running a query without a plan only asks the planner. -/
theorem run_of_unplanned
    {q : MatchQuery}
    {xs : List Var}
    {s : QuerySession σ}
    {e : PlannerError}
    {planner : Planner}
    (hKnown : q.unknownVar? xs = none)
    (hPlan : s.planner.plan q.pattern s.schema = (.error e, planner)) :
    q.run xs s = (.error e, s.after planner [] s.state) := by
  unfold run QuerySession.plan
  rw [hKnown, hPlan]
  rfl

/- Running a query with a plan has the executor run the plan. -/
theorem run_of_planned
    {q : MatchQuery}
    {xs : List Var}
    {s : QuerySession σ}
    {compiled : CompiledPlan}
    {planner : Planner}
    (hKnown : q.unknownVar? xs = none)
    (hPlan :
      s.planner.plan q.pattern s.schema = (.ok compiled, planner)) :
    q.run xs s =
      (answersOf xs (s.executor.execute s.state compiled.plan),
        s.after planner
          (s.executor.execute s.state compiled.plan).visited
          (s.executor.execute s.state compiled.plan).state) := by
  unfold run QuerySession.plan
  rw [hKnown, hPlan]
  simp only [QuerySession.execute, QuerySession.after, answersOf,
    List.append_assoc, List.singleton_append]
  cases (s.executor.execute s.state compiled.plan).result <;> rfl

/- Running a query evaluates it. -/
theorem evaluates_run
    (q : MatchQuery)
    (xs : List Var)
    (s : QuerySession σ) :
    q.Evaluates xs s (items (q.run xs s).1) (q.run xs s).2 := by
  cases hUnknown : q.unknownVar? xs with
  | some x =>
      rcases unknownVar?_eq_some_iff.mp hUnknown
        with ⟨hx, known, rest, hSplit, hKnown⟩
      rw [run_of_unknown hUnknown]
      exact .unknown hSplit hKnown hx
  | none =>
      have hKnown := unknownVar?_eq_none_iff.mp hUnknown
      cases hPlan : s.planner.plan q.pattern s.schema with
      | mk result planner =>
          cases result with
          | error e =>
              rw [run_of_unplanned hUnknown hPlan]
              exact .unplanned hKnown hPlan
          | ok compiled =>
              rw [run_of_planned hUnknown hPlan]
              simp only [answersOf]
              cases hResult :
                  (s.executor.execute s.state compiled.plan).result with
              | error err =>
                  rcases Executor.fails_of_run hResult with
                    ⟨done, f, rest, out, t, hSplit, hCalls, hFails,
                      hVisited⟩
                  have hCalled :
                      (s.executor.execute s.state compiled.plan).visited =
                        done ++ [f] :=
                    hVisited
                  rw [hCalled]
                  exact .failed hKnown hPlan hSplit hCalls hFails
              | ok final =>
                  rcases Executor.calls_of_run hResult with
                    ⟨hCalls, hVisited⟩
                  have hCalled :
                      (s.executor.execute s.state compiled.plan).visited =
                        compiled.plan.fragments :=
                    hVisited
                  rw [hCalled]
                  exact .answered hKnown hPlan hCalls

end MatchQuery

------------------------------------------------------------
-- Calls of Streams
------------------------------------------------------------

namespace AnswerStream

/- The items with the first numbers, none where there are no more. -/
def firstItems
    (n : Nat)
    (items : List (Except PlannerError Answer)) :
    List (Option (Except PlannerError Answer)) :=
  (List.range n).map fun i => items[i]?

/- The first items of a list with an item in front. -/
theorem firstItems_succ
    (n : Nat)
    (item : Except PlannerError Answer)
    (items : List (Except PlannerError Answer)) :
    firstItems (n + 1) (item :: items) =
      some item :: firstItems n items := by
  unfold firstItems
  rw [List.range_succ_eq_map, List.map_cons, List.map_map]
  rfl

/- Of no items there is none. -/
theorem firstItems_succ_nil (n : Nat) :
    firstItems (n + 1) [] = none :: firstItems n [] := by
  unfold firstItems
  rw [List.range_succ_eq_map, List.map_cons, List.map_map]
  rfl

variable
  {σ : Type}
  [RegexGrammar]

/-
  Asking a stream for the next answer again and again.  Each time
  the session is as others have left it, so that it is given.
-/
def nexts (stream : AnswerStream) : List (QuerySession σ) → List (Next σ)
| [] => []
| s :: later =>
    let n := stream.next s
    n :: nexts n.stream later

/-
  A stream that is first asked in a session yields some items in
  order, each once, and nothing after the last, however often it
  is asked and whatever happens to the session in between.
-/
def Yields
    (stream : AnswerStream)
    (s : QuerySession σ)
    (items : List (Except PlannerError Answer)) : Prop :=
  ∀ later, (stream.nexts (s :: later)).map Next.item =
    firstItems (later.length + 1) items

/-
  The first call of a stream evaluates a query, and the stream
  yields the items of this evaluation.  No later call does
  anything to the session that it is made in.
-/
def RunsOnce
    (stream : AnswerStream)
    (q : MatchQuery)
    (xs : List Var) : Prop :=
  ∀ {σ : Type} (s : QuerySession σ),
    ∃ items t, q.Evaluates xs s items t ∧
      stream.Yields s items ∧
      ∀ later, (stream.nexts (s :: later)).map Next.session = t :: later

/- A stream that is done stays done, and does nothing. -/
theorem nexts_done (ss : List (QuerySession σ)) :
    (done.nexts ss).map Next.item = firstItems ss.length [] ∧
      (done.nexts ss).map Next.session = ss := by
  induction ss with
  | nil => exact ⟨rfl, rfl⟩
  | cons s ss ih =>
      rw [List.length_cons, firstItems_succ_nil]
      exact ⟨congrArg (List.cons none) ih.1, congrArg (List.cons s) ih.2⟩

/- Answers that are left are yielded in order, which does nothing. -/
theorem nexts_ready (ss : List (QuerySession σ)) :
    ∀ answers : List Answer,
      ((ready answers).nexts ss).map Next.item =
          firstItems ss.length (answers.map .ok) ∧
        ((ready answers).nexts ss).map Next.session = ss := by
  induction ss with
  | nil =>
      intro answers
      exact ⟨rfl, rfl⟩
  | cons s ss ih =>
      intro answers
      cases answers with
      | nil => exact nexts_done (s :: ss)
      | cons a answers =>
          rw [List.length_cons, List.map_cons, firstItems_succ]
          exact ⟨congrArg (List.cons (some (Except.ok a))) (ih answers).1,
            congrArg (List.cons s) (ih answers).2⟩

/-
  The first call of a pending stream runs its query.  All calls
  yield the items of the result.
-/
theorem nexts_pending
    (q : MatchQuery)
    (xs : List Var)
    (s : QuerySession σ)
    (later : List (QuerySession σ)) :
    ((pending q xs).nexts (s :: later)).map Next.item =
        firstItems (later.length + 1) (MatchQuery.items (q.run xs s).1) ∧
      ((pending q xs).nexts (s :: later)).map Next.session =
        (q.run xs s).2 :: later := by
  rw [nexts, next]
  cases hRun : q.run xs s with
  | mk result t =>
      cases result with
      | error e =>
          rw [MatchQuery.items, firstItems_succ]
          exact ⟨congrArg (List.cons (some (Except.error e))) (nexts_done later).1,
            congrArg (List.cons t) (nexts_done later).2⟩
      | ok answers => exact nexts_ready (t :: later) answers

/- A pending stream yields the result of its query. -/
theorem yields_pending
    (q : MatchQuery)
    (xs : List Var)
    (s : QuerySession σ) :
    (pending q xs).Yields s (MatchQuery.items (q.run xs s).1) :=
  fun later => (nexts_pending q xs s later).1

/- A pending stream runs its query once. -/
theorem runsOnce_pending
    (q : MatchQuery)
    (xs : List Var) :
    (pending q xs).RunsOnce q xs := by
  intro σ s
  exact ⟨_, _, q.evaluates_run xs s, yields_pending q xs s,
    fun later => (nexts_pending q xs s later).2⟩

end AnswerStream

namespace MatchQuery

/-
  The streams of a query, for its selected variables or for one
  variable, evaluate the query once, on the first call.
-/
theorem runsOnce_stream_get
    [RegexGrammar]
    (q : MatchQuery) :
    q.stream.RunsOnce q q.selectedVars ∧
      ∀ x, (q.get x).RunsOnce q [x] :=
  ⟨AnswerStream.runsOnce_pending q q.selectedVars,
    fun x => AnswerStream.runsOnce_pending q [x]⟩

end MatchQuery

end TraversalPlanner
