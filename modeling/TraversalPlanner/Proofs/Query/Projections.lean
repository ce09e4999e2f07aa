import Mathlib.Data.List.Sort
import TraversalPlanner.Proofs.Query.AnswerStreams
import TraversalPlanner.Query.DryRun
import TraversalPlanner.Regex.Validity
import TraversalPlanner.Schema.Consistency

/-
  The answers of a query are the different restrictions of the
  final answers of the executor to the selected variables, in
  order of first occurrence.  Answers for one variable are the
  different restrictions of the answers for more variables.

  Main declarations:
    * `FirstOccurrences`
    * `Answer.Restricts`
    * `Answer.DistinctRestrictions`
    * `Answer.distinctRestrictions_iff`
    * `Answer.projections_projections`
    * `MatchQuery.Finishes`
    * `MatchQuery.yields_stream_get_iff`
-/

namespace TraversalPlanner

------------------------------------------------------------
-- First Occurrences
------------------------------------------------------------

section Lists

variable {α β : Type}

/- An element occurs in a list before another one does. -/
def OccursBefore
    (l : List α)
    (a b : α) : Prop :=
  ∃ earlier later, l = earlier ++ a :: later ∧ b ∉ earlier ++ [a]

/-
  A list has the elements of another one, each once, in the order
  of their first occurrences there.
-/
structure FirstOccurrences (l firsts : List α) : Prop where
  nodup : firsts.Nodup
  mem_iff : ∀ a, a ∈ firsts ↔ a ∈ l
  ordered : firsts.Pairwise (OccursBefore l)

/- Nothing occurs before itself. -/
theorem OccursBefore.irrefl
    {l : List α}
    {a : α} :
    ¬ OccursBefore l a a := by
  rintro ⟨earlier, later, _, h⟩
  exact h (List.mem_append_right _ List.mem_cons_self)

/- Of two elements, only one occurs before the other. -/
theorem OccursBefore.asymm
    {l : List α}
    {a b : α}
    (hab : OccursBefore l a b) :
    ¬ OccursBefore l b a := by
  rintro ⟨before, after, hl', hb⟩
  rcases hab with ⟨earlier, later, hl, ha⟩
  rw [hl, List.append_eq_append_iff] at hl'
  rcases hl' with ⟨gap, hBefore, hGap⟩ | ⟨gap, hEarlier, hGap⟩
  · cases gap with
    | nil =>
        cases hGap
        exact hb (List.mem_append_right _ List.mem_cons_self)
    | cons c gap =>
        cases hGap
        exact hb (List.mem_append_left _ (by simp [hBefore]))
  · cases gap with
    | nil =>
        cases hGap
        exact ha (List.mem_append_right _ List.mem_cons_self)
    | cons c gap =>
        cases hGap
        exact ha (List.mem_append_left _ (by simp [hEarlier]))

/- The first occurrences are determined by the list. -/
theorem FirstOccurrences.unique
    {l as bs : List α}
    (ha : FirstOccurrences l as)
    (hb : FirstOccurrences l bs) :
    as = bs := by
  have : Std.Irrefl (OccursBefore l) := ⟨fun _ => OccursBefore.irrefl⟩
  have : Std.Antisymm (OccursBefore l) :=
    ⟨fun _ _ hab hba => absurd hba hab.asymm⟩
  apply ha.ordered.eq_of_mem_iff hb.ordered
  intro a
  rw [ha.mem_iff, hb.mem_iff]

/- What occurs first in a list with an element in front. -/
theorem OccursBefore.cons
    {l : List α}
    {a b c : α}
    (h : OccursBefore l a b)
    (hb : b ≠ c) :
    OccursBefore (c :: l) a b := by
  rcases h with ⟨earlier, later, rfl, hNew⟩
  refine ⟨c :: earlier, later, rfl, ?_⟩
  intro hMem
  rcases List.mem_cons.mp hMem with hEq | hMem
  · exact hb hEq
  · exact hNew hMem

/- What occurs first among the elements that pass a test. -/
theorem OccursBefore.of_filter
    {l : List α}
    {p : α → Bool}
    {a b : α}
    (h : OccursBefore (l.filter p) a b)
    (hb : p b = true) :
    OccursBefore l a b := by
  rcases h with ⟨earlier, later, hl, hNew⟩
  rcases List.filter_eq_append_iff.mp hl
    with ⟨front, back, rfl, rfl, hBack⟩
  rcases List.filter_eq_cons_iff.mp hBack
    with ⟨between, rest, rfl, hNone, hPass, rfl⟩
  refine ⟨front ++ between, rest, by simp, ?_⟩
  intro hMem
  rw [List.append_assoc, List.mem_append, List.mem_append] at hMem
  rcases hMem with hFront | hBetween | hLast
  · exact hNew (List.mem_append_left _ (List.mem_filter.mpr ⟨hFront, hb⟩))
  · exact hNone b hBetween hb
  · exact hNew (List.mem_append_right _ hLast)

section Decidable

variable [DecidableEq α] [DecidableEq β]

/- Dropping repetitions leaves the first occurrences. -/
theorem firstOccurrences_eraseDups :
    ∀ l : List α, FirstOccurrences l l.eraseDups
| [] => ⟨List.nodup_nil, fun _ => Iff.rfl, .nil⟩
| a :: l => by
    have hRest :=
      firstOccurrences_eraseDups (l.filter fun b => !b == a)
    have hOther : ∀ b ∈ (l.filter fun b => !b == a).eraseDups,
        b ≠ a := by
      intro b hb
      have hTest := (List.mem_filter.mp ((hRest.mem_iff b).mp hb)).2
      simpa using hTest
    rw [List.eraseDups_cons]
    constructor
    · exact List.nodup_cons.mpr
        ⟨fun hMem => hOther a hMem rfl, hRest.nodup⟩
    · intro b
      rw [← List.eraseDups_cons]
      exact List.mem_eraseDups
    · refine List.pairwise_cons.mpr ⟨?_, ?_⟩
      · intro b hb
        refine ⟨[], l, rfl, ?_⟩
        rw [List.nil_append, List.mem_singleton]
        exact hOther b hb
      · refine hRest.ordered.imp_of_mem ?_
        intro b c _ hc hBefore
        have hTest := (List.mem_filter.mp ((hRest.mem_iff c).mp hc)).2
        exact (hBefore.of_filter hTest).cons (hOther c hc)
termination_by l => l.length
decreasing_by
  exact Nat.lt_succ_of_le (List.length_filter_le _ _)

/- A list without repetitions is that of first occurrences. -/
theorem firstOccurrences_iff
    {l firsts : List α} :
    FirstOccurrences l firsts ↔ firsts = l.eraseDups := by
  constructor
  · intro h
    exact h.unique (firstOccurrences_eraseDups l)
  · rintro rfl
    exact firstOccurrences_eraseDups l

/- Repetitions may be dropped before or after a test. -/
theorem filter_eraseDups (p : α → Bool) :
    ∀ l : List α, l.eraseDups.filter p = (l.filter p).eraseDups
| [] => rfl
| a :: l => by
    rw [List.eraseDups_cons]
    cases hTest : p a with
    | true =>
        rw [List.filter_cons_of_pos hTest, List.filter_cons_of_pos hTest,
          List.eraseDups_cons, filter_eraseDups p, List.filter_comm]
    | false =>
        have hTest' : ¬ p a = true := by
          rw [hTest]
          exact Bool.false_ne_true
        rw [List.filter_cons_of_neg hTest', List.filter_cons_of_neg hTest',
          filter_eraseDups p, List.filter_filter]
        congr 1
        apply List.filter_congr
        intro b _
        cases hPass : p b with
        | true =>
            -- this element is not the first one, which does not pass
            have hOther : ¬ b = a := by
              rintro rfl
              exact hTest' hPass
            simpa using hOther
        | false => exact Bool.false_and _
termination_by l => l.length
decreasing_by
  all_goals exact Nat.lt_succ_of_le (List.length_filter_le _ _)

/-
  Repetitions that are dropped before a function is applied make
  no difference if they are dropped afterwards again.
-/
theorem eraseDups_map_eraseDups (f : α → β) :
    ∀ l : List α,
      (l.eraseDups.map f).eraseDups = (l.map f).eraseDups
| [] => rfl
| a :: l => by
    have hRest :=
      eraseDups_map_eraseDups f (l.filter fun b => !f b == f a)
    have hNested :
        (l.filter fun b => !b == a).filter (fun b => !f b == f a) =
          l.filter fun b => !f b == f a := by
      rw [List.filter_filter]
      apply List.filter_congr
      intro b _
      cases hDiffers : !f b == f a with
      | true =>
          have hOther : ¬ b = a := by
            rintro rfl
            simp at hDiffers
          simpa using hOther
      | false => exact Bool.false_and _
    calc
      ((a :: l).eraseDups.map f).eraseDups
          = f a :: (((l.filter fun b => !b == a).eraseDups.filter
              fun b => !f b == f a).map f).eraseDups := by
            rw [List.eraseDups_cons, List.map_cons, List.eraseDups_cons,
              List.filter_map]
            rfl
      _ = f a :: ((l.filter fun b => !f b == f a).map f).eraseDups := by
            rw [filter_eraseDups, hNested, hRest]
      _ = ((a :: l).map f).eraseDups := by
            rw [List.map_cons, List.eraseDups_cons, List.filter_map]
            rfl
termination_by l => l.length
decreasing_by
  exact Nat.lt_succ_of_le (List.length_filter_le _ _)

end Decidable

end Lists

------------------------------------------------------------
-- Restrictions
------------------------------------------------------------

namespace SortedMap

variable {K V : Type} [KeyOrder K]

/- Maps with the same values are the same. -/
theorem eq_of_get?_eq
    [DecidableEq K]
    {m m' : SortedMap K V}
    (h : ∀ k, m.get? k = m'.get? k) :
    m = m' := by
  have : Std.Irrefl fun a b : K × V => KeyOrder.before a.1 b.1 = true :=
    ⟨fun a hSelf => KeyOrder.ne_of_before hSelf rfl⟩
  have : Std.Antisymm fun a b : K × V => KeyOrder.before a.1 b.1 = true :=
    ⟨fun a b hab hba => by
      rw [KeyOrder.before_asymm hab] at hba
      cases hba⟩
  have hList : m.toList = m'.toList := by
    apply m.sorted.eq_of_mem_iff m'.sorted
    rintro ⟨k, v⟩
    constructor
    · intro hMem
      exact mem_of_get? ((h k).symm.trans (get?_of_mem hMem))
    · intro hMem
      exact mem_of_get? ((h k).trans (get?_of_mem hMem))
  cases m
  cases m'
  cases hList
  rfl

/- The values at the keys that pass a test. -/
theorem get?_filterKeys
    [DecidableEq K]
    (p : K → Bool)
    (m : SortedMap K V)
    (k : K) :
    (m.filterKeys p).get? k = if p k then m.get? k else none := by
  unfold get? filterKeys
  rw [List.find?_filter]
  split
  · rename_i hPass
    congr 2
    funext e
    by_cases hKey : e.1 = k
    · simp [hKey, hPass]
    · simp [hKey]
  · rename_i hFail
    rw [Option.map_eq_none_iff, List.find?_eq_none]
    intro e _
    by_cases hKey : e.1 = k
    · simp [hKey, hFail]
    · simp [hKey]

end SortedMap

namespace Answer

/- An answer binds the variables that another one binds of some. -/
def Restricts
    (xs : List Var)
    (a y : Answer) : Prop :=
  ∀ x, y.get? x = if x ∈ xs then a.get? x else none

/-
  The different restrictions of answers to variables, in order of
  first occurrence.
-/
def DistinctRestrictions
    (xs : List Var)
    (answers ys : List Answer) : Prop :=
  ∃ restricted, List.Forall₂ (Restricts xs) answers restricted ∧
    FirstOccurrences restricted ys

/- What a projection binds. -/
theorem get?_project
    (xs : List Var)
    (a : Answer)
    (x : Var) :
    (a.project xs).get? x = if x ∈ xs then a.get? x else none := by
  unfold project
  rw [SortedMap.get?_filterKeys]
  simp only [decide_eq_true_eq]

/- The restriction of an answer is its projection. -/
theorem restricts_iff
    {xs : List Var}
    {a y : Answer} :
    Restricts xs a y ↔ a.project xs = y := by
  constructor
  · intro h
    apply SortedMap.eq_of_get?_eq
    intro x
    rw [h x, get?_project]
  · rintro rfl x
    exact get?_project xs a x

/- The different restrictions of answers are their projections. -/
theorem distinctRestrictions_iff
    {xs : List Var}
    {answers ys : List Answer} :
    DistinctRestrictions xs answers ys ↔ ys = projections xs answers := by
  have hProject : Restricts xs = fun a y => a.project xs = y := by
    funext a y
    exact propext restricts_iff
  have hRestricted : ∀ restricted,
      List.Forall₂ (Restricts xs) answers restricted ↔
        answers.map (project xs) = restricted := by
    intro restricted
    rw [hProject,
      ← List.forall₂_map_left_iff (R := fun a b : Answer => a = b),
      List.forall₂_eq_eq_eq]
  unfold DistinctRestrictions
  simp only [hRestricted, exists_eq_left', firstOccurrences_iff]
  rfl

/- A projection to some variables may go by way of more. -/
theorem project_project
    {xs : List Var}
    {x : Var}
    (h : x ∈ xs)
    (a : Answer) :
    (a.project xs).project [x] = a.project [x] := by
  apply SortedMap.eq_of_get?_eq
  intro y
  rw [get?_project, get?_project, get?_project]
  split
  · rename_i hy
    rw [List.mem_singleton.mp hy, if_pos h]
  · rfl

/-
  The projections of answers to one variable are those of their
  projections to more, in the same order.
-/
theorem projections_projections
    {xs : List Var}
    {x : Var}
    (h : x ∈ xs)
    (answers : List Answer) :
    projections [x] (projections xs answers) =
      projections [x] answers := by
  unfold projections
  rw [eraseDups_map_eraseDups, List.map_map]
  congr 2
  funext a
  exact project_project h a

end Answer

------------------------------------------------------------
-- Successful Runs
------------------------------------------------------------

/- What a stream yields is determined by its first session. -/
theorem AnswerStream.Yields.unique
    {σ : Type}
    [RegexGrammar]
    {stream : AnswerStream}
    {s : QuerySession σ}
    {items items' : List (Except PlannerError Answer)}
    (h : stream.Yields s items)
    (h' : stream.Yields s items') :
    items = items' := by
  apply List.ext_getElem?
  intro i
  have hFirst := (h (List.replicate i s)).symm.trans
    (h' (List.replicate i s))
  rw [List.length_replicate] at hFirst
  unfold firstItems at hFirst
  exact List.map_inj_left.mp hFirst i
    (List.mem_range.mpr (Nat.lt_succ_self i))

namespace MatchQuery

section AnyGrammar

variable
  {σ : Type}
  [RegexGrammar]

/-
  The planner has a plan for the pattern of a query, and the
  executor runs it to some final answers.
-/
def Finishes
    (q : MatchQuery)
    (s : QuerySession σ)
    (final : List Answer) : Prop :=
  ∃ compiled planner t,
    s.planner.plan q.pattern s.schema = (.ok compiled, planner) ∧
      s.executor.Calls s.state Answer.seed compiled.plan.fragments
        final t

/- The final answers are determined by the session. -/
theorem Finishes.unique
    {q : MatchQuery}
    {s : QuerySession σ}
    {final final' : List Answer}
    (h : q.Finishes s final)
    (h' : q.Finishes s final') :
    final = final' := by
  rcases h with ⟨compiled, planner, t, hPlan, hCalls⟩
  rcases h' with ⟨compiled', planner', t', hPlan', hCalls'⟩
  rw [hPlan] at hPlan'
  cases hPlan'
  have hRun := Executor.run_of_calls hCalls
  rw [Executor.run_of_calls hCalls'] at hRun
  exact (Except.ok.inj hRun).symm

/- An evaluation with answers only, and no error, finishes. -/
theorem Evaluates.exists_finishes
    {q : MatchQuery}
    {xs : List Var}
    {s t : QuerySession σ}
    {items : List (Except PlannerError Answer)}
    (h : q.Evaluates xs s items t)
    {ys : List Answer}
    (hItems : items = ys.map .ok) :
    (∀ x ∈ xs, x ∈ q.pattern.vars) ∧
      ∃ final, q.Finishes s final ∧ ys = Answer.projections xs final := by
  have hNoError :
      ∀ e, [.error e] ≠
        (ys.map .ok : List (Except PlannerError Answer)) := by
    intro e hEq
    cases ys with
    | nil => cases hEq
    | cons y ys => cases hEq
  cases h with
  | unknown => exact absurd hItems (hNoError _)
  | unplanned => exact absurd hItems (hNoError _)
  | failed => exact absurd hItems (hNoError _)
  | answered hKnown hPlan hCalls =>
      have hInjective :
          Function.Injective
            (Except.ok : Answer → Except PlannerError Answer) :=
        fun _ _ h => Except.ok.inj h
      exact ⟨hKnown, _, ⟨_, _, _, hPlan, hCalls⟩,
        (hInjective.list_map hItems).symm⟩

/- A query that finishes has the projections of its final answers. -/
theorem Finishes.run_eq
    {q : MatchQuery}
    {s : QuerySession σ}
    {final : List Answer}
    (h : q.Finishes s final)
    {xs : List Var}
    (hKnown : ∀ x ∈ xs, x ∈ q.pattern.vars) :
    (q.run xs s).1 = .ok (Answer.projections xs final) := by
  rcases h with ⟨compiled, planner, t, hPlan, hCalls⟩
  have hResult :
      (s.executor.execute s.state compiled.plan).result = .ok final :=
    Executor.run_of_calls hCalls
  rw [run_of_planned (unknownVar?_eq_none_iff.mpr hKnown) hPlan]
  unfold answersOf
  rw [hResult]

/- When a pending stream yields answers, and which. -/
theorem yields_pending_iff
    (q : MatchQuery)
    (xs : List Var)
    (s : QuerySession σ)
    (ys : List Answer) :
    (AnswerStream.pending q xs).Yields s (ys.map .ok) ↔
      (∀ x ∈ xs, x ∈ q.pattern.vars) ∧
        ∃ final, q.Finishes s final ∧
          Answer.DistinctRestrictions xs final ys := by
  have hYields := AnswerStream.yields_pending q xs s
  simp only [Answer.distinctRestrictions_iff]
  constructor
  · intro h
    exact (q.evaluates_run xs s).exists_finishes (hYields.unique h)
  · rintro ⟨hKnown, final, hFinishes, rfl⟩
    rw [hFinishes.run_eq hKnown] at hYields
    exact hYields

/-
  The answers of a query are the different restrictions of the
  final answers to the selected variables, and the answers for
  one variable those to this variable.  If a query finishes with
  the same final answers in two sessions, the answers for one of
  its selected variables in the second are the different
  restrictions of all its answers in the first.
-/
theorem yields_stream_get_iff
    {τ : Type}
    (q : MatchQuery)
    (s : QuerySession σ)
    (t : QuerySession τ) :
    (∀ ys, q.stream.Yields s (ys.map .ok) ↔
        (∀ x ∈ q.selectedVars, x ∈ q.pattern.vars) ∧
          ∃ final, q.Finishes s final ∧
            Answer.DistinctRestrictions q.selectedVars final ys) ∧
      (∀ x ys, (q.get x).Yields s (ys.map .ok) ↔
        x ∈ q.pattern.vars ∧
          ∃ final, q.Finishes s final ∧
            Answer.DistinctRestrictions [x] final ys) ∧
      ∀ x ∈ q.selectedVars, ∀ final,
        q.Finishes s final →
          q.Finishes t final →
            ∀ ys, q.stream.Yields s (ys.map .ok) →
              ∀ zs, (q.get x).Yields t (zs.map .ok) ↔
                Answer.DistinctRestrictions [x] ys zs := by
  refine ⟨yields_pending_iff q q.selectedVars s, ?_, ?_⟩
  · intro x ys
    have hIff := yields_pending_iff q [x] s ys
    rw [List.forall_mem_singleton] at hIff
    exact hIff
  · intro x hx final hs ht ys hYields zs
    rcases (yields_pending_iff q q.selectedVars s ys).mp hYields
      with ⟨hKnown, final', hs', hDistinct⟩
    rw [← hs.unique hs', Answer.distinctRestrictions_iff] at hDistinct
    refine (yields_pending_iff q [x] t zs).trans ?_
    rw [hDistinct, Answer.distinctRestrictions_iff,
      Answer.projections_projections hx]
    constructor
    · rintro ⟨_, final'', ht', hZs⟩
      rw [← ht.unique ht', Answer.distinctRestrictions_iff] at hZs
      exact hZs
    · intro hZs
      refine ⟨?_, final, ht, Answer.distinctRestrictions_iff.mpr hZs⟩
      rw [List.forall_mem_singleton]
      exact hKnown x hx

end AnyGrammar

section Castings

attribute [local instance] Regex.grammar

/- The players and the relation of castings, but not the roles. -/
def castingQuery : MatchQuery where
  pattern :=
    ⟨[⟨⟨"r"⟩, [.rolePlayer ⟨some (.var ⟨"a"⟩), ⟨"x"⟩⟩]⟩]⟩
  selected := some [⟨"x"⟩, ⟨"r"⟩]

/- The plan of this query, from the first compilation. -/
def castingPlan : CompiledPlan where
  serial := 0
  plan :=
    ⟨[⟨.casting none (some ⟨"a"⟩) .outward ⟨"r"⟩ ⟨"x"⟩, 300, 0⟩],
      .empty, none⟩

/- A session where a player and a role have two concepts each. -/
def castingSession (calls : Nat) : QuerySession Nat where
  planner := .standard
  schema := ⟨.initial, true⟩
  executor :=
    DryRun.executor ⟨.ofList [("a", 2), ("x", 2)], [], none, none, ""⟩
  state := calls
  events := []

/- The final answers bind each role with each player. -/
def castingFinal : List Answer :=
  [.ofList [(⟨"a"⟩, "V-a-0"), (⟨"r"⟩, "V-r"), (⟨"x"⟩, "V-x-0")],
   .ofList [(⟨"a"⟩, "V-a-0"), (⟨"r"⟩, "V-r"), (⟨"x"⟩, "V-x-1")],
   .ofList [(⟨"a"⟩, "V-a-1"), (⟨"r"⟩, "V-r"), (⟨"x"⟩, "V-x-0")],
   .ofList [(⟨"a"⟩, "V-a-1"), (⟨"r"⟩, "V-r"), (⟨"x"⟩, "V-x-1")]]

/- The answers do not repeat a player. -/
def castingAnswers : List Answer :=
  [.ofList [(⟨"r"⟩, "V-r"), (⟨"x"⟩, "V-x-0")],
   .ofList [(⟨"r"⟩, "V-r"), (⟨"x"⟩, "V-x-1")]]

/- The query finishes, whatever was called before. -/
theorem finishes_castingQuery (calls : Nat) :
    castingQuery.Finishes (castingSession calls) castingFinal := by
  have hPlan :
      (Planner.standard.plan castingQuery.pattern ⟨.initial, true⟩).1 =
        .ok castingPlan := by
    decide +kernel
  have hAnswers :
      ((castingSession 0).executor.traverse 0
        (.casting none (some ⟨"a"⟩) .outward ⟨"r"⟩ ⟨"x"⟩)
        Answer.seed).1 = .ok castingFinal := by
    decide +kernel
  have hTraverse :
      (castingSession calls).executor.traverse calls
          (.casting none (some ⟨"a"⟩) .outward ⟨"r"⟩ ⟨"x"⟩) Answer.seed =
        (.ok castingFinal, calls + 1) :=
    Prod.ext hAnswers rfl
  cases hAsk : Planner.standard.plan castingQuery.pattern
      ⟨.initial, true⟩ with
  | mk result planner =>
      rw [hAsk] at hPlan
      cases hPlan
      exact ⟨castingPlan, planner, calls + 1, hAsk,
        .cons hTraverse .nil⟩

/- The relation, which all answers share, is yielded once. -/
theorem yields_stream_get_castingQuery :
    castingQuery.stream.Yields (castingSession 0)
        (castingAnswers.map .ok) ∧
      (castingQuery.get ⟨"r"⟩).Yields (castingSession 5)
        [.ok (.ofList [(⟨"r"⟩, "V-r")])] := by
  rcases yields_stream_get_iff castingQuery (castingSession 0)
      (castingSession 5) with ⟨hStream, _, hGet⟩
  have hYields :
      castingQuery.stream.Yields (castingSession 0)
        (castingAnswers.map .ok) := by
    refine (hStream castingAnswers).mpr
      ⟨by decide, castingFinal, finishes_castingQuery 0, ?_⟩
    rw [Answer.distinctRestrictions_iff]
    decide +kernel
  refine ⟨hYields, ?_⟩
  have hRelation := hGet ⟨"r"⟩ (by decide) castingFinal
    (finishes_castingQuery 0) (finishes_castingQuery 5) castingAnswers
    hYields [.ofList [(⟨"r"⟩, "V-r")]]
  rw [Answer.distinctRestrictions_iff] at hRelation
  exact hRelation.mpr (by decide +kernel)

end Castings

end MatchQuery

end TraversalPlanner
