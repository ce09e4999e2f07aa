import TraversalPlanner.Proofs.Cache.Callers

/-
  How often a plan is compiled for one key while callers share a
  cache.  A cell is filled once, and every answer from it is that
  plan.  So a key whose entry stays in the cache has one plan.

  A caller that gives up its cell after a failure drops the entry
  of the key, even if another caller compiles into the same cell
  at that time.  The plan of the other caller is then in no entry,
  and a third caller compiles another one.

  Main declarations:
    * `SharedCache.Run.filled_of_answer`
    * `SharedCache.Run.fillings_le_one`
    * `SharedCache.Stays`, `SharedCache.Spares`
    * `SharedCache.CompilesOnce`
    * `SharedCache.compilesOnce_of_not_fails`
    * `SharedCache.compilesOnce_of_spares`
    * `SharedCache.exists_run_of_two_plans`
    * `SharedCache.exists_run_of_stranded_caller`
-/

namespace TraversalPlanner

namespace SharedCache

open Function

variable
  {ι Φ : Type}
  [DecidableEq ι]
  [DecidableEq Φ]
  {s t : SharedCache ι Φ}
  {i : ι}
  {a : Answer Φ}
  {e : Event ι Φ}
  {es : List (Event ι Φ)}
  {P : SharedCache ι Φ → Event ι Φ → SharedCache ι Φ → Prop}

------------------------------------------------------------
-- Answers
------------------------------------------------------------

omit [DecidableEq ι] [DecidableEq Φ] in
/- An event is an answer, or has none. -/
theorem Event.answer?_eq_some_iff :
    e.answer? = some a ↔ ∃ i, e = .answered i a := by
  unfold Event.answer?
  split <;> simp_all

omit [DecidableEq ι] [DecidableEq Φ] in
/- The answers of a run are in its events. -/
theorem mem_allAnswers_iff :
    a ∈ allAnswers es ↔ ∃ i, .answered i a ∈ es := by
  unfold allAnswers
  rw [List.mem_filterMap]
  simp only [Event.answer?_eq_some_iff]
  constructor
  · rintro ⟨_, hEvent, i, rfl⟩
    exact ⟨i, hEvent⟩
  · rintro ⟨i, hEvent⟩
    exact ⟨_, hEvent, i, rfl⟩

/- A caller that answers waited for its cell, or compiled into it. -/
theorem Step.waiting_or_compiling
    (hStep : Step s (.answered i a) t) :
    (a.compiled = false ∧ s.callers i = .waiting a.key a.cell ∧
        s.cells a.cell = .filled a.plan) ∨
      (a.compiled = true ∧ s.callers i = .compiling a.key a.cell) := by
  cases hStep with
  | served hWaiting hFilled => exact Or.inl ⟨rfl, hWaiting, hFilled⟩
  | compiled plan hCompiling => exact Or.inr ⟨rfl, hCompiling⟩

/- An answer is the plan that is in its cell afterwards. -/
theorem Step.filled_of_answer
    (hStep : Step s (.answered i a) t) :
    t.cells a.cell = .filled a.plan := by
  cases hStep with
  | served _ hFilled => exact hFilled
  | compiled plan _ => exact update_self _ _ _

------------------------------------------------------------
-- Cells Are Filled Once
------------------------------------------------------------

/- A filled cell keeps its plan. -/
theorem Step.filled
    {cell : Nat}
    {plan : CompiledPlan}
    (hStep : Step s e t)
    (hSound : Sound s)
    (hFilled : s.cells cell = .filled plan) :
    t.cells cell = .filled plan := by
  -- only a cell that is empty or busy is changed
  have hFrame : ∀ other x, s.cells other ≠ .filled plan →
      update s.cells other x cell = .filled plan := by
    intro other x hOther
    rw [update_of_ne, hFilled]
    rintro rfl
    exact hOther hFilled
  have hCompiled : ∀ j key other, s.callers j = .compiling key other →
      s.cells other ≠ .filled plan := by
    intro j key other hCompiling
    rw [(hSound.busy j other).mpr ⟨key, hCompiling⟩]
    simp
  cases hStep with
  | entered _ hEmpty =>
      apply hFrame
      simp [hEmpty]
  | compiled _ hCompiling => exact hFrame _ _ (hCompiled _ _ _ hCompiling)
  | failed hCompiling => exact hFrame _ _ (hCompiled _ _ _ hCompiling)
  | _ => exact hFilled

/- A filled cell keeps its plan in a run. -/
theorem Run.filled
    {cell : Nat}
    {plan : CompiledPlan}
    (hRun : Run P s es t)
    (hSound : Sound s)
    (hFilled : s.cells cell = .filled plan) :
    t.cells cell = .filled plan := by
  induction hRun with
  | done => exact hFilled
  | step hStep _ _ ih =>
      exact ih (hStep.sound hSound) (hStep.filled hSound hFilled)

/- Every answer of a run is the plan that is in its cell at the end. -/
theorem Run.filled_of_answer
    (hRun : Run P s es t)
    (hSound : Sound s)
    (hAnswer : .answered i a ∈ es) :
    t.cells a.cell = .filled a.plan := by
  induction hRun with
  | done => simp at hAnswer
  | step hStep _ hRest ih =>
      have hNext := hStep.sound hSound
      rcases List.mem_cons.mp hAnswer with rfl | hLater
      · exact hRest.filled hNext hStep.filled_of_answer
      · exact ih hNext hLater

/- A plan is compiled into a cell. -/
def Event.fills (cell : Nat) : Event ι Φ → Bool
| .answered _ a => a.compiled && decide (a.cell = cell)
| _ => false

omit [DecidableEq ι] [DecidableEq Φ] in
/- What it takes to fill a cell. -/
theorem Event.fills_iff
    {cell : Nat} :
    e.fills cell = true ↔
      ∃ i a, e = .answered i a ∧ a.compiled = true ∧ a.cell = cell := by
  unfold Event.fills
  split <;> simp_all

/- A cell that a step fills had no plan, and has one then. -/
theorem Step.plan?_of_fills
    {cell : Nat}
    (hStep : Step s e t)
    (hSound : Sound s)
    (hFills : e.fills cell = true) :
    (s.cells cell).plan? = none ∧
      ∃ plan, t.cells cell = .filled plan := by
  rcases Event.fills_iff.mp hFills with ⟨i, a, rfl, hCompiled, rfl⟩
  refine ⟨?_, a.plan, hStep.filled_of_answer⟩
  rcases hStep.waiting_or_compiling with ⟨hServed, _⟩ | ⟨_, hCompiling⟩
  · rw [hCompiled] at hServed
    contradiction
  · rw [(hSound.busy i a.cell).mpr ⟨a.key, hCompiling⟩]
    rfl

/- A cell that has a plan is not filled again. -/
theorem Run.fillings_eq_zero
    {cell : Nat}
    {plan : CompiledPlan}
    (hRun : Run P s es t)
    (hSound : Sound s)
    (hFilled : s.cells cell = .filled plan) :
    es.countP (Event.fills cell) = 0 := by
  induction hRun with
  | done => rfl
  | step hStep _ _ ih =>
      rw [List.countP_cons_of_neg]
      · exact ih (hStep.sound hSound) (hStep.filled hSound hFilled)
      · intro hFills
        have hNone := (hStep.plan?_of_fills hSound hFills).1
        rw [hFilled] at hNone
        contradiction

/- A cell is filled once at most, whatever its callers do. -/
theorem Run.fillings_le_one
    (hRun : Run P s es t)
    (hSound : Sound s)
    (cell : Nat) :
    es.countP (Event.fills cell) ≤ 1 := by
  induction hRun with
  | done => exact Nat.zero_le 1
  | @step s _ _ e _ hStep _ hRest ih =>
      have hNext := hStep.sound hSound
      by_cases hFills : e.fills cell = true
      · rcases (hStep.plan?_of_fills hSound hFills).2 with ⟨plan, hFilled⟩
        apply Nat.le_of_eq
        rw [List.countP_cons_of_pos hFills,
          hRest.fillings_eq_zero hNext hFilled]
      · rw [List.countP_cons_of_neg hFills]
        exact ih hNext

------------------------------------------------------------
-- The Cell of a Key
------------------------------------------------------------

/- The cell of a key, if the key is in the cache. -/
def cellOf?
    (s : SharedCache ι Φ)
    (key : PlanKey Φ) : Option Nat :=
  (s.cache.find? key).map CacheEntry.cell

variable
  {key : PlanKey Φ}
  {cell : Nat}
  {plan : CompiledPlan}

/- A key keeps its cell, if it has one. -/
def Keeps
    (key : PlanKey Φ)
    (s t : SharedCache ι Φ) : Prop :=
  s.cellOf? key = none ∨ t.cellOf? key = s.cellOf? key

/-
  A key is not evicted, and is not dropped with the plans for older
  schemas or with all plans.  Only a caller that gives up its cell
  may drop it.
-/
def Stays
    (key : PlanKey Φ)
    (s : SharedCache ι Φ)
    (e : Event ι Φ)
    (t : SharedCache ι Φ) : Prop :=
  e.isGivingUp = true ∨ Keeps key s t

/-
  A key keeps its cell while callers wait for it or compile into
  it.
-/
def Spares
    (key : PlanKey Φ)
    (s t : SharedCache ι Φ) : Prop :=
  Keeps key s t ∨ ∀ i, (s.callers i).pending? key = none

/-
  Every caller that waits for the plan of a key, or compiles it,
  does so in the cell of the key.
-/
def NoneStranded
    (key : PlanKey Φ)
    (s : SharedCache ι Φ) : Prop :=
  ∀ i cell,
    (s.callers i).pending? key = some cell → s.cellOf? key = some cell

omit [DecidableEq ι] in
/- The plan of a key is the one in its cell. -/
theorem lookup?_of_cellOf?
    (hSound : Sound s)
    (hCell : s.cellOf? key = some cell)
    (hFilled : s.cells cell = .filled plan) :
    s.cache.lookup? key = some plan := by
  rcases Option.map_eq_some_iff.mp hCell with ⟨f, hFind, rfl⟩
  have hContent := hSound.content f (PlanCache.mem_of_find? hFind).1
  unfold PlanCache.lookup?
  rw [hFind, Option.bind_some, hContent, hFilled]
  rfl

omit [DecidableEq ι] in
/- A key that keeps its cell has that cell afterwards. -/
theorem Keeps.cellOf?_eq
    (h : Keeps key s t)
    (hCell : s.cellOf? key = some cell) :
    t.cellOf? key = some cell := by
  rcases h with hNone | hSame
  · rw [hNone] at hCell
    contradiction
  · rw [hSame, hCell]

/- A key whose cell is filled keeps it, unless it is removed. -/
theorem Step.cellOf?_of_filled
    (hStep : Step s e t)
    (hSound : Sound s)
    (hStays : Stays key s e t)
    (hCell : s.cellOf? key = some cell)
    (hFilled : s.cells cell = .filled plan) :
    t.cellOf? key = some cell := by
  rcases hStays with hGivingUp | hKeeps
  · -- an entry that has a plan is not given up
    cases hStep with
    | gaveUp hFailed =>
        rcases Option.map_eq_some_iff.mp hCell with ⟨f, hFind, rfl⟩
        have hContent := hSound.content f (PlanCache.mem_of_find? hFind).1
        rw [hFilled] at hContent
        apply Option.map_eq_some_iff.mpr
        exact ⟨f, PlanCache.find?_abandon_of_content
          hSound.distinct hFind hContent _ _, rfl⟩
    | _ => simp [Event.isGivingUp] at hGivingUp
  · exact hKeeps.cellOf?_eq hCell

/- A key whose cell is filled keeps it in a run. -/
theorem Run.cellOf?_of_filled
    (hRun : Run (Stays key) s es t)
    (hSound : Sound s)
    (hCell : s.cellOf? key = some cell)
    (hFilled : s.cells cell = .filled plan) :
    t.cellOf? key = some cell := by
  induction hRun with
  | done => exact hCell
  | step hStep hStays _ ih =>
      exact ih (hStep.sound hSound)
        (hStep.cellOf?_of_filled hSound hStays hCell hFilled)
        (hStep.filled hSound hFilled)

------------------------------------------------------------
-- Callers Without Entry
------------------------------------------------------------

/- A caller that answers had its cell in hand. -/
theorem Step.pending?_of_answer
    (hStep : Step s (.answered i a) t) :
    (s.callers i).pending? a.key = some a.cell := by
  apply Activity.pending?_eq_some_iff.mpr
  rcases hStep.waiting_or_compiling with ⟨_, hWaiting, _⟩ | ⟨_, hCompiling⟩
  · exact Or.inl hWaiting
  · exact Or.inr hCompiling

/-
  A caller that has a cell in hand after a step had it before, or
  has got the cell of its key.
-/
theorem Step.pending?_or_cellOf?
    (hStep : Step s e t)
    (hSound : Sound s)
    (hPending : (t.callers i).pending? key = some cell) :
    (s.callers i).pending? key = some cell ∨
      t.cellOf? key = some cell := by
  -- what holds of the caller that moves holds of all
  have hMoved : ∀ j x,
      (x.pending? key = some cell →
        (s.callers j).pending? key = some cell ∨
          t.cellOf? key = some cell) →
      (update s.callers j x i).pending? key = some cell →
      (s.callers i).pending? key = some cell ∨
        t.cellOf? key = some cell := by
    intro j x hOwn hAfter
    by_cases hij : i = j
    · rw [hij, update_self] at hAfter
      rw [hij]
      exact hOwn hAfter
    · rw [update_of_ne hij] at hAfter
      exact Or.inl hAfter
  cases hStep with
  | requested other _ _ =>
      refine hMoved _ _ ?_ hPending
      intro hOwn
      rcases Activity.pending?_eq_some_iff.mp hOwn with hEq | hEq
      · obtain ⟨rfl, rfl⟩ := Activity.waiting.inj hEq
        have hFind := PlanCache.find?_request hSound.distinct other
        exact Or.inr (Option.map_eq_some_iff.mpr ⟨_, hFind, rfl⟩)
      · contradiction
  | entered hWaiting _ =>
      refine hMoved _ _ ?_ hPending
      intro hOwn
      rw [hWaiting]
      exact Or.inl hOwn
  | served | compiled | failed | gaveUp =>
      refine hMoved _ _ ?_ hPending
      intro hOwn
      simp [Activity.pending?] at hOwn
  | invalidated | cleared => exact Or.inl hPending

/- If a key is spared, no caller is stranded by a step. -/
theorem Step.noneStranded
    (hStep : Step s e t)
    (hSound : Sound s)
    (hSpares : Spares key s t)
    (hNone : NoneStranded key s) :
    NoneStranded key t := by
  intro i cell hPending
  rcases hStep.pending?_or_cellOf? hSound hPending with hBefore | hCell
  · have hCell := hNone i cell hBefore
    rcases hSpares with hKeeps | hIdle
    · exact hKeeps.cellOf?_eq hCell
    · rw [hIdle i] at hBefore
      contradiction
  · exact hCell

/-
  If no caller is stranded, every answer for a key is from the cell
  that the key has at the end.
-/
theorem Run.cellOf?_of_answer
    (hRun :
      Run (fun s e t => Stays a.key s e t ∧ Spares a.key s t) s es t)
    (hSound : Sound s)
    (hNone : NoneStranded a.key s)
    (hAnswer : .answered i a ∈ es) :
    t.cellOf? a.key = some a.cell := by
  induction hRun with
  | done => simp at hAnswer
  | step hStep hOrderly hRest ih =>
      have hNext := hStep.sound hSound
      rcases List.mem_cons.mp hAnswer with rfl | hLater
      · have hCell := hNone i a.cell hStep.pending?_of_answer
        have hStays : Keeps a.key _ _ :=
          hOrderly.1.resolve_left (by simp [Event.isGivingUp])
        exact (hRest.mono fun h => h.1).cellOf?_of_filled hNext
          (hStays.cellOf?_eq hCell) hStep.filled_of_answer
      · exact ih hNext (hStep.noneStranded hSound hOrderly.2 hNone) hLater

------------------------------------------------------------
-- One Compilation
------------------------------------------------------------

/- A plan is compiled for a key. -/
def Event.compiles (key : PlanKey Φ) : Event ι Φ → Bool
| .answered _ a => a.compiled && decide (a.key = key)
| _ => false

omit [DecidableEq ι] in
/- What it takes to compile a plan for a key. -/
theorem Event.compiles_iff :
    e.compiles key = true ↔
      ∃ i a, e = .answered i a ∧ a.compiled = true ∧ a.key = key := by
  unfold Event.compiles
  split <;> simp_all

/-
  A plan is compiled for a key once at most, every answer for the
  key is the same plan, and the key has a plan after an answer.
-/
structure CompilesOnce
    (key : PlanKey Φ)
    (es : List (Event ι Φ))
    (t : SharedCache ι Φ) : Prop where
  single : es.countP (Event.compiles key) ≤ 1
  agree :
    ∀ a ∈ allAnswers es, ∀ b ∈ allAnswers es,
      a.key = key → b.key = key → a.plan = b.plan
  contained :
    ∀ a ∈ allAnswers es, a.key = key → t.cache.contains key = true

/-
  If no caller is stranded, the plan of every answer for a key is
  the one that the key has at the end.
-/
theorem Run.lookup?_of_answer
    (hRun :
      Run (fun s e t => Stays a.key s e t ∧ Spares a.key s t) s es t)
    (hSound : Sound s)
    (hNone : NoneStranded a.key s)
    (hAnswer : a ∈ allAnswers es) :
    t.cache.lookup? a.key = some a.plan := by
  rcases mem_allAnswers_iff.mp hAnswer with ⟨i, hEvent⟩
  exact lookup?_of_cellOf? (hRun.sound hSound)
    (hRun.cellOf?_of_answer hSound hNone hEvent)
    (hRun.filled_of_answer hSound hEvent)

/-
  If no caller is stranded, all plans for a key are compiled into
  the cell that the key has at the end, which is filled once.
-/
theorem Run.compilations_le_one
    (hRun : Run (fun s e t => Stays key s e t ∧ Spares key s t) s es t)
    (hSound : Sound s)
    (hNone : NoneStranded key s) :
    es.countP (Event.compiles key) ≤ 1 := by
  apply Nat.le_trans _
    (hRun.fillings_le_one hSound ((t.cellOf? key).getD 0))
  apply List.countP_mono_left
  intro e he hCompiles
  rcases Event.compiles_iff.mp hCompiles with ⟨i, a, rfl, hCompiled, rfl⟩
  rw [hRun.cellOf?_of_answer hSound hNone he]
  exact Event.fills_iff.mpr ⟨i, a, rfl, hCompiled, rfl⟩

/- If no caller is stranded, the plan of a key is compiled once. -/
theorem Run.compilesOnce
    (hRun : Run (fun s e t => Stays key s e t ∧ Spares key s t) s es t)
    (hSound : Sound s)
    (hNone : NoneStranded key s) :
    CompilesOnce key es t where
  single := hRun.compilations_le_one hSound hNone
  agree := by
    rintro a ha b hb rfl hKey
    have hSame := hRun.lookup?_of_answer hSound hNone ha
    rw [← hKey] at hRun hNone hSame
    rw [hRun.lookup?_of_answer hSound hNone hb] at hSame
    exact (Option.some.inj hSame).symm
  contained := by
    rintro a ha rfl
    exact PlanCache.contains_of_lookup?
      (hRun.lookup?_of_answer hSound hNone ha)

omit [DecidableEq ι] in
/- In a new cache, no caller is stranded. -/
theorem noneStranded_start (config : CacheConfig) :
    NoneStranded key (start ι config) := by
  intro i cell hPending
  contradiction

------------------------------------------------------------
-- Callers That Do Not Fail
------------------------------------------------------------

/- A caller fails to compile a plan for a key. -/
def Fails
    (key : PlanKey Φ)
    (s : SharedCache ι Φ)
    (e : Event ι Φ) : Prop :=
  ∃ i cell, e = .failed i ∧ s.callers i = .compiling key cell

/- No caller has still to give up a cell for a key. -/
def NoneFailed
    (key : PlanKey Φ)
    (s : SharedCache ι Φ) : Prop :=
  ∀ i cell, s.callers i ≠ .failed key cell

/- If no caller fails for a key, none has to give up its cell. -/
theorem Step.noneFailed
    (hStep : Step s e t)
    (hFails : ¬ Fails key s e)
    (hNone : NoneFailed key s) :
    NoneFailed key t := by
  intro i cell
  -- the caller that moves has nothing to give up, as the others
  have hMoved : ∀ j x, x ≠ .failed key cell →
      update s.callers j x i ≠ .failed key cell := by
    intro j x hOwn
    by_cases hij : i = j
    · rw [hij, update_self]
      exact hOwn
    · rw [update_of_ne hij]
      exact hNone i cell
  cases hStep with
  | @failed j other _ hCompiling =>
      apply hMoved
      intro hEq
      injection hEq with hKey
      rw [hKey] at hCompiling
      exact hFails ⟨j, _, rfl, hCompiling⟩
  | requested | served | entered | compiled | gaveUp =>
      apply hMoved
      simp
  | invalidated | cleared => exact hNone i cell

/- A key is spared by callers that give up cells of other keys. -/
theorem Step.spares_of_noneFailed
    (hStep : Step s e t)
    (hStays : Stays key s e t)
    (hNone : NoneFailed key s) :
    Spares key s t := by
  rcases hStays with hGivingUp | hKeeps
  · cases hStep with
    | @gaveUp i other cell hFailed =>
        have hOther : other ≠ key := by
          rintro rfl
          exact hNone i cell hFailed
        have hFind :=
          s.cache.countMiss.find?_abandon_of_ne hOther cell
        exact Or.inl (Or.inr (congrArg (Option.map CacheEntry.cell) hFind))
    | _ => simp [Event.isGivingUp] at hGivingUp
  · exact Or.inl hKeeps

/- If no caller fails for a key, the key is spared in a run. -/
theorem Run.spares_of_noneFailed
    (hRun : Run (fun s e t => Stays key s e t ∧ ¬ Fails key s e) s es t)
    (hNone : NoneFailed key s) :
    Run (fun s e t => Stays key s e t ∧ Spares key s t) s es t := by
  induction hRun with
  | done => exact .done
  | step hStep hOrderly _ ih =>
      exact .step hStep
        ⟨hOrderly.1, hStep.spares_of_noneFailed hOrderly.1 hNone⟩
        (ih (hStep.noneFailed hOrderly.2 hNone))

/-
  In a new cache, the plan of a key is compiled once while the key
  stays and all attempts to compile it succeed.
-/
theorem compilesOnce_of_not_fails
    {config : CacheConfig}
    (hRun :
      Run (fun s e t => Stays key s e t ∧ ¬ Fails key s e)
        (start ι config) es t) :
    CompilesOnce key es t := by
  have hNone : NoneFailed key (start ι config) := by
    intro i cell hFailed
    contradiction
  exact (hRun.spares_of_noneFailed hNone).compilesOnce
    (sound_start config) (noneStranded_start config)

------------------------------------------------------------
-- Callers That Fail
------------------------------------------------------------

/-
  While a key stays in the cache, and is spared by the callers that
  fail, its plan is compiled once, and every caller gets it.
-/
theorem compilesOnce_of_spares
    {config : CacheConfig}
    {pre : List (Event ι Φ)}
    (hReached : Run (fun _ _ _ => True) (start ι config) pre s)
    (hNone : NoneStranded key s)
    (hRun : Run (fun s e t => Stays key s e t ∧ Spares key s t) s es t) :
    CompilesOnce key es t :=
  hRun.compilesOnce (hReached.sound (sound_start config)) hNone

omit [DecidableEq ι] in
/- A step in which a key keeps its cell is as it should be. -/
theorem Keeps.stays_spares
    (h : Keeps key s t) :
    Stays key s e t ∧ Spares key s t :=
  ⟨Or.inr h, Or.inl h⟩

/- A key for a pattern without properties. -/
def plainKey : PlanKey Unit where
  signature := "x"
  startVars := []
  fingerprint := ()
  version := 0

/- A plan without steps. -/
def idlePlan : Plan where
  steps := []
  startVars := .empty
  trace := none

/- A caller fails and gives up, and then two callers want the key. -/
def retryEvents : List (Event (Fin 2) Unit) :=
  [.requested 0 plainKey, .entered 0, .failed 0, .gaveUp 0,
    .requested 0 plainKey, .requested 1 plainKey, .entered 1,
    .answered 1 ⟨plainKey, 1, ⟨0, idlePlan⟩, true⟩,
    .answered 0 ⟨plainKey, 1, ⟨0, idlePlan⟩, false⟩]

/-
  A caller that fails while nobody else wants its key spares it.
  Afterwards two callers share one compilation.
-/
theorem compilesOnce_of_spares_retryEvents :
    ∃ t,
      Run (fun s e t => Stays plainKey s e t ∧ Spares plainKey s t)
          (start (Fin 2) .standard) retryEvents t ∧
        CompilesOnce plainKey retryEvents t := by
  have hRun : ∃ t,
      Run (fun s e t => Stays plainKey s e t ∧ Spares plainKey s t)
        (start (Fin 2) .standard) retryEvents t :=
    ⟨_,
      .step (.requested plainKey rfl rfl)
        (Keeps.stays_spares (Or.inl rfl)) <|
      .step (.entered rfl rfl) (Keeps.stays_spares (Or.inr rfl)) <|
      .step (.failed rfl) (Keeps.stays_spares (Or.inr rfl)) <|
      .step (.gaveUp rfl) ⟨Or.inl rfl, Or.inr (by decide)⟩ <|
      .step (.requested plainKey rfl rfl)
        (Keeps.stays_spares (Or.inl rfl)) <|
      .step (.requested plainKey rfl rfl)
        (Keeps.stays_spares (Or.inr rfl)) <|
      .step (.entered rfl rfl) (Keeps.stays_spares (Or.inr rfl)) <|
      .step (.compiled idlePlan rfl) (Keeps.stays_spares (Or.inr rfl)) <|
      .step (.served rfl rfl) (Keeps.stays_spares (Or.inr rfl)) .done⟩
  rcases hRun with ⟨t, hRun⟩
  exact ⟨t, hRun,
    compilesOnce_of_spares .done (noneStranded_start _) hRun⟩

/-
  One caller fails, another one compiles into the same cell, and
  then the first one gives up the cell.
-/
def strandingEvents : List (Event (Fin 3) Unit) :=
  [.requested 0 plainKey, .requested 1 plainKey, .entered 0, .failed 0,
    .entered 1, .gaveUp 0,
    .answered 1 ⟨plainKey, 0, ⟨0, idlePlan⟩, true⟩]

/- A third caller finds no entry and compiles another plan. -/
def laterEvents : List (Event (Fin 3) Unit) :=
  [.requested 2 plainKey, .entered 2,
    .answered 2 ⟨plainKey, 1, ⟨1, idlePlan⟩, true⟩]

/-
  A key that is neither evicted nor dropped with others may have
  no plan after an answer, and may be compiled twice: a caller that
  fails gives up its cell while another one compiles into it.
-/
theorem exists_run_of_two_plans :
    ∃ t u,
      Run (Stays plainKey) (start (Fin 3) .standard) strandingEvents t ∧
        t.cache.contains plainKey = false ∧
        Run (Stays plainKey) t laterEvents u ∧
        (strandingEvents ++ laterEvents).countP
            (Event.compiles plainKey) = 2 ∧
        (allAnswers (strandingEvents ++ laterEvents)).map Answer.plan =
          [⟨0, idlePlan⟩, ⟨1, idlePlan⟩] := by
  refine ⟨_, _,
    .step (.requested plainKey rfl rfl) (Or.inr (Or.inl rfl)) <|
    .step (.requested plainKey rfl rfl) (Or.inr (Or.inr rfl)) <|
    .step (.entered rfl rfl) (Or.inr (Or.inr rfl)) <|
    .step (.failed rfl) (Or.inr (Or.inr rfl)) <|
    .step (.entered rfl rfl) (Or.inr (Or.inr rfl)) <|
    .step (.gaveUp rfl) (Or.inl rfl) <|
    .step (.compiled idlePlan rfl) (Or.inr (Or.inl rfl)) .done,
    rfl,
    .step (.requested plainKey rfl rfl) (Or.inr (Or.inl rfl)) <|
    .step (.entered rfl rfl) (Or.inr (Or.inr rfl)) <|
    .step (.compiled idlePlan rfl) (Or.inr (Or.inr rfl)) .done,
    rfl, rfl⟩

/- A caller compiles while all plans are dropped. -/
def droppedEvents : List (Event (Fin 2) Unit) :=
  [.requested 0 plainKey, .entered 0, .cleared]

/- Another caller compiles a plan before the first one has its own. -/
def overtakingEvents : List (Event (Fin 2) Unit) :=
  [.requested 1 plainKey, .entered 1,
    .answered 1 ⟨plainKey, 1, ⟨0, idlePlan⟩, true⟩,
    .answered 0 ⟨plainKey, 0, ⟨1, idlePlan⟩, true⟩]

/-
  A key that keeps its cell may be compiled twice by a caller that
  was stranded before.
-/
theorem exists_run_of_stranded_caller :
    ∃ s t,
      Run (fun _ _ _ => True) (start (Fin 2) .standard) droppedEvents s ∧
        Run (fun s _ t => Keeps plainKey s t) s overtakingEvents t ∧
        overtakingEvents.countP (Event.compiles plainKey) = 2 ∧
        t.cache.lookup? plainKey = some ⟨0, idlePlan⟩ := by
  refine ⟨_, _,
    .step (.requested plainKey rfl rfl) trivial <|
    .step (.entered rfl rfl) trivial <|
    .step .cleared trivial .done,
    .step (.requested plainKey rfl rfl) (Or.inl rfl) <|
    .step (.entered rfl rfl) (Or.inr rfl) <|
    .step (.compiled idlePlan rfl) (Or.inr rfl) <|
    .step (.compiled idlePlan rfl) (Or.inr rfl) .done,
    rfl, rfl⟩

end SharedCache

end TraversalPlanner
