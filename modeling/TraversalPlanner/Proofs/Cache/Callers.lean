import Mathlib.Logic.Function.Basic
import TraversalPlanner.Proofs.Cache.Contents
import TraversalPlanner.Proofs.Cache.Lookup

/-
  Concurrent callers of one plan cache.  A caller gets the cell of
  its key, and waits until it may read a plan from the cell or try
  to fill it.  One caller at a time tries to fill a cell.  If its
  attempt fails, the cell is empty again and another caller may
  try, and the caller gives up the cell afterwards, in a step of
  its own.

  Main declarations:
    * `SharedCache`, `SharedCache.Event`, `SharedCache.Step`
    * `SharedCache.Run`
    * `SharedCache.Sound`
    * `SharedCache.Run.sound`
    * `SharedCache.exists_run_of_getOrCompile`
-/

namespace TraversalPlanner

------------------------------------------------------------
-- Caches With Callers
------------------------------------------------------------

/-
  The state of a cell: empty, being filled by a caller, or filled
  with a plan.
-/
inductive CellState (ι : Type) where
| empty : CellState ι
| busy : ι → CellState ι
| filled : CompiledPlan → CellState ι

/- The plan in a cell. -/
def CellState.plan?
    {ι : Type} : CellState ι → Option CompiledPlan
| .empty => none
| .busy _ => none
| .filled plan => some plan

/- A cell that shows a plan is filled with it. -/
theorem CellState.eq_filled_of_plan?
    {ι : Type}
    {x : CellState ι}
    {plan : CompiledPlan}
    (h : x.plan? = some plan) :
    x = .filled plan := by
  cases x with
  | empty => cases h
  | busy i => cases h
  | filled other =>
      cases h
      rfl

/- What a caller does. -/
inductive Activity (Φ : Type) where
/- nothing -/
| idle : Activity Φ
/- wait for the plan of a key in a cell -/
| waiting :
    (key : PlanKey Φ) →
    (cell : Nat) →
    Activity Φ
/- compile a plan for a key into a cell -/
| compiling :
    (key : PlanKey Φ) →
    (cell : Nat) →
    Activity Φ
/- give up the cell of a key after a failure -/
| failed :
    (key : PlanKey Φ) →
    (cell : Nat) →
    Activity Φ

namespace Activity

variable
  {Φ : Type}

/- The cell that a caller has in hand. -/
def cell? : Activity Φ → Option Nat
| .idle => none
| .waiting _ cell => some cell
| .compiling _ cell => some cell
| .failed _ cell => some cell

/-
  The cell that a caller waits for or compiles into, if it does so
  for the key.
-/
def pending?
    [DecidableEq Φ]
    (key : PlanKey Φ) : Activity Φ → Option Nat
| .waiting other cell => if other = key then some cell else none
| .compiling other cell => if other = key then some cell else none
| _ => none

/- What a caller does that waits for a key or compiles it. -/
theorem pending?_eq_some_iff
    [DecidableEq Φ]
    {key : PlanKey Φ}
    {cell : Nat}
    {a : Activity Φ} :
    a.pending? key = some cell ↔
      a = .waiting key cell ∨ a = .compiling key cell := by
  cases a <;> simp [pending?]

end Activity

/-
  A cache with its callers, and with the cells that it has handed
  out.  A caller may have a cell in hand that the cache has no
  longer.
-/
structure SharedCache (ι Φ : Type) where
  cache : PlanCache Φ
  cells : Nat → CellState ι
  callers : ι → Activity Φ

namespace SharedCache

variable
  {ι Φ : Type}

/- A new cache, without anyone who calls it. -/
def start
    (ι : Type)
    {Φ : Type}
    (config : CacheConfig) : SharedCache ι Φ where
  cache := .empty config
  cells := fun _ => .empty
  callers := fun _ => .idle

------------------------------------------------------------
-- Steps
------------------------------------------------------------

/- What a caller answers with: a plan for a key, from a cell. -/
structure Answer (Φ : Type) where
  key : PlanKey Φ
  cell : Nat
  plan : CompiledPlan
  /- the caller compiled the plan itself -/
  compiled : Bool
deriving DecidableEq

/- What happens in a step. -/
inductive Event (ι Φ : Type) where
/- a caller gets the cell of a key -/
| requested : ι → PlanKey Φ → Event ι Φ
/- a caller starts to compile a plan -/
| entered : ι → Event ι Φ
/- a caller answers with a plan -/
| answered : ι → Answer Φ → Event ι Φ
/- a caller fails to compile a plan -/
| failed : ι → Event ι Φ
/- a caller that failed gives up its cell -/
| gaveUp : ι → Event ι Φ
/- the plans for older schemas are dropped -/
| invalidated : UInt64 → Event ι Φ
/- all plans are dropped -/
| cleared : Event ι Φ

namespace Event

/- The answer of an event. -/
def answer? : Event ι Φ → Option (Answer Φ)
| .answered _ a => some a
| _ => none

/- A caller gives up its cell. -/
def isGivingUp : Event ι Φ → Bool
| .gaveUp _ => true
| _ => false

end Event

section Steps

open Function

variable [DecidableEq ι] [DecidableEq Φ]

/-
  One step of a cache in use.  Each is atomic: the cache is
  changed by one caller at a time, and a cell is filled by one
  caller at a time.
-/
inductive Step :
    SharedCache ι Φ → Event ι Φ → SharedCache ι Φ → Prop where
| requested
    {s : SharedCache ι Φ}
    {i : ι}
    (key : PlanKey Φ) :
    s.cache.config.enabled = true →
    s.callers i = .idle →
    Step s (.requested i key)
      { s with
        cache := (s.cache.request key).2
        callers := update s.callers i
          (.waiting key (s.cache.request key).1.cell) }
| served
    {s : SharedCache ι Φ}
    {i : ι}
    {key : PlanKey Φ}
    {cell : Nat}
    {plan : CompiledPlan} :
    s.callers i = .waiting key cell →
    s.cells cell = .filled plan →
    Step s (.answered i ⟨key, cell, plan, false⟩)
      { s with
        cache := s.cache.countHit
        callers := update s.callers i .idle }
| entered
    {s : SharedCache ι Φ}
    {i : ι}
    {key : PlanKey Φ}
    {cell : Nat} :
    s.callers i = .waiting key cell →
    s.cells cell = .empty →
    Step s (.entered i)
      { s with
        cells := update s.cells cell (.busy i)
        callers := update s.callers i (.compiling key cell) }
| compiled
    {s : SharedCache ι Φ}
    {i : ι}
    {key : PlanKey Φ}
    {cell : Nat}
    (plan : Plan) :
    s.callers i = .compiling key cell →
    Step s
      (.answered i
        ⟨key, cell, (s.cache.countCompilation plan).1, true⟩)
      { cache :=
          ((s.cache.countCompilation plan).2.fill cell
            (s.cache.countCompilation plan).1).countMiss
        cells := update s.cells cell
          (.filled (s.cache.countCompilation plan).1)
        callers := update s.callers i .idle }
| failed
    {s : SharedCache ι Φ}
    {i : ι}
    {key : PlanKey Φ}
    {cell : Nat} :
    s.callers i = .compiling key cell →
    Step s (.failed i)
      { s with
        cells := update s.cells cell .empty
        callers := update s.callers i (.failed key cell) }
| gaveUp
    {s : SharedCache ι Φ}
    {i : ι}
    {key : PlanKey Φ}
    {cell : Nat} :
    s.callers i = .failed key cell →
    Step s (.gaveUp i)
      { s with
        cache := s.cache.countMiss.abandon key cell
        callers := update s.callers i .idle }
| invalidated
    {s : SharedCache ι Φ}
    (version : UInt64) :
    Step s (.invalidated version)
      { s with cache := (s.cache.invalidate version).2 }
| cleared
    {s : SharedCache ι Φ} :
    Step s .cleared { s with cache := s.cache.clear }

/- Steps one after the other, all of them with some property. -/
inductive Run
    (P : SharedCache ι Φ → Event ι Φ → SharedCache ι Φ → Prop) :
    SharedCache ι Φ →
    List (Event ι Φ) →
    SharedCache ι Φ →
    Prop where
| done
    {s : SharedCache ι Φ} :
    Run P s [] s
| step
    {s t u : SharedCache ι Φ}
    {e : Event ι Φ}
    {es : List (Event ι Φ)} :
    Step s e t →
    P s e t →
    Run P t es u →
    Run P s (e :: es) u

/- All answers of a run. -/
def allAnswers (es : List (Event ι Φ)) : List (Answer Φ) :=
  es.filterMap Event.answer?

------------------------------------------------------------
-- Sound States
------------------------------------------------------------

/-
  What holds in every state of a cache and its callers.
-/
structure Sound (s : SharedCache ι Φ) : Prop where
  /- cells are numbered as they are handed out -/
  holds : s.cache.Holds fun _ _ => True
  distinct : s.cache.HasDistinctKeys
  /- the entries of the cache show what is in their cells -/
  content : ∀ e ∈ s.cache.entries, e.content = (s.cells e.cell).plan?
  /- a cell that was not handed out is empty and in no hand -/
  fresh : ∀ cell, s.cache.nextCell ≤ cell → s.cells cell = .empty
  cell_lt :
    ∀ i cell, (s.callers i).cell? = some cell → cell < s.cache.nextCell
  /- a cell is busy with the caller that compiles into it -/
  busy :
    ∀ i cell, s.cells cell = .busy i ↔
      ∃ key, s.callers i = .compiling key cell

omit [DecidableEq ι] [DecidableEq Φ] in
/- A new cache is in a sound state. -/
theorem sound_start (config : CacheConfig) :
    Sound (start ι (Φ := Φ) config) where
  holds := .empty config
  distinct := .empty config
  content := by
    intro e he
    cases he
  fresh := fun _ _ => rfl
  cell_lt := by
    intro i cell h
    cases h
  busy := by
    intro i cell
    constructor
    · intro h
      cases h
    · rintro ⟨key, h⟩
      cases h

namespace Sound

variable
  {s : SharedCache ι Φ}
  {i : ι}
  {key : PlanKey Φ}
  {cell : Nat}

omit [DecidableEq ι] [DecidableEq Φ] in
/- Dropping entries, and counting, keeps a state sound. -/
theorem drop
    (h : Sound s)
    {c : PlanCache Φ}
    (hEntries : c.entries.Sublist s.cache.entries)
    (hNext : c.nextCell = s.cache.nextCell) :
    Sound { s with cache := c } where
  holds := h.holds.of_subset hEntries.subset hNext
  distinct := h.distinct.of_sublist hEntries
  content := fun e he => h.content e (hEntries.subset he)
  fresh := by
    intro cell hCell
    rw [hNext] at hCell
    exact h.fresh cell hCell
  cell_lt := by
    intro j cell hj
    rw [hNext]
    exact h.cell_lt j cell hj
  busy := h.busy

omit [DecidableEq Φ] in
/- A caller that does not compile may have nothing more to do. -/
theorem release
    (h : Sound s)
    (hi : ∀ key cell, s.callers i ≠ .compiling key cell) :
    Sound { s with callers := update s.callers i .idle } where
  holds := h.holds
  distinct := h.distinct
  content := h.content
  fresh := h.fresh
  cell_lt := by
    intro j cell hj
    by_cases hji : j = i
    · rw [hji] at hj
      simp [Activity.cell?] at hj
    · simp only [update_of_ne hji] at hj
      exact h.cell_lt j cell hj
  busy := by
    intro j cell
    rw [h.busy]
    by_cases hji : j = i
    · rw [hji]
      simp [hi]
    · simp only [update_of_ne hji]

/- A request keeps a state sound. -/
theorem request
    (h : Sound s)
    (hIdle : s.callers i = .idle)
    (key : PlanKey Φ) :
    Sound
      { s with
        cache := (s.cache.request key).2
        callers := update s.callers i
          (.waiting key (s.cache.request key).1.cell) } where
  holds := (h.holds.request key).1
  distinct := h.distinct.request key
  content := by
    intro e he
    rcases PlanCache.mem_entries_request he with he | rfl
    · exact h.content e he
    · simp only [h.fresh _ (Nat.le_refl _)]
      rfl
  fresh := by
    intro cell hCell
    exact h.fresh cell
      (Nat.le_trans (s.cache.nextCell_le_request key) hCell)
  cell_lt := by
    intro j cell hj
    rcases h.holds.request key with ⟨hHolds, hMem, _⟩
    by_cases hji : j = i
    · rw [hji] at hj
      simp only [update_self, Activity.cell?, Option.some.injEq] at hj
      rw [← hj]
      exact hHolds.cell_lt _ hMem
    · simp only [update_of_ne hji] at hj
      exact Nat.lt_of_lt_of_le (h.cell_lt j cell hj)
        (s.cache.nextCell_le_request key)
  busy := by
    intro j cell
    rw [h.busy]
    by_cases hji : j = i
    · rw [hji]
      simp [hIdle]
    · simp only [update_of_ne hji]

omit [DecidableEq Φ] in
/-
  A caller may change the cell that it has in hand and what it does
  itself, if no other caller compiles into the cell, and if the
  cell is busy afterwards exactly if the caller compiles into it.
-/
theorem move
    (h : Sound s)
    (hHand : (s.callers i).cell? = some cell)
    (hOwner : ∀ j, s.cells cell = .busy j → j = i)
    {c : PlanCache Φ}
    (hHolds : c.Holds fun _ _ => True)
    (hDistinct : c.HasDistinctKeys)
    (hNext : c.nextCell = s.cache.nextCell)
    {x : CellState ι}
    (hContent :
      ∀ e ∈ c.entries, e.content = (update s.cells cell x e.cell).plan?)
    {a : Activity Φ}
    (hActivity : ∀ other, a.cell? = some other → other = cell)
    (hBusy : ∀ j, x = .busy j ↔ j = i ∧ ∃ key, a = .compiling key cell) :
    Sound ⟨c, update s.cells cell x, update s.callers i a⟩ where
  holds := hHolds
  distinct := hDistinct
  content := hContent
  fresh := by
    intro other hOther
    have hLt := h.cell_lt i cell hHand
    simp only [hNext] at hOther
    have hNe : other ≠ cell := by omega
    simp only [update_of_ne hNe]
    exact h.fresh other hOther
  cell_lt := by
    intro j other hj
    simp only [hNext]
    by_cases hji : j = i
    · rw [hji] at hj
      simp only [update_self] at hj
      rw [hActivity other hj]
      exact h.cell_lt i cell hHand
    · simp only [update_of_ne hji] at hj
      exact h.cell_lt j other hj
  busy := by
    intro j other
    by_cases hCell : other = cell
    · rw [hCell]
      simp only [update_self, hBusy]
      by_cases hji : j = i
      · rw [hji]
        simp only [update_self, true_and]
      · simp only [update_of_ne hji, hji, false_and, false_iff]
        intro hCompiling
        exact hji (hOwner j ((h.busy j cell).mpr hCompiling))
    · simp only [update_of_ne hCell, h.busy]
      by_cases hji : j = i
      · rw [hji]
        simp only [update_self]
        apply iff_of_false
        · rintro ⟨key, hCompiling⟩
          rw [hCompiling] at hHand
          exact hCell (Option.some.inj hHand)
        · rintro ⟨key, hCompiling⟩
          exact hCell (hActivity other (by rw [hCompiling]; rfl))
      · simp only [update_of_ne hji]

omit [DecidableEq ι] [DecidableEq Φ] in
/- The entries show what is in a cell after it was filled. -/
theorem content_fill
    (h : Sound s)
    (cell : Nat)
    (plan : CompiledPlan) :
    ∀ e ∈ (s.cache.fill cell plan).entries,
      e.content = (update s.cells cell (.filled plan) e.cell).plan? := by
  intro e he
  rcases List.mem_map.mp he with ⟨f, hf, rfl⟩
  by_cases hCell : f.cell = cell
  · rw [if_pos hCell, hCell, update_self]
    rfl
  · rw [if_neg hCell, update_of_ne hCell]
    exact h.content f hf

omit [DecidableEq ι] [DecidableEq Φ] in
/- The entries show what is in a cell that has no plan before or after. -/
theorem content_of_plan?_eq_none
    (h : Sound s)
    {x : CellState ι}
    (hBefore : (s.cells cell).plan? = none)
    (hAfter : x.plan? = none) :
    ∀ e ∈ s.cache.entries,
      e.content = (update s.cells cell x e.cell).plan? := by
  intro e he
  rw [h.content e he]
  by_cases hCell : e.cell = cell
  · rw [hCell, update_self, hBefore, hAfter]
  · rw [update_of_ne hCell]

omit [DecidableEq ι] [DecidableEq Φ] in
/- Only the caller that compiles into a cell makes it busy. -/
theorem eq_of_compiling
    (h : Sound s)
    (hCompiling : s.callers i = .compiling key cell) :
    ∀ j, s.cells cell = .busy j → j = i := by
  intro j hj
  rw [(h.busy i cell).mpr ⟨key, hCompiling⟩] at hj
  cases hj
  rfl

omit [DecidableEq Φ] in
/- A caller may start to compile into an empty cell. -/
theorem enter
    (h : Sound s)
    (hWaiting : s.callers i = .waiting key cell)
    (hEmpty : s.cells cell = .empty) :
    Sound
      ⟨s.cache, update s.cells cell (.busy i),
        update s.callers i (.compiling key cell)⟩ := by
  refine h.move (by rw [hWaiting]; rfl) ?_ h.holds h.distinct rfl
    (h.content_of_plan?_eq_none (by rw [hEmpty]; rfl) rfl) ?_ ?_
  · intro j hj
    rw [hEmpty] at hj
    cases hj
  · intro other hOther
    exact (Option.some.inj hOther).symm
  · intro j
    constructor
    · intro hj
      cases hj
      exact ⟨rfl, key, rfl⟩
    · rintro ⟨rfl, _⟩
      rfl

omit [DecidableEq Φ] in
/- A caller that failed leaves its cell empty. -/
theorem fail
    (h : Sound s)
    (hCompiling : s.callers i = .compiling key cell) :
    Sound
      ⟨s.cache, update s.cells cell .empty,
        update s.callers i (.failed key cell)⟩ := by
  have hBusy := (h.busy i cell).mpr ⟨key, hCompiling⟩
  refine h.move (by rw [hCompiling]; rfl) (h.eq_of_compiling hCompiling)
    h.holds h.distinct rfl
    (h.content_of_plan?_eq_none (by rw [hBusy]; rfl) rfl) ?_ ?_
  · intro other hOther
    exact (Option.some.inj hOther).symm
  · intro j
    constructor
    · intro hj
      cases hj
    · rintro ⟨_, _, hKey⟩
      cases hKey

omit [DecidableEq Φ] in
/- A caller that compiled a plan fills its cell. -/
theorem succeed
    (h : Sound s)
    (hCompiling : s.callers i = .compiling key cell)
    (plan : Plan) :
    Sound
      ⟨((s.cache.countCompilation plan).2.fill cell
          (s.cache.countCompilation plan).1).countMiss,
        update s.cells cell
          (.filled (s.cache.countCompilation plan).1),
        update s.callers i .idle⟩ := by
  have hCounted :
      Sound { s with cache := (s.cache.countCompilation plan).2 } :=
    h.drop (.refl _) rfl
  refine hCounted.move (by simp only [hCompiling]; rfl)
    (h.eq_of_compiling hCompiling)
    (hCounted.holds.fill_any cell _).countMiss
    (hCounted.distinct.fill cell _) rfl
    (hCounted.content_fill cell _) ?_ ?_
  · intro other hOther
    cases hOther
  · intro j
    constructor
    · intro hj
      cases hj
    · rintro ⟨_, _, hKey⟩
      cases hKey

end Sound

/- Every step keeps a state sound. -/
theorem Step.sound
    {s t : SharedCache ι Φ}
    {e : Event ι Φ}
    (hStep : Step s e t)
    (h : Sound s) :
    Sound t := by
  cases hStep with
  | requested key _ hIdle => exact h.request hIdle key
  | @served i key cell plan hWaiting _ =>
      have hCounted : Sound { s with cache := s.cache.countHit } :=
        h.drop (.refl _) rfl
      exact hCounted.release (i := i) (by simp [hWaiting])
  | entered hWaiting hEmpty => exact h.enter hWaiting hEmpty
  | compiled plan hCompiling => exact h.succeed hCompiling plan
  | failed hCompiling => exact h.fail hCompiling
  | @gaveUp i key cell hFailed =>
      have hDropped :
          Sound { s with cache := s.cache.countMiss.abandon key cell } :=
        h.drop List.filter_sublist rfl
      exact hDropped.release (i := i) (by simp [hFailed])
  | invalidated version => exact h.drop List.filter_sublist rfl
  | cleared => exact h.drop (List.nil_sublist _) rfl

/- Every run keeps a state sound. -/
theorem Run.sound
    {P : SharedCache ι Φ → Event ι Φ → SharedCache ι Φ → Prop}
    {s t : SharedCache ι Φ}
    {es : List (Event ι Φ)}
    (hRun : Run P s es t)
    (h : Sound s) :
    Sound t := by
  induction hRun with
  | done => exact h
  | step hStep _ _ ih => exact ih (hStep.sound h)

/- A run has every weaker property of its steps. -/
theorem Run.mono
    {P Q : SharedCache ι Φ → Event ι Φ → SharedCache ι Φ → Prop}
    {s t : SharedCache ι Φ}
    {es : List (Event ι Φ)}
    (hRun : Run P s es t)
    (h : ∀ {s e t}, P s e t → Q s e t) :
    Run Q s es t := by
  induction hRun with
  | done => exact .done
  | step hStep hP _ ih => exact .step hStep (h hP) ih

------------------------------------------------------------
-- One Caller at a Time
------------------------------------------------------------

omit [DecidableEq ι] [DecidableEq Φ] in
/- A cell without plan is empty if no caller has anything to do. -/
theorem Sound.eq_empty_of_idle
    {s : SharedCache ι Φ}
    {cell : Nat}
    (h : Sound s)
    (hIdle : ∀ j, s.callers j = .idle)
    (hPlan : (s.cells cell).plan? = none) :
    s.cells cell = .empty := by
  cases hCell : s.cells cell with
  | empty => rfl
  | busy j =>
      rcases (h.busy j cell).mp hCell with ⟨key, hCompiling⟩
      rw [hIdle j] at hCompiling
      cases hCompiling
  | filled plan =>
      rw [hCell] at hPlan
      cases hPlan

/-
  A caller that waits for an empty cell may settle its request in
  a run of its own.
-/
theorem exists_run_of_settle
    {s : SharedCache ι Φ}
    {i : ι}
    {key : PlanKey Φ}
    {cell : Nat}
    {E Ω : Type}
    (hWaiting : s.callers i = .waiting key cell)
    (hEmpty : s.cells cell = .empty)
    (result : Except E Plan)
    (report : Ω) :
    ∃ es t,
      Run (fun _ _ _ => True) s es t ∧
        t.cache =
          (PlanCache.settle key cell
            (PlanCache.conclude ⟨result, report, s.cache⟩)).cache ∧
        t.callers = update s.callers i .idle ∧
        (allAnswers es).map Answer.plan =
          (PlanCache.settle key cell
              (PlanCache.conclude ⟨result, report, s.cache⟩)
            ).result.toOption.toList := by
  have hEntered := Step.entered hWaiting hEmpty
  have hCompiling := update_self i (.compiling key cell) s.callers
  cases result with
  | ok plan =>
      refine ⟨_, _, .step hEntered trivial
        (.step (.compiled plan hCompiling) trivial .done), ?_, ?_, ?_⟩
      · rfl
      · exact update_idem _ _ _
      · rfl
  | error err =>
      refine ⟨_, _, .step hEntered trivial
        (.step (.failed hCompiling) trivial
          (.step (.gaveUp (update_self i _ _)) trivial .done)), ?_, ?_, ?_⟩
      · rfl
      · simp only [update_idem]
      · rfl

/-
  A request for a plan that nothing else comes between is a run
  of one caller.  The answer of the run is the plan of the
  request, if there is one.
-/
theorem exists_run_of_getOrCompile
    {s : SharedCache ι Φ}
    {E Ω : Type}
    (hSound : Sound s)
    (hIdle : ∀ j, s.callers j = .idle)
    (hEnabled : s.cache.config.enabled = true)
    (i : ι)
    (key : PlanKey Φ)
    (result : Except E Plan)
    (report : Ω) :
    ∃ es t,
      Run (fun _ _ _ => True) s es t ∧
        t.cache =
          (s.cache.getOrCompile key
            fun c => ⟨result, report, c⟩).cache ∧
        t.callers = s.callers ∧
        (allAnswers es).map Answer.plan =
          (s.cache.getOrCompile key
            fun c => ⟨result, report, c⟩).result.toOption.toList := by
  have hShown :=
    (hSound.request (hIdle i) key).content _
      (hSound.holds.request key).2.1
  have hRequested := Step.requested key hEnabled (hIdle i)
  have hWaiting :=
    update_self i (.waiting key (s.cache.request key).1.cell) s.callers
  -- afterwards the caller has nothing to do, as before
  have hCallers :
      ∀ a, update (update s.callers i a) i .idle = s.callers := by
    intro a
    rw [update_idem, ← hIdle i, update_eq_self]
  unfold PlanCache.getOrCompile
  rw [if_pos hEnabled]
  simp only
  cases hContent : (s.cache.request key).1.content with
  | some plan =>
      have hFilled :
          s.cells (s.cache.request key).1.cell = .filled plan := by
        apply CellState.eq_filled_of_plan?
        rw [← hShown, hContent]
      refine ⟨_, _, .step hRequested trivial
        (.step (.served hWaiting hFilled) trivial .done), ?_, ?_, ?_⟩
      · rfl
      · exact hCallers _
      · rfl
  | none =>
      have hEmpty :
          s.cells (s.cache.request key).1.cell = .empty := by
        apply hSound.eq_empty_of_idle hIdle
        rw [← hShown, hContent]
      rcases exists_run_of_settle
          (s := ⟨(s.cache.request key).2, s.cells,
            update s.callers i
              (.waiting key (s.cache.request key).1.cell)⟩)
          hWaiting hEmpty result report
        with ⟨es, t, hRun, hCache, hFinally, hAnswers⟩
      refine ⟨_, t, .step hRequested trivial hRun, hCache, ?_, hAnswers⟩
      rw [hFinally]
      exact hCallers _

end Steps

end SharedCache

end TraversalPlanner
