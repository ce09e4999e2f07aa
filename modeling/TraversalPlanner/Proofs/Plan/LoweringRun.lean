import TraversalPlanner.Plan.Lowering

/-
  Lowering as a run of steps.  Each step pushes a set, which must
  have a fragment, or takes the next variable for a resource that
  the pattern leaves unnamed.  No step fails, and the pushed sets
  are those that the pattern is lowered to.

  Main declarations:
    * `Lowering.Progress`
    * `Lowering.runProperty`
    * `Pattern.lowerRun`
    * `Lowering.Pushes`
    * `Lowering.lowerRun_eq_ok`
-/

namespace TraversalPlanner

namespace Lowering

------------------------------------------------------------
-- Steps
------------------------------------------------------------

/- The sets pushed so far, and the resources left unnamed so far. -/
structure Progress where
  sets : List FragmentSet
  unnamed : Nat

/- A step of lowering, which a misuse of fragment sets would end. -/
abbrev Run (α : Type) : Type :=
  StateT Progress (Except ContractViolation) α

/- Push the set of a list of fragments, which must have one. -/
def push (fs : List Fragment) : Run Unit := do
  let s ← FragmentSet.ofList fs
  modify fun progress => { progress with sets := progress.sets ++ [s] }

/- Take the variable of a reference; the label of a type is pinned. -/
def runTypeVar : TypeRef → Run Var
| .var x => pure x
| .label l => do
    push [.filter (.label l) (labelVar l)]
    pure (labelVar l)

/- Take the variable of a role, if there is a role. -/
def runRole : Option TypeRef → Run (Option Var)
| none => pure none
| some t => do
    let y ← runTypeVar t
    pure (some y)

/- Take the variable of a resource, a new one if it has none. -/
def runResource : Option Var → Run Var
| some y => pure y
| none => do
    let progress ← get
    set { progress with unnamed := progress.unnamed + 1 }
    pure (resourceVar progress.unnamed)

/- Push an edge from a variable to the type of a reference. -/
def runTyped
    (e : Edge)
    (x : Var)
    (t : TypeRef) : Run Unit := do
  let y ← runTypeVar t
  push [.step e .outward x y, .step e .inward y x]

/- Push a filter on a variable. -/
def runFilter
    (x : Var)
    (f : Filter) : Run Unit :=
  push [.filter f x]

/- Push the sets of a property of a variable. -/
def runProperty (x : Var) : Property → Run Unit
| .isa t => runTyped .isa x t
| .sub t => runTyped .sub x t
| .relates t => runTyped .relates x t
| .plays t => runTyped .plays x t
| .label l => runFilter x (.label l)
| .id i => runFilter x (.id i)
| .value p => runFilter x (.value p)
| .dataType t => runFilter x (.dataType t)
| .isAbstract => runFilter x .isAbstract
| .regex r => runFilter x (.regex r)
| .has type resource predicate => do
    let y ← runResource resource
    push [.step (.has type) .outward x y, .step (.has type) .inward y x]
    match predicate with
    | none => pure ()
    | some p => runFilter y (.value p)
| .rolePlayer p => do
    let roleVar ← runRole p.role
    push
      [.casting p.roleLabel? roleVar .outward x p.player,
       .casting p.roleLabel? roleVar .inward p.player x]
| .neq y => push [.neq x y, .neq y x]

/- Push the sets of a clause, property by property. -/
def runClause (c : Clause) : Run Unit :=
  forM c.properties (runProperty c.subject)

end Lowering

/- Lower a pattern step by step, clause by clause. -/
def Pattern.lowerRun (p : Pattern) :
    Except ContractViolation (List FragmentSet) := do
  let (_, progress) ← (forM p.clauses Lowering.runClause).run ⟨[], 0⟩
  pure progress.sets

namespace Lowering

------------------------------------------------------------
-- Effects of Steps
------------------------------------------------------------

/- The progress after further sets and resources. -/
def Progress.advance
    (progress : Progress)
    (sets : List FragmentSet)
    (unnamed : Nat) : Progress where
  sets := progress.sets ++ sets
  unnamed := progress.unnamed + unnamed

/- A step does not fail: it gives a value, and pushes and counts. -/
def Pushes
    {α : Type}
    (progress : Progress)
    (step : Run α)
    (value : α)
    (sets : List FragmentSet)
    (unnamed : Nat) : Prop :=
  step.run progress = .ok (value, progress.advance sets unnamed)

variable {progress : Progress}

/- A step that does nothing pushes nothing. -/
theorem pushes_pure
    {α : Type}
    (value : α) :
    Pushes progress (pure value) value [] 0 := by
  unfold Pushes Progress.advance
  rw [List.append_nil, Nat.add_zero]
  rfl

/- Two steps push what both of them push, in order. -/
theorem Pushes.bind
    {α β : Type}
    {step : Run α}
    {next : α → Run β}
    {a : α}
    {b : β}
    {s t : List FragmentSet}
    {m n : Nat}
    (hStep : Pushes progress step a s m)
    (hNext : Pushes (progress.advance s m) (next a) b t n) :
    Pushes progress (step >>= next) b (s ++ t) (m + n) := by
  unfold Pushes at hStep hNext ⊢
  have hAdvance :
      (progress.advance s m).advance t n =
        progress.advance (s ++ t) (m + n) := by
    unfold Progress.advance
    rw [List.append_assoc, Nat.add_assoc]
  rw [StateT.run_bind, hStep, ← hAdvance]
  exact hNext

/- A list with a fragment is pushed as a set. -/
theorem pushes_push
    (f : Fragment)
    (fs : List Fragment) :
    Pushes progress (push (f :: fs)) () [⟨f, fs⟩] 0 :=
  rfl

/- A reference gives its variable, and pushes what pins it. -/
theorem pushes_runTypeVar (t : TypeRef) :
    Pushes progress (runTypeVar t) (typeVar t) (pin t) 0 := by
  cases t with
  | label l => rfl
  | var x => exact pushes_pure x

/- A role gives its variable, and pushes what pins it. -/
theorem pushes_runRole (role : Option TypeRef) :
    Pushes progress (runRole role) (role.map typeVar)
      ((role.map pin).getD []) 0 := by
  cases role with
  | none => exact pushes_pure none
  | some t =>
      have hRole :
          Pushes progress (runRole (some t)) (some (typeVar t))
            (pin t ++ []) 0 :=
        (pushes_runTypeVar t).bind (n := 0) (pushes_pure _)
      rw [List.append_nil] at hRole
      exact hRole

/- An edge to a type is pushed behind what pins the type. -/
theorem pushes_runTyped
    (e : Edge)
    (x : Var)
    (t : TypeRef) :
    Pushes progress (runTyped e x t) ()
      (pin t ++ [connected e x (typeVar t)]) 0 :=
  (pushes_runTypeVar t).bind (n := 0) (pushes_push _ _)

/- Only a resource that is left unnamed gets the next variable. -/
theorem pushes_runResource (resource : Option Var) :
    Pushes progress (runResource resource)
      (resource.getD (resourceVar progress.unnamed)) []
      (if resource.isNone then 1 else 0) := by
  cases resource with
  | some y => exact pushes_pure y
  | none =>
      unfold Pushes Progress.advance
      rw [List.append_nil]
      rfl

/-
  What a property pushes and counts.  The variable of an unnamed
  resource is told by the resources left unnamed before it.
-/
theorem pushes_runProperty
    (x : Var)
    (q : Property) :
    Pushes progress (runProperty x q) ()
      (ofProperty progress.unnamed x q) (unnamedResources q) := by
  cases q with
  | isa t => exact pushes_runTyped .isa x t
  | sub t => exact pushes_runTyped .sub x t
  | relates t => exact pushes_runTyped .relates x t
  | plays t => exact pushes_runTyped .plays x t
  | has type resource predicate =>
      have hCount :
          unnamedResources (.has type resource predicate) =
            if resource.isNone then 1 else 0 := by
        cases resource <;> rfl
      rw [hCount]
      refine (pushes_runResource resource).bind (n := 0) ?_
      refine (pushes_push _ _).bind (n := 0) ?_
      cases predicate with
      | none => exact pushes_pure ()
      | some p => exact pushes_push _ _
  | rolePlayer p =>
      exact (pushes_runRole p.role).bind (n := 0) (pushes_push _ _)
  | neq y => exact pushes_push _ _
  | label l => exact pushes_push _ _
  | id i => exact pushes_push _ _
  | value p => exact pushes_push _ _
  | dataType t => exact pushes_push _ _
  | isAbstract => exact pushes_push _ _
  | regex r => exact pushes_push _ _

------------------------------------------------------------
-- Runs of Steps
------------------------------------------------------------

/- What the properties of a variable push and count. -/
theorem pushes_runProperties
    (x : Var)
    (qs : List Property) :
    ∀ {progress : Progress},
      Pushes progress (forM qs (runProperty x)) ()
        (ofProperties progress.unnamed x qs)
        ((qs.map unnamedResources).foldr (· + ·) 0) := by
  induction qs with
  | nil =>
      intro progress
      exact pushes_pure ()
  | cons q qs ih =>
      intro progress
      rw [List.forM_cons]
      exact (pushes_runProperty x q).bind ih

/- What the clauses of a pattern push and count. -/
theorem pushes_runClauses (cs : List Clause) :
    ∀ {progress : Progress},
      Pushes progress (forM cs runClause) ()
        (ofClauses progress.unnamed cs)
        ((cs.map unnamedInClause).foldr (· + ·) 0) := by
  induction cs with
  | nil =>
      intro progress
      exact pushes_pure ()
  | cons c cs ih =>
      intro progress
      rw [List.forM_cons]
      exact (pushes_runProperties c.subject c.properties).bind ih

/- Lowering never fails, and gives the sets of the pattern. -/
theorem lowerRun_eq_ok (p : Pattern) :
    p.lowerRun = .ok p.lower := by
  have hRun : Pushes ⟨[], 0⟩ (forM p.clauses runClause) () p.lower _ :=
    pushes_runClauses p.clauses
  unfold Pushes at hRun
  unfold Pattern.lowerRun
  rw [hRun]
  rfl

end Lowering

end TraversalPlanner
