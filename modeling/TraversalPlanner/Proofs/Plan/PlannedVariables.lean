import TraversalPlanner.Proofs.Plan.LoweredVariables
import TraversalPlanner.Proofs.Plan.Representation

/-
  The variables of the steps of a plan.  They are the variables
  that some statements of the pattern involve: all statements but
  the role players without a labelled role that have another role
  variable than the first such one of the same relation and
  player.

  Main declarations:
    * `Statement.openRole?`
    * `Pattern.keepsVars`
    * `Pattern.Plans`
    * `Pattern.plans_of_mem_vars`
    * `Optimizer.exists_step_iff_plans`
-/

namespace TraversalPlanner

------------------------------------------------------------
-- Role Players Without Labelled Roles
------------------------------------------------------------

namespace Statement

/-
  The relation, the player and the role variable, if there is one,
  of a role player whose role is not given by a label.
-/
def openRole? (s : Statement) : Option (Var × Var × Option Var) :=
  match s.property with
  | .rolePlayer ⟨none, y⟩ => some (s.subject, y, none)
  | .rolePlayer ⟨some (.var v), y⟩ => some (s.subject, y, some v)
  | _ => none

/- The role variable of such a role player for given variables. -/
def roleVarOf?
    (relation player : Var)
    (s : Statement) : Option (Option Var) :=
  match s.openRole? with
  | some (x, y, v) =>
      if x = relation ∧ y = player then some v else none
  | none => none

end Statement

namespace Pattern

/-
  The role variable of the first role player without a labelled
  role between a relation and a player.
-/
def firstRoleVar?
    (p : Pattern)
    (relation player : Var) : Option (Option Var) :=
  p.statements.findSome? (Statement.roleVarOf? relation player)

/-
  A role player without a labelled role has the role variable of
  the first one.  Other statements always pass.
-/
def keepsVars
    (p : Pattern)
    (s : Statement) : Bool :=
  match s.openRole? with
  | some (x, y, v) => decide (p.firstRoleVar? x y = some v)
  | none => true

/- A statement that passes this test involves the variable. -/
def Plans
    (p : Pattern)
    (x : Var) : Prop :=
  Statement.Involves (p.statements.filter p.keepsVars) x

/- Statements that leave a resource unnamed pass the test. -/
theorem keepsVars_of_leavesUnnamed
    {p : Pattern}
    {s : Statement}
    (h : s.leavesUnnamed = true) :
    p.keepsVars s = true := by
  rcases s with ⟨x, q⟩
  cases q with
  | has type resource predicate => rfl
  | _ => cases h

/-
  If all clauses have properties and all statements pass the
  test, every variable of the pattern is in a statement that does.
-/
theorem plans_of_mem_vars
    {p : Pattern}
    (hClauses : ∀ c ∈ p.clauses, c.properties ≠ [])
    (hKeeps : ∀ s ∈ p.statements, p.keepsVars s = true)
    {x : Var}
    (hx : x ∈ p.vars) :
    p.Plans x := by
  unfold Plans
  rw [List.filter_eq_self.mpr hKeeps]
  have hStatement : ∀ c ∈ p.clauses, ∀ q ∈ c.properties,
      Statement.mk c.subject q ∈ p.statements :=
    fun c hc q hq =>
      List.mem_flatMap.mpr ⟨c, hc, List.mem_map_of_mem hq⟩
  unfold vars at hx
  rw [SortedSet.mem_ofList, List.mem_flatMap] at hx
  rcases hx with ⟨c, hc, hx⟩
  rcases List.mem_cons.mp hx with rfl | hx
  · rcases List.exists_mem_of_ne_nil _ (hClauses c hc) with ⟨q, hq⟩
    exact .subject (hStatement c hc q hq)
  · rcases List.mem_flatMap.mp hx with ⟨q, hq, hInner⟩
    exact .inner (hStatement c hc q hq) hInner

end Pattern

namespace Lowering

/- A role player without a labelled role is lowered to a casting. -/
theorem ofProperty_of_openRole?
    {s : Statement}
    {relation player : Var}
    {v : Option Var}
    (h : s.openRole? = some (relation, player, v))
    (n : Nat) :
    ofProperty n s.subject s.property =
      [cast none v relation player] := by
  rcases s with ⟨x, q⟩
  unfold Statement.openRole? at h
  split at h
  · rename_i y hProperty
    cases h
    cases hProperty
    rfl
  · rename_i w y hProperty
    cases h
    cases hProperty
    rfl
  · cases h

/- Other statements have no castings without a labelled role. -/
theorem roleVarOf?_of_mem_ofProperty
    {s : Statement}
    (hRole : s.openRole? = none)
    {n : Nat}
    {k : FragmentSet}
    (hk : k ∈ ofProperty n s.subject s.property)
    (relation player : Var) :
    roleVarOf? relation player k = none := by
  rcases s with ⟨x, q⟩
  have hTyped : ∀ (e : Edge) (t : TypeRef),
      k ∈ pin t ++ [connected e x (typeVar t)] →
        roleVarOf? relation player k = none := by
    intro e t hk
    cases t with
    | label l =>
        rcases List.mem_cons.mp hk with rfl | hk
        · rfl
        · rw [List.mem_singleton.mp hk]
          rfl
    | var y =>
        rw [List.mem_singleton.mp hk]
        rfl
  have hFilter : ∀ f : Filter,
      k ∈ [filtered f x] → roleVarOf? relation player k = none := by
    intro f hk
    rw [List.mem_singleton.mp hk]
    rfl
  cases q with
  | isa t => exact hTyped .isa t hk
  | sub t => exact hTyped .sub t hk
  | relates t => exact hTyped .relates t hk
  | plays t => exact hTyped .plays t hk
  | label l => exact hFilter (.label l) hk
  | id i => exact hFilter (.id i) hk
  | value p => exact hFilter (.value p) hk
  | dataType t => exact hFilter (.dataType t) hk
  | isAbstract => exact hFilter .isAbstract hk
  | regex r => exact hFilter (.regex r) hk
  | has type resource predicate =>
      rcases List.mem_cons.mp hk with rfl | hk
      · rfl
      · cases predicate with
        | none => cases hk
        | some p =>
            rw [List.mem_singleton.mp hk]
            rfl
  | rolePlayer p =>
      rcases p with ⟨role, y⟩
      cases role with
      | none => cases hRole
      | some t =>
          cases t with
          | var v => cases hRole
          | label l =>
              rcases List.mem_cons.mp hk with rfl | hk
              · rfl
              · rw [List.mem_singleton.mp hk]
                rfl
  | neq y =>
      rw [List.mem_singleton.mp hk]
      rfl

/- Only such role players are lowered to castings without a role. -/
theorem openRole?_of_cast_mem
    {s : Statement}
    {relation player : Var}
    {v : Option Var}
    {n : Nat}
    (h :
      cast none v relation player ∈
        ofProperty n s.subject s.property) :
    s.openRole? = some (relation, player, v) := by
  cases hRole : s.openRole? with
  | none =>
      have hNone := roleVarOf?_of_mem_ofProperty hRole h relation player
      rw [roleVarOf?_cast] at hNone
      cases hNone
  | some role =>
      rcases role with ⟨x, y, w⟩
      rw [ofProperty_of_openRole? hRole, List.mem_singleton] at h
      cases h
      rfl

/- The role variable of the sets of a statement is its own. -/
theorem findSome?_roleVarOf?_ofProperty
    (n : Nat)
    (relation player : Var)
    (s : Statement) :
    (ofProperty n s.subject s.property).findSome?
        (roleVarOf? relation player) =
      s.roleVarOf? relation player := by
  unfold Statement.roleVarOf?
  cases hRole : s.openRole? with
  | none =>
      rw [List.findSome?_eq_none_iff]
      intro k hk
      exact roleVarOf?_of_mem_ofProperty hRole hk relation player
  | some role =>
      rcases role with ⟨x, y, v⟩
      rw [ofProperty_of_openRole? hRole, List.findSome?_singleton]
      rfl

/- The first role variable of a lowered pattern is its own. -/
theorem findSome?_roleVarOf?_lower
    (p : Pattern)
    (relation player : Var) :
    p.lower.findSome? (roleVarOf? relation player) =
      p.firstRoleVar? relation player := by
  have hPart :
      (fun e : Statement × Nat =>
        (ofProperty (p.unnamedBefore e.2) e.1.subject
          e.1.property).findSome? (roleVarOf? relation player)) =
        Statement.roleVarOf? relation player ∘ Prod.fst := by
    funext e
    exact findSome?_roleVarOf?_ofProperty _ relation player e.1
  calc
    p.lower.findSome? (roleVarOf? relation player)
        = p.parts.findSome? fun sets =>
            sets.findSome? (roleVarOf? relation player) := by
          rw [p.lower_eq_flatten_parts, ← List.head?_filterMap,
            List.filterMap_flatten, List.head?_flatten, List.findSome?_map]
          simp only [Function.comp_def, List.head?_filterMap]
    _ = (p.statements.zipIdx.map Prod.fst).findSome?
          (Statement.roleVarOf? relation player) := by
          rw [Pattern.parts, List.findSome?_map, List.findSome?_map,
            ← hPart]
          rfl
    _ = p.firstRoleVar? relation player := by
          rw [List.zipIdx_map_fst]
          rfl

end Lowering

------------------------------------------------------------
-- Variables of Steps
------------------------------------------------------------

namespace Optimizer

open Lowering

variable
  {o : Optimizer}
  {p : Pattern}
  {startVars : VarSet}
  {plan : Plan}

/-
  A step has the variables of a lowered set, unless this is a
  casting with another role variable than the first one.
-/
theorem exists_step_of_mem_vars
    (h : o.optimize p.lower startVars = .ok plan)
    {s : FragmentSet}
    (hs : s ∈ p.lower)
    (hFirst :
      ∀ v relation player,
        s = cast none v relation player →
          p.firstRoleVar? relation player = some v)
    {x : Var}
    (hx : x ∈ s.first.vars) :
    ∃ step ∈ plan.steps, x ∈ step.fragment.vars := by
  have hLowered : ∀ t ∈ p.lower, IsLowered t :=
    fun t ht => isLowered_of_mem_lower ht
  rcases exists_step_matches h hs
    with ⟨k, hk, step, hStep, hMem, _, g, hg, hMatches⟩
  have hOthers : step.fragment.others = g.others := by
    have hkLowered := hLowered k (Arena.mem_of_mem_build hk)
    rcases hkLowered.others_eq_or_cast (hLowered s hs) hMem hg hMatches
      with hOthers | ⟨v, w, relation, player, rfl, rfl, hv, hw⟩
    · exact hOthers
    · have hFirstK := findSome?_roleVarOf?_of_mem_build hLowered hk
      rw [findSome?_roleVarOf?_lower, hFirst w relation player rfl]
        at hFirstK
      rw [hv, hw, Option.some.inj hFirstK]
  refine ⟨step, hStep, ?_⟩
  rw [← (hLowered s hs).vars_eq hg, Fragment.mem_vars_iff] at hx
  rw [Fragment.mem_vars_iff, hMatches.2.1, hMatches.2.2, hOthers]
  exact hx

/- The steps of a plan have the variables that its pattern plans. -/
theorem exists_step_iff_plans
    (h : o.optimize p.lower startVars = .ok plan)
    (x : Var) :
    (∃ step ∈ plan.steps, x ∈ step.fragment.vars) ↔ p.Plans x := by
  unfold Pattern.Plans
  rw [← exists_set_iff_involves_filter p
    (fun _ => Pattern.keepsVars_of_leavesUnnamed)]
  constructor
  · rintro ⟨step, hStep, hx⟩
    rcases exists_set_of_mem_steps h hStep with ⟨k, hk, hMem⟩
    have hkMem := Arena.mem_of_mem_build hk
    rcases Pattern.mem_lower_iff.mp hkMem with ⟨e, he, hSet⟩
    have hkLowered := isLowered_of_mem_lower hkMem
    rw [hkLowered.vars_eq hMem] at hx
    refine ⟨e, he, ?_, k, hSet, hx⟩
    unfold Pattern.keepsVars
    split
    · rename_i relation player v hRole
      -- the set is the only one of this role player
      rw [ofProperty_of_openRole? hRole, List.mem_singleton] at hSet
      rw [hSet] at hk
      rw [decide_eq_true_iff, ← findSome?_roleVarOf?_lower]
      exact findSome?_roleVarOf?_of_mem_build
        (fun _ => isLowered_of_mem_lower) hk
    · rfl
  · rintro ⟨e, he, hKept, s, hSet, hx⟩
    have hs := Pattern.mem_lower_iff.mpr ⟨e, he, hSet⟩
    refine exists_step_of_mem_vars h hs ?_ hx
    rintro v relation player rfl
    unfold Pattern.keepsVars at hKept
    rw [openRole?_of_cast_mem hSet] at hKept
    exact of_decide_eq_true hKept

end Optimizer

end TraversalPlanner
